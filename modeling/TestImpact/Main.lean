import TestImpact.CommandLine.Run

/-!
# The program

Gives the command line the files of the machine, and prints what it ends with.
-/

namespace TestImpact

/-- The access error for a type of file that does not fit, by the code of the
system. Some calls give the code with a minus. -/
def typeError (code : UInt32) (details : String) : AccessError :=
  if code = 20 ∨ code = -20 then .notADirectory
  else if code = 21 ∨ code = -21 then .isADirectory
  else .refused details

def accessError (cause : IO.Error) : AccessError :=
  match cause with
  | .noFileOrDirectory .. => .notFound
  | .inappropriateType _ code details => typeError code details
  | other => .refused (toString other)

def guarded {α : Type} (action : IO α) : IO (Except AccessError α) := do
  try return .ok (← action) catch cause => return .error (accessError cause)

/-- The files of the machine. The system gives every name of an entry as a text, so none is
raw. -/
def machineDisk : Disk IO where
  readText path := do return (← guarded (IO.FS.readBinFile path)).bind decodeText
  isPresent path := do ((← IO.currentDir) / path).pathExists
  names path := guarded do
    return (← ((← IO.currentDir) / path).readDir).toList.map (.text ·.fileName)
  readRaw _ _ := return .error .notFound
  canonical path := guarded do return (← IO.FS.realPath path).toString

def environmentValue (found : Option String) : EnvironmentValue :=
  match found with
  | some raw => .text raw
  | none => .unset

def standardInput : IO (Except AccessError String) := do
  return (← guarded do (← IO.getStdin).readBinToEnd).bind decodeText

end TestImpact

open TestImpact in
def main (arguments : List String) : IO UInt32 := do
  let around : CommandLine.Surroundings IO :=
    { disk := machineDisk
      directory := (← IO.currentDir).toString
      depth := environmentValue (← IO.getEnv EngineConfig.depthVariable)
      input := standardInput }
  let outcome ← CommandLine.run around arguments
  IO.print outcome.output
  match outcome.failure with
  | some failure => IO.eprintln ("Error: " ++ failure.message)
  | none => pure ()
  return outcome.status.toUInt32
