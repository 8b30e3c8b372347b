import TestImpact.Engine.Call

/-!
# Plans

A plan is work that makes calls and, at checkpoints, asks whether it is cancelled.
It says what is done with every answer but not who answers, so that one plan can be
carried out on the machine, on scripted answers, or in a proof. What a plan does at
a checkpoint once it is cancelled is its own affair; `ask` is the checkpoint that
ends the work.
-/

namespace TestImpact

/-- Work with calls and checkpoints. -/
inductive Plan (α : Type) where
  | done (value : α)
  | stop (error : EngineError)
  | checkpoint (next : Bool → Plan α)
  | call (request : Call) (next : request.Answer → Plan α)

namespace Plan

variable {α β : Type}

def andThen : Plan α → (α → Plan β) → Plan β
  | done value, next => next value
  | stop error, _ => stop error
  | checkpoint rest, next => checkpoint fun cancelled => (rest cancelled).andThen next
  | call request rest, next => call request fun answer => (rest answer).andThen next

instance : Monad Plan where
  pure := done
  bind := andThen

def ask : Plan Unit := checkpoint fun cancelled => if cancelled then stop .cancelled else done ()

def request (wanted : Call) : Plan wanted.Answer := call wanted done

def take : Except EngineError α → Plan α
  | .ok value => done value
  | .error error => stop error

def attempt : Plan α → Plan (Except EngineError α)
  | done value => done (.ok value)
  | stop error => done (.error error)
  | checkpoint rest => checkpoint fun cancelled => (rest cancelled).attempt
  | call request rest => call request fun answer => (rest answer).attempt

def inTurn (work : α → Plan β) : List α → Plan (List β)
  | [] => done []
  | item :: rest => do
      ask
      let result ← work item
      let results ← inTurn work rest
      return result :: results

/-- What happens while a plan is carried out. -/
inductive Moment where
  /-- The plan asks whether it is cancelled. -/
  | asked
  /-- A call is made. -/
  | called (request : Call)
  deriving DecidableEq

abbrev Cancellation := List Moment → Bool

def Cancellation.never : Cancellation := fun _ => false

/-- Carries out a plan, and gives its outcome with all that has happened. -/
def run {m : Type → Type} [Monad m] (answers : Answers m) (cancelled : Cancellation) :
    Plan α → (past : List Moment) → m (Except EngineError α × List Moment)
  | done value, past => pure (.ok value, past)
  | stop error, past => pure (.error error, past)
  | checkpoint next, past =>
      (next (cancelled (past ++ [.asked]))).run answers cancelled (past ++ [.asked])
  | call request next, past => do
      (next (← answers request)).run answers cancelled (past ++ [.called request])

def calls (past : List Moment) : List Call :=
  past.filterMap fun
    | .asked => none
    | .called request => some request

end Plan

end TestImpact
