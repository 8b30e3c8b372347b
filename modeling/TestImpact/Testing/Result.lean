import TestImpact.Testing.Test

/-!
# Results and their summary

A result says how one test went. A summary counts results and lists the tests
that failed, in order; the share of passed tests is in percent, and is zero when
there was nothing to run.
-/

namespace TestImpact.Testing

open Json (Codec)

/-- The outcome of one test. -/
structure TestResult where
  success : Bool
  path : String
  name : String
  language : String
  /-- In seconds. -/
  duration : Float
  output : String
  error : Option String
  deriving DecidableEq

namespace TestResult

def fields : List (Json.Field TestResult) :=
  [.required "success" Json.flagCodec success fun value result =>
     { result with success := value },
   .required "test_path" Json.textCodec path fun value result => { result with path := value },
   .defaulted "test_name" Json.textCodec name fun value result => { result with name := value },
   .defaulted "language" Json.textCodec language fun value result =>
     { result with language := value },
   .defaulted "duration_secs" Json.doubleCodec duration fun value result =>
     { result with duration := value },
   .omitted "output" Json.textCodec output
     (fun value result => { result with output := value }) String.isEmpty,
   .omitted "error" (Json.optionalCodec Json.textCodec) error
     (fun value result => { result with error := value }) Option.isNone]

/-- Results without name, duration and output, unless written otherwise. -/
def codec : Codec TestResult := Json.recordCodec fields ⟨false, "", "", "", 0, "", none⟩

def passed (path language : String) : TestResult :=
  ⟨true, path, Path.displayName path, language, 0, "", none⟩

def failed (path language reason : String) : TestResult :=
  { passed path language with success := false, error := some reason }

end TestResult

/-- A summary of results. -/
structure Summary where
  success : Bool
  total : Nat
  passed : Nat
  failed : Nat
  /-- The share of passed tests, in percent. -/
  rate : Float
  /-- The sum of the durations, in seconds. -/
  duration : Float
  /-- The paths of the tests that failed, in order. -/
  failures : List String
  deriving DecidableEq

namespace Summary

def fields : List (Json.Field Summary) :=
  [.required "success" Json.flagCodec success fun value summary =>
     { summary with success := value },
   .required "total_tests" Json.naturalCodec total fun value summary =>
     { summary with total := value },
   .required "passed_tests" Json.naturalCodec passed fun value summary =>
     { summary with passed := value },
   .required "failed_tests" Json.naturalCodec failed fun value summary =>
     { summary with failed := value },
   .required "success_rate" Json.doubleCodec rate fun value summary =>
     { summary with rate := value },
   .required "total_duration_secs" Json.doubleCodec duration fun value summary =>
     { summary with duration := value },
   .required "failed_test_paths" Json.textsCodec failures
     fun value summary => { summary with failures := value }]

def codec : Codec Summary := Json.recordCodec fields ⟨true, 0, 0, 0, 0, 0, []⟩

def percentage (passed total : Nat) : Float :=
  if total = 0 then 0 else Float.ofNat passed / Float.ofNat total * 100

/-- Sums durations from left to right. The empty sum is the zero that changes no
summand, the negative one. -/
def totalDuration (results : List TestResult) : Float :=
  results.foldl (fun sum result => sum + result.duration) (-0.0)

def ofResults (results : List TestResult) : Summary :=
  let passed := results.countP (·.success)
  let failures := (results.filter fun result => !result.success).map (·.path)
  { success := failures.isEmpty
    total := results.length
    passed
    failed := failures.length
    rate := percentage passed results.length
    duration := totalDuration results
    failures }

end Summary

end TestImpact.Testing
