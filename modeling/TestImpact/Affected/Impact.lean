import TestImpact.Json.Codec
import TestImpact.Listing.Distinct

/-!
# The impact of a change

A change names files. Its impact is every file that the changed files reach, with
the tests that cover those files. Without a symbol graph only the changed files
themselves are known to be affected.
-/

namespace TestImpact

open Json (Codec)
open Listing (Dictionary firstOccurrences)

/-- What a change reaches and which tests cover it. -/
structure Impact where
  /-- The changed files as they were given. -/
  changed : List String
  /-- The changed files and what they reach, each file once. -/
  affected : List String
  /-- The files that a changed file references directly. -/
  dependencies : Dictionary (List String)
  /-- The tests that cover an affected file. -/
  coverage : Dictionary (List String)
  deriving DecidableEq

namespace Impact

def fields : List (Json.Field Impact) :=
  [.required "changed_files" Json.textsCodec changed fun value impact =>
     { impact with changed := value },
   .required "affected_files" Json.textsCodec affected fun value impact =>
     { impact with affected := value },
   .required "dependencies" (Json.dictionaryCodec Json.textsCodec) dependencies
     fun value impact => { impact with dependencies := value },
   .required "test_mapping" (Json.dictionaryCodec Json.textsCodec) coverage
     fun value impact => { impact with coverage := value }]

def codec : Codec Impact := Json.recordCodec fields ⟨[], [], .empty, .empty⟩

def ofChanged (changed : List String) : Impact :=
  ⟨changed, firstOccurrences changed, .empty, .empty⟩

def tests (impact : Impact) : List String :=
  firstOccurrences (impact.affected.flatMap fun file => (impact.coverage.get? file).getD [])

end Impact

end TestImpact
