import TestImpact.Path
import TestImpact.Text.Lowercase

/-!
# Languages of files

The language of a source file is told by its extension, in any letter case.
-/

namespace TestImpact

/-- The languages that are told apart. -/
inductive SourceLanguage where
  | go
  | typescript
  | javascript
  | java
  | python
  deriving DecidableEq, Repr

namespace SourceLanguage

def name : SourceLanguage → String
  | go => "go"
  | typescript => "typescript"
  | javascript => "javascript"
  | java => "java"
  | python => "python"

theorem name_injective {first second : SourceLanguage} (same : first.name = second.name) :
    first = second := by
  cases first <;> cases second <;> first | rfl | exact absurd same (by decide)

def ofExtension? : String → Option SourceLanguage
  | "go" => some go
  | "ts" => some typescript
  | "tsx" => some typescript
  | "js" => some javascript
  | "jsx" => some javascript
  | "java" => some java
  | "py" => some python
  | _ => none

def extensionOf (path : String) : String :=
  Text.lowercaseAscii ((Path.extension? path).getD "")

def ofPath? (path : String) : Option SourceLanguage := ofExtension? (extensionOf path)

/-- What a file without a known language is called: its extension, or its path
without one. -/
def unknownType (path : String) : String :=
  if extensionOf path = "" then path else "." ++ extensionOf path

end SourceLanguage

end TestImpact
