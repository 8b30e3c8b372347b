import TestImpact.Json.Codec

/-!
# Snapshots of a symbol graph

An indexer describes a program as symbols, each declared in one file, and
references from symbol to symbol. A snapshot is that description as it was
written: ids may repeat, and references may name ids that no symbol has.
-/

namespace TestImpact

open Json (Codec Fault)

/-- What a symbol is in its program. -/
inductive SymbolKind where
  | function
  | method
  | struct
  | interface
  | var
  | constant
  | package
  | importName
  | type
  | field
  deriving DecidableEq, Repr, Inhabited

namespace SymbolKind

def name : SymbolKind → String
  | function => "function"
  | method => "method"
  | struct => "struct"
  | interface => "interface"
  | var => "variable"
  | constant => "constant"
  | package => "package"
  | importName => "import"
  | type => "type"
  | field => "field"

def all : List SymbolKind :=
  [function, method, struct, interface, var, constant, package, importName, type, field]

def ofName? (written : String) : Option SymbolKind := all.find? (·.name = written)

theorem ofName?_name (kind : SymbolKind) : ofName? kind.name = some kind := by
  cases kind <;> decide

def codec : Codec SymbolKind := Json.choiceCodec name ofName?

end SymbolKind

/-- What a reference does with the symbol it refers to. -/
inductive ReferenceKind where
  | calls
  | imports
  | inherits
  | implements
  | uses
  | references
  | dependsOn
  deriving DecidableEq, Repr

namespace ReferenceKind

def name : ReferenceKind → String
  | calls => "calls"
  | imports => "imports"
  | inherits => "extends"
  | implements => "implements"
  | uses => "uses"
  | references => "references"
  | dependsOn => "depends_on"

def all : List ReferenceKind :=
  [calls, imports, inherits, implements, uses, references, dependsOn]

def ofName? (written : String) : Option ReferenceKind := all.find? (·.name = written)

theorem ofName?_name (kind : ReferenceKind) : ofName? kind.name = some kind := by
  cases kind <;> decide

def codec : Codec ReferenceKind := Json.choiceCodec name ofName?

end ReferenceKind

/-- A named part of a program, declared in one file. -/
structure Symbol where
  /-- Identifies the symbol within its graph. -/
  id : String
  name : String
  kind : SymbolKind
  /-- The file that declares the symbol, as the indexer wrote it. -/
  file : String
  line : Nat
  deriving DecidableEq, Repr

namespace Symbol

def fields : List (Json.Field Symbol) :=
  [.required "id" Json.textCodec id fun value symbol => { symbol with id := value },
   .defaulted "name" Json.textCodec name fun value symbol => { symbol with name := value },
   .defaulted "type" SymbolKind.codec kind fun value symbol => { symbol with kind := value },
   .required "path" Json.textCodec file fun value symbol => { symbol with file := value },
   .defaulted "line" Json.naturalCodec line fun value symbol => { symbol with line := value }]

/-- Symbols are functions on line 0 without a name, unless written otherwise. -/
def codec : Codec Symbol := Json.recordCodec fields ⟨"", "", .function, "", 0⟩

end Symbol

/-- A reference from one symbol to another, by id. -/
structure Reference where
  source : String
  target : String
  kind : ReferenceKind
  deriving DecidableEq, Repr

namespace Reference

def fields : List (Json.Field Reference) :=
  [.required "from" Json.textCodec source fun value reference =>
     { reference with source := value },
   .required "to" Json.textCodec target fun value reference =>
     { reference with target := value },
   .defaulted "type" ReferenceKind.codec kind fun value reference =>
     { reference with kind := value }]

def codec : Codec Reference := Json.recordCodec fields ⟨"", "", .references⟩

end Reference

/-- The symbols and references of a program, as an indexer wrote them. -/
structure Snapshot where
  symbols : List Symbol
  references : List Reference
  deriving DecidableEq, Repr

namespace Snapshot

def empty : Snapshot := ⟨[], []⟩

def fields : List (Json.Field Snapshot) :=
  [.defaulted "nodes" (Json.listCodec Symbol.codec) symbols fun value snapshot =>
     { snapshot with symbols := value },
   .defaulted "edges" (Json.listCodec Reference.codec) references fun value snapshot =>
     { snapshot with references := value }]

def codec : Codec Snapshot := Json.recordCodec fields empty

end Snapshot

end TestImpact
