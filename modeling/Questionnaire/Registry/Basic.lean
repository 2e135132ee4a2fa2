import Questionnaire.Mapping
import Questionnaire.Options

/-!
# Registries of mappings

A registry has a table of mappings for each kind of entity, made of a part for answers and a
part for probes. It is accepted only if no key occurs in two parts, so that a key belongs to
one kind.
-/

namespace Questionnaire

/-- The mappings by key. Something without a mapping can be declared too. -/
abbrev MappingTable : Type := Table Value (Option Mapping)

structure Registry where
  tables : PerKind MappingTable

namespace Registry

/-- The keys of all parts with the names of the parts they occur in, in the order of the parts. -/
def owners (parts : List (String × MappingTable)) : Table Value (List String) :=
  parts.foldl (fun owners (name, table) =>
    table.foldl (fun owners (key, _) =>
      Table.put owners key ((Table.get? owners key).getD [] ++ [name])) owners) []

/-- The parts in the order in which they are searched. -/
def parts (answers probes : PerKind MappingTable) : List (String × MappingTable) :=
  EntityKind.all.flatMap fun kind =>
    [(kind.name ++ ".answers", answers.get kind),
      (kind.name ++ ".questions", probes.get kind)]

/-- The registry of the given parts, unless a key occurs in two of them. -/
def ofParts (answers probes : PerKind MappingTable) : Except Failure Registry :=
  let repeated := (owners (parts answers probes)).filter fun (_, names) => 1 < names.length
  if repeated.isEmpty then
    .ok ⟨PerKind.ofFunction fun kind => answers.get kind ++ probes.get kind⟩
  else
    match Value.sortOn? Prod.fst repeated with
    | some sorted => .error (.registry (.repeatedKeys sorted))
    | none => .error (.misuse .kind)

def mapping? (r : Registry) (key : Value) : Option Mapping :=
  r.tables.toList.findSome? fun (_, table) => (Table.get? table key).join

/-- The kind whose table has the key. -/
def kind? (r : Registry) (key : Value) : Option EntityKind :=
  (r.tables.toList.find? fun (_, table) => Table.contains table key).map Prod.fst

def keys (r : Registry) : List Value :=
  r.tables.toList.flatMap fun (_, table) => Table.keys table

def size (r : Registry) : Nat :=
  r.tables.toList.foldl (fun n (_, table) => n + table.length) 0

/-- The keys whose answers are not for the engine. -/
def excludedKeys (r : Registry) : List Value :=
  r.tables.toList.flatMap fun (_, table) =>
    (table.filter fun (_, mapping) => mapping.any Mapping.isExcluded).map Prod.fst

/-- The entry of a document; what counts as false is as good as an empty map. -/
def readSection (name : String) : Value → Except Failure (List (Value × Value))
  | .map entries =>
      match Value.field? name entries with
      | none => .ok []
      | some v =>
          if !v.truthy then .ok []
          else
            match v with
            | .map entries => .ok entries
            | _ => .error (.misuse .operation)
  | _ => .error (.misuse .operation)

def readPart (dispatchers : List Dispatcher) (part : String) (content : Value) :
    Except Failure MappingTable := do
  let entries ← readSection part content
  entries.mapM fun (key, entry) => do
    let mapping ← Mapping.ofValue dispatchers key entry
    return (key, some mapping)

def readKind (dispatchers : List Dispatcher) (document : Value) (kind : EntityKind) :
    Except Failure (MappingTable × MappingTable) := do
  match document with
  | .map entries =>
      let named := (Value.field? kind.name entries).getD .null
      let content := if named.truthy then named else .map []
      let answers ← readPart dispatchers "answers" content
      let probes ← readPart dispatchers "questions" content
      return (answers, probes)
  | _ => .error (.misuse .operation)

def ofValue (dispatchers : List Dispatcher) (document : Value) :
    Except Failure Registry := do
  let keys ← Options.keysOf document
  let unknown ← Options.unknownKeys (EntityKind.all.map EntityKind.name) keys
  if !unknown.isEmpty then .error (.registry (.unknownKinds unknown))
  else
    let (individualAnswers, individualProbes) ← readKind dispatchers document .individual
    let (householdAnswers, householdProbes) ← readKind dispatchers document .household
    let (taxAnswers, taxProbes) ← readKind dispatchers document .taxHousehold
    let (familyAnswers, familyProbes) ← readKind dispatchers document .family
    ofParts ⟨individualAnswers, householdAnswers, taxAnswers, familyAnswers⟩
      ⟨individualProbes, householdProbes, taxProbes, familyProbes⟩

end Registry

end Questionnaire
