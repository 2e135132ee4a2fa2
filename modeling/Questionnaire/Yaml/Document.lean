import Questionnaire.Yaml.Scalar

/-!
# Values of documents

The value of a node. The key `<<` stands for the entries of the mappings behind it, which
come before the mapping's own. Keys that are equal are either written over or refused; where
they are refused, `<<` has no meaning. The number that is none does not equal itself, and
yet it is one key of a document.

A document can have several faults. The one that counts is the outermost, and of those the first.
-/

namespace Questionnaire.Yaml

def isNan : Value → Bool
  | .float .nan => true
  | _ => false

/-- Are two values one key? Any two numbers that are none count as one key. That is how
`.nan` is read, which is one object wherever it stands; two keys written `!!float nan` would
stay two, and are one here. -/
def sameKey (v w : Value) : Bool := v == w || (isNan v && isNan w)

inductive Repeats where
  | lastWins
  | refused
  deriving DecidableEq

/-- A fault and how deep it lies below the node that is looked at. -/
abbrev Faults : Type := List (Nat × Fault)

/-- The entries that a mapping adds where it is merged. -/
structure Merge where
  entries : List (Value × Value)
  faults : Faults

/-- What a node gives: its value, its faults, what it adds as a mapping, and what its
elements add. -/
structure Built where
  value : Value
  faults : Faults
  mapping : Option Merge := none
  elements : Option (List (Option Merge)) := none

/-- What a pair gives, with the kind of its key if that is a scalar. -/
structure BuiltPair where
  kind : Option Kind
  key : Built
  value : Built

namespace Built

/-- The faults of a node among those of the collection that holds it. -/
def inside (b : Built) : Faults :=
  if b.mapping.isSome || b.elements.isSome then b.faults.map fun (depth, fault) =>
    (depth + 1, fault) else b.faults

def ofScalar (kind : Kind) (text : String) : Built :=
  match kind.value text with
  | .ok v => { value := v, faults := [] }
  | .error fault => { value := .null, faults := [(0, fault)] }

def malformed : Faults := [(0, .document .unreadable)]

def ofItems (items : List Built) : Built where
  value := .list (items.map (·.value))
  faults := items.flatMap inside
  elements := some (items.map (·.mapping))

end Built

namespace BuiltPair

/-- The key of a pair; a list or map cannot be one. -/
def keyFaults (p : BuiltPair) : Faults :=
  if p.key.value.isKey then p.key.faults else Built.malformed

/-- The entries that the value behind `<<` adds: those of a mapping, or of the mappings of a
sequence, the last one first. -/
def merged (p : BuiltPair) : Merge :=
  match p.value.mapping, p.value.elements with
  | some m, _ => m
  | none, some elements =>
      if elements.all Option.isSome then
        let mappings := (elements.filterMap id).reverse
        ⟨mappings.flatMap (·.entries), mappings.flatMap (·.faults)⟩
      else ⟨[], Built.malformed⟩
  | none, none => ⟨[], Built.malformed⟩

/-- An entry of the mapping itself. The key `=` is a text here. -/
def entry (p : BuiltPair) : Merge :=
  if p.kind = some .default then ⟨[(.text "=", p.value.value)], p.value.inside⟩
  else ⟨[(p.key.value, p.value.value)], p.keyFaults ++ p.value.inside⟩

def isMerge (p : BuiltPair) : Bool := p.kind = some .merge

/-- All entries of a mapping, the merged ones first. A value that cannot be merged comes
before all other faults. -/
def gather (pairs : List BuiltPair) : Merge :=
  let merges := (pairs.filter isMerge).map merged
  let own := (pairs.filter fun p => !p.isMerge).map entry
  let cannot := (pairs.filter isMerge).any fun p =>
    p.value.mapping.isNone && !p.value.elements.any fun elements =>
      elements.all Option.isSome
  { entries := (merges ++ own).flatMap (·.entries)
    faults :=
      (if cannot then Built.malformed else []) ++ (merges ++ own).flatMap (·.faults) }

/-- The faults of keys that are equal to earlier ones, and of keys themselves. -/
def repeated : List Value → List BuiltPair → Faults
  | _, [] => []
  | seen, p :: rest =>
      if !p.key.faults.isEmpty && p.key.mapping.isNone && p.key.elements.isNone then p.key.faults
      else if !p.key.value.isKey then repeated seen rest
      else if seen.any (sameKey · p.key.value) then
        [(0, .document (.duplicateKey p.key.value))]
      else repeated (seen ++ [p.key.value]) rest

def build (repeats : Repeats) (pairs : List BuiltPair) : Built :=
  let m := gather pairs
  { value := .map (@Table.ofEntries Value Value ⟨sameKey⟩ m.entries)
    faults := (if repeats = .refused then repeated [] pairs else []) ++ m.faults
    mapping := some m }

end BuiltPair

mutual

def Node.build (repeats : Repeats) : Node → Built
  | .scalar kind text => .ofScalar kind text
  | .sequence items => .ofItems (buildItems repeats items)
  | .mapping pairs => BuiltPair.build repeats (buildPairs repeats pairs)
  | .unknown => { value := .null, faults := Built.malformed }

def Node.buildItems (repeats : Repeats) : List Node → List Built
  | [] => []
  | node :: rest => node.build repeats :: Node.buildItems repeats rest

def Node.buildPairs (repeats : Repeats) : List (Node × Node) → List BuiltPair
  | [] => []
  | (key, value) :: rest =>
      { kind := match key with
          | .scalar kind _ => some kind
          | _ => none
        key := key.build repeats
        value := value.build repeats } :: Node.buildPairs repeats rest

end

def outermost : Faults → Option Fault
  | [] => none
  | (depth, fault) :: rest =>
      let (_, first) :=
        rest.foldl (fun best next => if next.1 < best.1 then next else best) (depth, fault)
      some first

/-- The value of a node, or the fault that counts. -/
def Node.value (repeats : Repeats) (node : Node) : Except Fault Value :=
  let built := node.build repeats
  match outermost built.faults with
  | some fault => .error fault
  | none => .ok built.value

/-- The value of a document. An empty one is null. -/
def read (repeats : Repeats) (s : String) : Except Fault Value :=
  match (Token.ofDocument? s).bind Node.ofTokens? with
  | none => .error (.document .unreadable)
  | some none => .ok .null
  | some (some node) => node.value repeats

end Questionnaire.Yaml
