import Mathlib.Data.Finset.Card
import Mathlib.Data.Set.List
import Questionnaire.Proofs.EntityForm
import Questionnaire.Proofs.KeyOrder
import Questionnaire.Proofs.RegistryPlaces
import Questionnaire.Proofs.StandardCells

/-!
# The parts of a registry

A registry is made of eight tables of text keys, two for each kind. It is refused if a key
occurs in two of them, and then told every such key with its parts. Otherwise a key has one
part, and all lookups agree with it.
-/

namespace Questionnaire

namespace Table

theorem get?_eq_none {κ α : Type} [BEq κ] [LawfulBEq κ] {t : Table κ α} {k : κ}
    (absent : k ∉ keys t) : get? t k = none := by
  rw [← Option.not_isSome_iff_eq_none]
  intro there
  exact absent ((contains_iff_mem_keys t k).mp there)

end Table

namespace EntityKind

variable {α : Type}

/-- A search over the kinds finds the only one that has something. -/
theorem findSome?_all {f : EntityKind → Option α} {kind : EntityKind} {a : α}
    (here : f kind = some a) (other : ∀ k, k ≠ kind → f k = none) :
    all.findSome? f = some a := by
  cases kind <;> simp [all, List.findSome?, here, other]

theorem find?_all {q : EntityKind → Bool} {kind : EntityKind} (here : q kind = true)
    (other : ∀ k, k ≠ kind → q k = false) : all.find? q = some kind := by
  cases kind <;> simp [all, List.find?, here, other]

end EntityKind

/-- How repeated keys are told. -/
theorem RegistryFault.message_repeatedKeys (keys : List String)
    (places : String → List String) :
    (repeatedKeys (keys.map fun key => (.text key, places key))).message =
      "Keys mapped more than once: " ++
        Text.joinWith "; " (keys.map fun key => key ++ ": " ++
          Text.joinWith ", " (places key)) := by
  have told (entries : List (Value × List String)) : (repeatedKeys entries).message =
      "Keys mapped more than once: " ++ Text.joinWith "; "
        (entries.map fun entry => entry.1.display ++ ": " ++
          Text.joinWith ", " entry.2) := rfl
  rw [told, List.map_map]
  rfl

/-- The tables that a registry is made of. -/
structure RegistryParts where
  answers : PerKind (Table String (Option Mapping))
  probes : PerKind (Table String (Option Mapping))
  distinctAnswers : ∀ kind, (Table.keys (answers.get kind)).Nodup
  distinctProbes : ∀ kind, (Table.keys (probes.get kind)).Nodup

namespace RegistryParts

variable (p : RegistryParts)

def table : RegistryPart → Table String (Option Mapping)
  | .answers kind => p.answers.get kind
  | .probes kind => p.probes.get kind

/-- The registry of the parts, or what is wrong with them. -/
def registry : Except Failure Registry :=
  Registry.ofParts (p.answers.map Value.ofTable) (p.probes.map Value.ofTable)

/-- The part has the key. -/
abbrev Declares (part : RegistryPart) (key : String) : Prop :=
  key ∈ Table.keys (p.table part)

/-- Two parts have the key. -/
def Repeated (key : String) : Prop :=
  ∃ part other, part ≠ other ∧ p.Declares part key ∧ p.Declares other key

/-- The parts that have a key, in the order in which they are searched. -/
def declaring (key : String) : List RegistryPart :=
  RegistryPart.all.filter fun part => p.Declares part key

theorem distinct (part : RegistryPart) : (Table.keys (p.table part)).Nodup := by
  cases part with
  | answers kind => exact p.distinctAnswers kind
  | probes kind => exact p.distinctProbes kind

theorem mem_declaring {part : RegistryPart} {key : String} :
    part ∈ p.declaring key ↔ p.Declares part key := by
  simp [declaring, part.mem_all]

theorem repeated_iff (key : String) : p.Repeated key ↔ 1 < (p.declaring key).length := by
  have nodup : (p.declaring key).Nodup := RegistryPart.nodup_all.filter _
  rw [← List.toFinset_card_of_nodup nodup, Finset.one_lt_card]
  simp only [List.mem_toFinset, mem_declaring]
  constructor
  · rintro ⟨part, other, apart, first, second⟩
    exact ⟨part, first, other, second, apart⟩
  · rintro ⟨part, first, other, second, apart⟩
    exact ⟨part, other, apart, first, second⟩

/-! ### The places of the keys -/

/-- The keys of all parts, each with the name of its part. -/
def places : List (Value × String) :=
  Registry.places (Registry.parts (p.answers.map Value.ofTable)
    (p.probes.map Value.ofTable))

theorem places_eq : p.places =
    RegistryPart.all.flatMap fun part => (Table.keys (p.table part)).map fun key =>
      (.text key, part.name) := by
  have content (part : RegistryPart) :
      part.of (p.answers.map Value.ofTable) (p.probes.map Value.ofTable) =
        Value.ofTable (p.table part) := by
    cases part <;> simp [RegistryPart.of, table]
  rw [places, Registry.places, Registry.parts_eq_map, List.flatMap_map]
  simp only [content, Value.ofTable, Table.keys, List.map_map]
  rfl

/-- In one part a key has a place if the part has the key. -/
theorem places_of_part (part : RegistryPart) (key : String) :
    (((Table.keys (p.table part)).map fun other => (Value.text other, part.name)).filter
      (·.1 == .text key)).map Prod.snd = if p.Declares part key then [part.name]
        else [] := by
  have same (other : String) : (Value.text other == .text key) = (other == key) := by
    rw [Bool.eq_iff_iff, Value.same_text, beq_iff_eq, Value.text.injEq]
  simp only [List.filter_map, Function.comp_def, same, List.map_map, List.filter_beq]
  by_cases there : p.Declares part key
  · rw [List.count_eq_one_of_mem (p.distinct part) there, if_pos there]
    rfl
  · rw [List.count_eq_zero_of_not_mem there, if_neg there]
    rfl

/-- The places of a key are the names of the parts that have it, in their order. -/
theorem places_of_key (key : String) :
    (p.places.filter (·.1 == .text key)).map Prod.snd =
      (p.declaring key).map RegistryPart.name := by
  rw [places_eq, declaring]
  induction RegistryPart.all with
  | nil => rfl
  | cons part rest ih =>
    rw [List.flatMap_cons, List.filter_append, List.map_append, places_of_part, ih]
    by_cases there : p.Declares part key
    · rw [if_pos there, List.filter_cons_of_pos (by simpa using there)]
      rfl
    · rw [if_neg there, List.filter_cons_of_neg (by simpa using there)]
      rfl

/-- The keys with their places, as a registry collects them. -/
def owners : Table Value (List String) := p.places.foldl Registry.note []

theorem owners_eq :
    Registry.owners (Registry.parts (p.answers.map Value.ofTable)
      (p.probes.map Value.ofTable)) = p.owners :=
  Registry.owners_eq_foldl _

theorem isText_of_mem_owners {v : Value} (inside : v ∈ Table.keys p.owners) :
    v.isText = true := by
  have listed := (Registry.ownersOf_places p.places).listed v inside
  rw [places_eq] at listed
  simp only [List.map_flatMap, List.mem_flatMap, List.mem_map] at listed
  obtain ⟨part, _, _, ⟨key, _, rfl⟩, rfl⟩ := listed
  rfl

theorem eq_of_mem_owners {key : String} {names : List String}
    (inside : (.text key, names) ∈ p.owners) :
    names = (p.declaring key).map RegistryPart.name := by
  rw [← places_of_key]
  exact Registry.eq_of_mem_places rfl ((Value.same_text _ _).mpr rfl) inside

theorem mem_owners {key : String} (there : p.declaring key ≠ []) :
    (.text key, (p.declaring key).map RegistryPart.name) ∈ p.owners := by
  cases found : Table.get? p.owners (.text key) with
  | none =>
    have places :=
      Registry.getD_places p.places (show (Value.text key).isKey = true from rfl)
    rw [← owners, found, places_of_key] at places
    exact absurd (List.map_eq_nil_iff.mp places.symm) there
  | some names =>
    obtain ⟨other, inside, same⟩ := Table.mem_of_get? found
    rw [(Value.same_text other key).mp same] at inside
    exact p.eq_of_mem_owners inside ▸ inside

theorem nodup_owners : (Table.keys p.owners).Nodup := by
  refine (Registry.ownersOf_places p.places).apart.imp_of_mem ?_
  rintro v w inside _ apart rfl
  cases v with
  | text s => exact absurd ((Value.same_text _ _).mpr rfl) (Bool.eq_false_iff.mp apart)
  | _ => cases p.isText_of_mem_owners inside

/-! ### The joined tables -/

/-- The keys of a kind. -/
def merged (kind : EntityKind) : Table String (Option Mapping) :=
  p.table (.answers kind) ++ p.table (.probes kind)

/-- The registry with the keys of all parts. -/
def joined : Registry := ⟨PerKind.ofFunction fun kind => Value.ofTable (p.merged kind)⟩

theorem get_joined (kind : EntityKind) :
    p.joined.tables.get kind = Value.ofTable (p.merged kind) :=
  PerKind.get_ofFunction _ kind

theorem mem_keys_merged {kind : EntityKind} {key : String} :
    key ∈ Table.keys (p.merged kind) ↔ p.Declares (.answers kind) key ∨
      p.Declares (.probes kind) key := by
  rw [merged, Table.keys, List.map_append, List.mem_append]
  rfl

theorem mapping?_joined (key : String) :
    p.joined.mapping? (.text key) = EntityKind.all.findSome? fun kind =>
      (Table.get? (p.merged kind) key).join := by
  simp only [Registry.mapping?, PerKind.toList, List.findSome?_map, Function.comp_def, get_joined,
    Value.get?_ofTable]

theorem kind?_joined (key : String) :
    p.joined.kind? (.text key) = EntityKind.all.find? fun kind =>
      Table.contains (p.merged kind) key := by
  simp only [Registry.kind?, PerKind.toList, List.find?_map, Function.comp_def, get_joined,
    Table.contains, Value.get?_ofTable, Option.map_map]
  exact Option.map_id'

/-- Lookups in a registry tell what its parts declare. -/
structure Exact (r : Registry) : Prop where
  found : ∀ part key mapping, (key, some mapping) ∈ p.table part →
    r.mapping? (.text key) = some mapping ∧ r.kind? (.text key) = some part.kind
  missing : ∀ key, (∀ part, ¬p.Declares part key) →
    r.mapping? (.text key) = none ∧ r.kind? (.text key) = none
  distinct : r.keys.Nodup
  keys : ∀ v, v ∈ r.keys ↔ ∃ part key, v = .text key ∧ p.Declares part key
  size : r.keys.length = r.size
  excluded : ∀ v, v ∈ r.excludedKeys ↔ ∃ key, v = .text key ∧
    r.mapping? (.text key) = some .excluded

section Apart

variable {p}

theorem part_unique (apart : ∀ key, ¬p.Repeated key) {part other : RegistryPart}
    {key : String} (first : p.Declares part key) (second : p.Declares other key) :
    part = other := by
  by_contra different
  exact apart key ⟨part, other, different, first, second⟩

/-- A key that a part declares is in the tables of the kind of this part only. -/
theorem kind_unique (apart : ∀ key, ¬p.Repeated key) {part : RegistryPart} {key : String}
    (here : p.Declares part key) {kind : EntityKind}
    (there : key ∈ Table.keys (p.merged kind)) : kind = part.kind := by
  rcases p.mem_keys_merged.mp there with declared | declared
  · rw [part_unique apart here declared]
    rfl
  · rw [part_unique apart here declared]
    rfl

theorem get?_merged (apart : ∀ key, ¬p.Repeated key) {part : RegistryPart} {key : String}
    {mapping : Option Mapping} (inside : (key, mapping) ∈ p.table part) :
    Table.get? (p.merged part.kind) key = some mapping := by
  have found := Table.get?_of_mem (p.distinct part) inside
  have declared : p.Declares part key := List.mem_map_of_mem inside
  cases part with
  | answers kind => rw [RegistryPart.kind, merged, Table.get?_append, found, Option.some_or]
  | probes kind =>
    have absent : ¬p.Declares (.answers kind) key := by
      intro first
      cases part_unique apart declared first
    rw [RegistryPart.kind, merged, Table.get?_append, Table.get?_eq_none absent, found,
      Option.none_or]

theorem found_joined (apart : ∀ key, ¬p.Repeated key) {part : RegistryPart} {key : String}
    {mapping : Mapping} (inside : (key, some mapping) ∈ p.table part) :
    p.joined.mapping? (.text key) = some mapping ∧
      p.joined.kind? (.text key) = some part.kind := by
  have declared : p.Declares part key := List.mem_map_of_mem inside
  have held := get?_merged apart inside
  have other (kind : EntityKind) (different : kind ≠ part.kind) :
      key ∉ Table.keys (p.merged kind) :=
    fun there => different (kind_unique apart declared there)
  rw [mapping?_joined, kind?_joined]
  constructor
  · have here : (Table.get? (p.merged part.kind) key).join = some mapping := by
      rw [held, Option.join_some]
    refine EntityKind.findSome?_all here fun kind different => ?_
    rw [Table.get?_eq_none (other kind different), Option.join_none]
  · have here : Table.contains (p.merged part.kind) key = true := by
      rw [Table.contains, held, Option.isSome_some]
    refine EntityKind.find?_all here fun kind different => ?_
    rw [Table.contains, Table.get?_eq_none (other kind different), Option.isSome_none]

theorem missing_joined {key : String} (nowhere : ∀ part, ¬p.Declares part key) :
    p.joined.mapping? (.text key) = none ∧ p.joined.kind? (.text key) = none := by
  have absent (kind : EntityKind) : Table.get? (p.merged kind) key = none := by
    apply Table.get?_eq_none
    rw [mem_keys_merged, not_or]
    exact ⟨nowhere _, nowhere _⟩
  rw [mapping?_joined, kind?_joined]
  simp [absent, Table.contains]

/-- The keys of a registry are those of its parts, part by part. -/
theorem keys_joined :
    p.joined.keys = (RegistryPart.all.flatMap fun part => Table.keys (p.table part)).map
      .text := by
  have kind (kind : EntityKind) : Table.keys (p.joined.tables.get kind) =
      (Table.keys (p.table (.answers kind)) ++ Table.keys (p.table (.probes kind))).map
      .text := by
    rw [get_joined, Table.keys, Value.map_fst_ofTable, merged, Table.keys, List.map_append]
    rfl
  simp [Registry.keys, PerKind.toList, EntityKind.all, RegistryPart.all, kind]

theorem nodup_keys_joined (apart : ∀ key, ¬p.Repeated key) : p.joined.keys.Nodup := by
  rw [keys_joined]
  refine List.Nodup.map (fun _ _ => Value.text.inj) (List.nodup_flatMap.mpr ⟨fun part _ =>
    p.distinct part, ?_⟩)
  refine RegistryPart.nodup_all.imp ?_
  intro part other different key first second
  exact different (part_unique apart first second)

theorem mem_keys_joined {v : Value} :
    v ∈ p.joined.keys ↔ ∃ part key, v = .text key ∧ p.Declares part key := by
  rw [keys_joined, List.mem_map]
  constructor
  · rintro ⟨key, inside, rfl⟩
    obtain ⟨part, _, declared⟩ := List.mem_flatMap.mp inside
    exact ⟨part, key, rfl, declared⟩
  · rintro ⟨part, key, rfl, declared⟩
    exact ⟨key, List.mem_flatMap.mpr ⟨part, part.mem_all, declared⟩, rfl⟩

theorem length_keys (r : Registry) : r.keys.length = r.size := by
  simp [Registry.keys, Registry.size, PerKind.toList, EntityKind.all, Table.keys]
  omega

theorem mem_excludedKeys {r : Registry} {v : Value} :
    v ∈ r.excludedKeys ↔ ∃ kind, (v, some Mapping.excluded) ∈ r.tables.get kind := by
  have isExcluded (mapping : Option Mapping) : mapping.any Mapping.isExcluded = true ↔
      mapping = some .excluded := by
    rcases mapping with _ | (_ | _ | _ | _) <;> simp [Mapping.isExcluded]
  simp [Registry.excludedKeys, PerKind.toList, isExcluded, EntityKind.mem_all]

theorem exact_joined (apart : ∀ key, ¬p.Repeated key) : p.Exact p.joined := by
  constructor
  · intro part key mapping inside
    exact found_joined apart inside
  · intro key nowhere
    exact missing_joined nowhere
  · exact nodup_keys_joined apart
  · intro v
    exact mem_keys_joined
  · exact length_keys _
  · intro v
    rw [mem_excludedKeys]
    constructor
    · rintro ⟨kind, inside⟩
      rw [get_joined] at inside
      obtain ⟨⟨key, mapping⟩, there, same⟩ := List.mem_map.mp inside
      cases same
      refine ⟨key, rfl, ?_⟩
      rcases List.mem_append.mp there with declared | declared
      · exact (found_joined apart declared).1
      · exact (found_joined apart declared).1
    · rintro ⟨key, rfl, found⟩
      obtain ⟨kind, other, there, same⟩ := Registry.mem_of_mapping? found
      rw [(Value.same_text other key).mp same] at there
      exact ⟨kind, there⟩

end Apart

/-! ### Repeated keys -/

/-- The keys of several parts with the names of these parts, as a registry collects them. -/
def overlaps : Table Value (List String) :=
  p.owners.filter fun (_, names) => 1 < names.length

theorem mem_overlaps {v : Value} {names : List String} :
    (v, names) ∈ p.overlaps ↔
      ∃ key, p.Repeated key ∧ (Value.text key, (p.declaring key).map RegistryPart.name) =
        (v, names) := by
  rw [overlaps, List.mem_filter]
  constructor
  · rintro ⟨inside, several⟩
    cases v with
    | text key =>
      have listed := p.eq_of_mem_owners inside
      refine ⟨key, (p.repeated_iff key).mpr ?_, by rw [← listed]⟩
      rw [← List.length_map RegistryPart.name, ← listed]
      simpa using several
    | _ => cases p.isText_of_mem_owners (List.mem_map_of_mem inside)
  · rintro ⟨key, repeated, same⟩
    cases same
    have several := (p.repeated_iff key).mp repeated
    refine ⟨p.mem_owners (List.ne_nil_of_length_pos (by omega)), ?_⟩
    simpa using several

theorem nodup_overlaps : (p.overlaps.map Prod.fst).Nodup :=
  p.nodup_owners.sublist (List.filter_sublist.map Prod.fst)

/-- Sorted, the repeated keys are told in increasing order. -/
theorem sorted_overlaps : ∃ repeated : List String, repeated.Pairwise (· < ·) ∧
    (∀ key, key ∈ repeated ↔ p.Repeated key) ∧
    Value.sortOn? Prod.fst p.overlaps =
      some (repeated.map fun key => (.text key,
        (p.declaring key).map RegistryPart.name)) := by
  have texts : ∀ entry ∈ p.overlaps, entry.1.isText = true := by
    rintro ⟨v, names⟩ inside
    obtain ⟨key, _, same⟩ := p.mem_overlaps.mp inside
    cases same
    rfl
  obtain ⟨sorted, done, perm, order⟩ := Value.sortOn?_texts texts
  have listed : sorted ∈ Set.range
      (List.map fun key => (Value.text key, (p.declaring key).map RegistryPart.name)) := by
    rw [Set.range_list_map]
    rintro ⟨v, names⟩ inside
    obtain ⟨key, _, same⟩ := p.mem_overlaps.mp (perm.mem_iff.mp inside)
    exact ⟨key, same⟩
  obtain ⟨repeated, rfl⟩ := listed
  refine ⟨repeated, ?_, ?_, done⟩
  · have distinct : repeated.Nodup := by
      have nodup := ((perm.map Prod.fst).nodup_iff).mpr p.nodup_overlaps
      rw [List.map_map] at nodup
      exact nodup.of_map
    refine (List.pairwise_map.mp order).imp₂ ?_ distinct
    rintro key other ⟨_, _, ⟨⟩, ⟨⟩, le⟩ different
    exact Std.lt_of_le_of_ne le different
  · intro key
    constructor
    · intro inside
      obtain ⟨other, twice, same⟩ :=
        p.mem_overlaps.mp (perm.mem_iff.mp (List.mem_map_of_mem inside))
      cases same
      exact twice
    · intro twice
      obtain ⟨other, inside, same⟩ :=
        List.mem_map.mp (perm.mem_iff.mpr (p.mem_overlaps.mpr ⟨key, twice, rfl⟩))
      cases same
      exact inside

theorem registry_of_repeated (h : ∃ key, p.Repeated key) :
    ∃ repeated : List String, repeated.Pairwise (· < ·) ∧
      (∀ key, key ∈ repeated ↔ p.Repeated key) ∧
      p.registry = .error (.registry (.repeatedKeys
        (repeated.map fun key => (.text key,
          (p.declaring key).map RegistryPart.name)))) := by
  obtain ⟨repeated, order, members, sorted⟩ := p.sorted_overlaps
  refine ⟨repeated, order, members, ?_⟩
  obtain ⟨key, twice⟩ := h
  have there : p.overlaps.isEmpty = false := by
    rw [List.isEmpty_eq_false_iff_exists_mem]
    exact ⟨_, p.mem_overlaps.mpr ⟨key, twice, rfl⟩⟩
  rw [overlaps] at there sorted
  rw [registry, Registry.ofParts, owners_eq, there, sorted]
  rfl

theorem registry_of_apart (apart : ∀ key, ¬p.Repeated key) : p.registry = .ok p.joined := by
  have none : p.overlaps = [] := by
    rw [List.eq_nil_iff_forall_not_mem]
    rintro ⟨v, names⟩ inside
    obtain ⟨key, twice, _⟩ := p.mem_overlaps.mp inside
    exact apart key twice
  have tables (kind : EntityKind) :
      (p.answers.map Value.ofTable).get kind ++ (p.probes.map Value.ofTable).get kind =
      Value.ofTable (p.merged kind) := by
    simp [Value.ofTable, merged, table]
  rw [overlaps] at none
  rw [registry, Registry.ofParts, owners_eq, none]
  simp only [tables]
  rfl

/-- A registry is refused if and only if two of its parts have a key in common, and then
told these keys in increasing order, each with its parts. Otherwise it is exact. -/
theorem registry_exact :
    ((∃ fault, p.registry = .error (.registry fault)) ↔ ∃ key, p.Repeated key) ∧
    (∀ failure, p.registry = .error failure →
      ∃ repeated : List String, repeated.Pairwise (· < ·) ∧
        (∀ key, key ∈ repeated ↔ p.Repeated key) ∧
        ∃ fault, failure = .registry fault ∧
          fault.message = "Keys mapped more than once: " ++
            Text.joinWith "; " (repeated.map fun key =>
              key ++ ": " ++ Text.joinWith ", " ((p.declaring key).map RegistryPart.name))) ∧
    ∀ r, p.registry = .ok r → p.Exact r := by
  by_cases h : ∃ key, p.Repeated key
  · obtain ⟨repeated, order, members, refused⟩ := p.registry_of_repeated h
    rw [refused]
    refine ⟨⟨fun _ => h, fun _ => ⟨_, rfl⟩⟩, ?_, ?_⟩
    · intro failure same
      exact ⟨repeated, order, members, _, (Except.error.inj same).symm,
        RegistryFault.message_repeatedKeys repeated _⟩
    · intro r same
      cases same
  · have apart := not_exists.mp h
    have accepted := p.registry_of_apart apart
    rw [accepted]
    refine ⟨⟨?_, fun there => absurd there h⟩, ?_, ?_⟩
    · rintro ⟨fault, same⟩
      cases same
    · intro failure same
      cases same
    · intro r same
      rw [← Except.ok.inj same]
      exact exact_joined apart

/-- An age that two kinds declare, and a rent in both parts of a household. -/
def shared : RegistryParts where
  answers :=
    { individual := [("age", some (.direct (.text "age") .month)), ("nom", some .excluded)]
      household := [("loyer", some (.direct (.text "loyer") .month))]
      taxHousehold := []
      family := [("age", some .excluded)] }
  probes :=
    { individual := []
      household := [("loyer", some (.direct (.text "loyer") .month)), ("visale", none)]
      taxHousehold := []
      family := [] }
  distinctAnswers := by
    intro kind
    cases kind <;> decide
  distinctProbes := by
    intro kind
    cases kind <;> decide

/-- The same keys with one part for each. -/
def separate : RegistryParts where
  answers := shared.answers.set .family []
  probes := shared.probes.set .household [("visale", none)]
  distinctAnswers := by
    intro kind
    cases kind <;> decide
  distinctProbes := by
    intro kind
    cases kind <;> decide

theorem registry_exact_shared :
    shared.Repeated "age" ∧
      shared.declaring "age" = [.answers .individual, .answers .family] ∧
      (∃ failure, shared.registry = .error failure ∧
        ∃ repeated : List String, repeated.Pairwise (· < ·) ∧ "age" ∈ repeated ∧
          ∃ fault, failure = .registry fault ∧
            fault.message = "Keys mapped more than once: " ++
              Text.joinWith "; " (repeated.map fun key =>
              key ++ ": " ++ Text.joinWith ", "
                ((shared.declaring key).map RegistryPart.name))) ∧
      ∃ r, separate.registry = .ok r ∧ r.mapping? (.text "nom") = some .excluded ∧
        r.kind? (.text "nom") = some .individual ∧ .text "nom" ∈ r.excludedKeys := by
  have twice : shared.Repeated "age" :=
    ⟨.answers .individual, .answers .family, by decide, by decide, by decide⟩
  refine ⟨twice, by decide, ?_, ?_⟩
  · obtain ⟨refused, told, _⟩ := registry_exact shared
    obtain ⟨fault, failed⟩ := refused.mpr ⟨"age", twice⟩
    obtain ⟨repeated, order, members, message⟩ := told _ failed
    exact ⟨_, failed, repeated, order, (members "age").mpr twice, message⟩
  · obtain ⟨_, _, accepted⟩ := registry_exact separate
    have exact := accepted separate.joined rfl
    have inside : ("nom", some .excluded) ∈ separate.table (.answers .individual) :=
      List.mem_cons_of_mem _ List.mem_cons_self
    obtain ⟨mapping, kind⟩ := exact.found (.answers .individual) "nom" .excluded inside
    exact ⟨_, rfl, mapping, kind, (exact.excluded _).mpr ⟨"nom", rfl, mapping⟩⟩

end RegistryParts

end Questionnaire
