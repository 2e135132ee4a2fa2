import Mathlib.Data.List.Basic
import Mathlib.Data.List.Induction
import Mathlib.Tactic.Tauto
import Questionnaire.Proofs.KeyEquality
import Questionnaire.Proofs.Provenance
import Questionnaire.Registry.Standard

/-!
# The places of keys

A registry is made of eight parts, two for each kind. The places of a key are the parts that
have it or a key that equals it. A registry is accepted if no two keys are equal; that of
the survey is.
-/

namespace Questionnaire

namespace Table

/-- A write changes the first entry whose key equals the one written, or adds an entry at
the end. -/
theorem put_cases {κ α : Type} [BEq κ] (t : Table κ α) (k : κ) (a : α) :
    (∃ before key b after, t = before ++ (key, b) :: after ∧ (key == k) = true ∧
      put t k a = before ++ (key, a) :: after) ∨
    (∀ key ∈ keys t, (key == k) = false) ∧ get? t k = none ∧ put t k a = t ++ [(k, a)] := by
  induction t with
  | nil => exact .inr ⟨by simp [keys], rfl, rfl⟩
  | cons entry rest ih =>
    obtain ⟨key, b⟩ := entry
    by_cases same : (key == k) = true
    · exact .inl ⟨[], key, b, rest, rfl, same, by simp [put, same]⟩
    · rcases ih with
        ⟨before, other, c, after, rfl, equal, written⟩ | ⟨apart, absent, written⟩
      · exact .inl ⟨(key, b) :: before, other, c, after, rfl,
          equal, by simp [put, same, written]⟩
      · refine .inr ⟨?_, by simp [get?, same, absent], by simp [put, same, written]⟩
        exact List.forall_mem_cons.mpr ⟨by simpa using same, apart⟩

end Table

/-- One of the two parts of a kind. -/
inductive RegistryPart where
  | answers (kind : EntityKind)
  | probes (kind : EntityKind)
  deriving DecidableEq

namespace RegistryPart

def kind : RegistryPart → EntityKind
  | answers kind => kind
  | probes kind => kind

/-- What a part is called where keys are repeated. -/
def name : RegistryPart → String
  | answers kind => kind.name ++ ".answers"
  | probes kind => kind.name ++ ".questions"

/-- The parts in the order in which they are searched. -/
def all : List RegistryPart :=
  EntityKind.all.flatMap fun kind => [answers kind, probes kind]

theorem mem_all (part : RegistryPart) : part ∈ all := by
  rcases part with kind | kind <;> simp [all, kind.mem_all]

theorem nodup_all : all.Nodup := by decide

/-- One of the things that each kind has for both parts. -/
def of {α : Type} (first second : PerKind α) : RegistryPart → α
  | answers kind => first.get kind
  | probes kind => second.get kind

end RegistryPart

namespace Registry

/-- An equal key follows. -/
def Twice (keys : List Value) (v : Value) : Prop :=
  ∃ w, [v, w].Sublist keys ∧ (v == w) = true

/-- One more place of a key. -/
def note (owners : Table Value (List String)) (place : Value × String) :
    Table Value (List String) :=
  Table.put owners place.1 ((Table.get? owners place.1).getD [] ++ [place.2])

/-- The keys of the parts with the names of the parts, one by one. -/
def places (parts : List (String × MappingTable)) : List (Value × String) :=
  parts.flatMap fun part => part.2.map fun entry => (entry.1, part.1)

theorem owners_eq_foldl (parts : List (String × MappingTable)) :
    owners parts = (places parts).foldl note [] := by
  rw [places, List.foldl_flatMap]
  simp only [List.foldl_map]
  rfl

/-- The owners of some keys are listed under keys that are pairwise different, and under
several places only if an equal key follows. -/
structure OwnersOf (keys : List Value) (owners : Table Value (List String)) : Prop where
  listed : ∀ v ∈ Table.keys owners, v ∈ keys
  apart : (Table.keys owners).Pairwise fun v w => (v == w) = false
  twice : ∀ v names, (v, names) ∈ owners → 1 < names.length → Twice keys v

theorem Twice.append {keys : List Value} {v : Value} (twice : Twice keys v)
    (more : List Value) : Twice (keys ++ more) v := by
  obtain ⟨w, listed, same⟩ := twice
  exact ⟨w, listed.trans (List.sublist_append_left _ _), same⟩

theorem OwnersOf.note {keys : List Value} {owners : Table Value (List String)}
    (h : OwnersOf keys owners) (place : Value × String) :
    OwnersOf (keys ++ [place.1]) (note owners place) := by
  obtain ⟨k, name⟩ := place
  rcases Table.put_cases owners k ((Table.get? owners k).getD [] ++ [name]) with
    ⟨before, key, names, after, rfl, same, written⟩ | ⟨apart, absent, written⟩
  · have keys_eq : Table.keys (Registry.note (before ++ (key, names) :: after) (k, name)) =
        Table.keys (before ++ (key, names) :: after) := by
      rw [Registry.note, written]
      simp [Table.keys]
    refine ⟨?_, keys_eq ▸ h.apart, ?_⟩
    · intro v inside
      exact List.mem_append_left _ (h.listed v (keys_eq ▸ inside))
    · intro v places inside several
      rw [Registry.note, written] at inside
      have old : (v, places) ∈ before ++ (key, names) :: after ∨ v = key := by
        simp only [List.mem_append, List.mem_cons, Prod.mk.injEq] at inside ⊢
        tauto
      rcases old with old | rfl
      · exact (h.twice v places old several).append _
      · have there : v ∈ keys := h.listed v (by simp [Table.keys])
        exact ⟨k, (List.singleton_sublist.mpr there).append (.refl _), same⟩
  · refine ⟨?_, ?_, ?_⟩
    · intro v inside
      rw [Registry.note, written, Table.keys, List.map_append, List.mem_append] at inside
      exact List.mem_append.mpr (inside.imp_left (h.listed v))
    · rw [Registry.note, written, Table.keys, List.map_append]
      refine List.pairwise_append.mpr ⟨h.apart, List.pairwise_singleton _ _, ?_⟩
      intro v inside w last
      rw [List.mem_singleton.mp last]
      exact apart v inside
    · intro v places inside several
      rw [Registry.note, written] at inside
      rcases List.mem_append.mp inside with old | new
      · exact (h.twice v places old several).append _
      · -- the first place of a key is the only one
        cases List.mem_singleton.mp new
        simp [absent] at several

theorem ownersOf_places (places : List (Value × String)) :
    OwnersOf (places.map Prod.fst) (places.foldl note []) := by
  induction places using List.reverseRecOn with
  | nil => exact ⟨by simp [Table.keys], .nil, by simp⟩
  | append_singleton rest place ih =>
    rw [List.foldl_concat, List.map_append]
    exact ih.note place

/-- A key is found with the places of all keys that equal it. -/
theorem getD_places (places : List (Value × String)) {k : Value} (keyed : k.isKey = true) :
    (Table.get? (places.foldl note []) k).getD [] =
      (places.filter (·.1 == k)).map Prod.snd := by
  induction places using List.reverseRecOn with
  | nil => rfl
  | append_singleton rest place ih =>
    rw [List.foldl_concat, note, Table.get?_put_key _ _ _ keyed]
    by_cases same : (place.1 == k) = true
    · simp [same, Table.get?_congr _ keyed same, ih]
    · simp [same, ih]

/-- A key stands with the places of all keys that equal it, if it equals itself. -/
theorem eq_of_mem_places {places : List (Value × String)} {v : Value} {names : List String}
    (keyed : v.isKey = true) (itself : (v == v) = true)
    (inside : (v, names) ∈ places.foldl note []) :
    names = (places.filter (·.1 == v)).map Prod.snd := by
  rw [← getD_places places keyed, Table.get?_of_mem_apart (ownersOf_places places).apart
    itself inside]
  rfl

theorem exists_several {places : List (Value × String)} {v : Value} (keyed : v.isKey = true)
    (twice : Twice (places.map Prod.fst) v) :
    ∃ entry ∈ places.foldl note [], 1 < entry.2.length := by
  obtain ⟨w, listed, same⟩ := twice
  have keyed' : w.isKey = true := Value.isKey_eq_of_same same ▸ keyed
  have itself : (w == w) = true := Value.same_trans keyed' (Value.same_symm keyed same) same
  have both : [v, w].Sublist ((places.filter (·.1 == w)).map Prod.fst) := by
    have kept := listed.filter (· == w)
    simpa [same, itself, List.filter_map, Function.comp_def] using kept
  -- both are looked up by the later one: the earlier need not be the one that the table has
  have several : 1 < ((Table.get? (places.foldl note []) w).getD []).length := by
    rw [getD_places places keyed', List.length_map, ← List.length_map Prod.fst]
    exact both.length_le
  cases found : Table.get? (places.foldl note []) w with
  | none => simp [found] at several
  | some names =>
    obtain ⟨key, inside, _⟩ := Table.mem_of_get? found
    exact ⟨(key, names), inside, by simpa [found] using several⟩

/-! ### The places in the parts of a registry -/

variable {answers probes : PerKind MappingTable}

theorem parts_eq_map (answers probes : PerKind MappingTable) :
    parts answers probes = RegistryPart.all.map fun part =>
      (part.name, part.of answers probes) := rfl

theorem keys_places (answers probes : PerKind MappingTable) :
    (places (parts answers probes)).map Prod.fst =
      RegistryPart.all.flatMap fun part => Table.keys (part.of answers probes) := by
  rw [parts_eq_map, places, List.flatMap_map, List.map_flatMap]
  simp only [List.map_map]
  rfl

/-- Parts without equal keys make a registry. -/
theorem ofParts_of_apart
    (apart : ((places (parts answers probes)).map Prod.fst).Pairwise fun v w =>
      (v == w) = false) :
    ofParts answers probes =
      .ok ⟨PerKind.ofFunction fun kind => answers.get kind ++ probes.get kind⟩ := by
  have single :
      (owners (parts answers probes)).filter (fun entry => 1 < entry.2.length) = [] := by
    rw [owners_eq_foldl, List.filter_eq_nil_iff]
    rintro ⟨v, names⟩ inside several
    obtain ⟨w, listed, same⟩ :=
      (ownersOf_places _).twice v names inside (by simpa using several)
    rw [List.pairwise_iff_forall_sublist.mp apart listed] at same
    cases same
  unfold ofParts
  rw [single]
  rfl

/-- The registry of the survey is made of its parts. -/
theorem ofParts_standard : ofParts Standard.answers Standard.probes = .ok standard :=
  ofParts_of_apart (by decide +kernel)

end Registry

end Questionnaire
