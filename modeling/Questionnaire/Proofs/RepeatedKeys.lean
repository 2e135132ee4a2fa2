import Questionnaire.Documents
import Questionnaire.Proofs.QuestionDocuments

/-!
# Keys that a document repeats

A document without `<<` whose keys are scalars can be read in two ways. Where equal keys are
refused, it is refused as soon as one mapping in it, however deep, has two keys that are
one; otherwise it has the value that it has where the last of equal keys wins. The key `=`
alone is left out of this: it has a value only where the last one wins.
-/

namespace Questionnaire.Yaml

namespace Node

/-- What holds of a collection if it holds of its parts, and of everything else, holds of
every tree. The keys of mappings do not count among the parts. -/
@[elab_as_elim]
theorem induct {P : Node → Prop} (scalar : ∀ kind text, P (.scalar kind text))
    (sequence : ∀ items, (∀ item ∈ items, P item) → P (.sequence items))
    (mapping : ∀ pairs : List (Node × Node), (∀ pair ∈ pairs, P pair.2) →
      P (.mapping pairs))
    (unknown : P .unknown) : ∀ node, P node
  | .scalar kind text => scalar kind text
  | .sequence items =>
      sequence items fun item _ => induct scalar sequence mapping unknown item
  | .mapping pairs =>
      mapping pairs fun pair _ => induct scalar sequence mapping unknown pair.2
  | .unknown => unknown
termination_by node => sizeOf node
decreasing_by
  · have := List.sizeOf_lt_of_mem ‹_›
    simp
    omega
  · have := List.sizeOf_lt_of_mem ‹_›
    obtain ⟨key, value⟩ := pair
    simp at this ⊢
    omega

/-- Some mapping of the tree is one whose pairs have the property. -/
inductive Somewhere (P : List (Node × Node) → Prop) : Node → Prop
  | here {pairs : List (Node × Node)} (holds : P pairs) : Somewhere P (.mapping pairs)
  | value {pairs : List (Node × Node)} {pair : Node × Node} (inside : pair ∈ pairs)
      (deeper : Somewhere P pair.2) :
      Somewhere P (.mapping pairs)
  | item {items : List Node} {item : Node} (inside : item ∈ items)
      (deeper : Somewhere P item) :
      Somewhere P (.sequence items)

/-- As a key, the scalar stands for the value. The key `=` is a text. -/
inductive KeyIs : Node → Value → Prop
  | default (text : String) : KeyIs (.scalar .default text) (.text "=")
  | scalar {kind : Kind} {text : String} {v : Value} (value : kind.value text = .ok v) :
      KeyIs (.scalar kind text) v

/-- The pairs have a key that is `<<` or no scalar. -/
def OddKey (pairs : List (Node × Node)) : Prop :=
  ∃ pair ∈ pairs, ∀ kind text, pair.1 = .scalar kind text → kind = .merge

/-- The pairs have the key `=`. -/
def DefaultKey (pairs : List (Node × Node)) : Prop :=
  ∃ pair ∈ pairs, ∃ text, pair.1 = .scalar .default text

/-- Two pairs are apart if their keys are two keys. -/
def Apart (p q : Node × Node) : Prop :=
  ∀ v w, p.1.KeyIs v → q.1.KeyIs w → sameKey v w = false

/-- Two of the pairs have keys that are one. -/
def TwiceKeyed (pairs : List (Node × Node)) : Prop := ¬ pairs.Pairwise Apart

/-- A mapping of the tree repeats a key. -/
def RepeatsKey (node : Node) : Prop := node.Somewhere TwiceKeyed

/-- A mapping of the tree has the key `=`. -/
def HasDefaultKey (node : Node) : Prop := node.Somewhere DefaultKey

section Somewhere

variable {P : List (Node × Node) → Prop}

@[simp] theorem somewhere_scalar (kind : Kind) (text : String) :
    ¬ (scalar kind text).Somewhere P := nofun

@[simp] theorem somewhere_sequence (items : List Node) :
    (sequence items).Somewhere P ↔ ∃ item ∈ items, item.Somewhere P := by
  constructor
  · rintro (_ | _ | ⟨inside, deeper⟩)
    exact ⟨_, inside, deeper⟩
  · rintro ⟨item, inside, deeper⟩
    exact .item inside deeper

@[simp] theorem somewhere_mapping (pairs : List (Node × Node)) :
    (mapping pairs).Somewhere P ↔ P pairs ∨ ∃ pair ∈ pairs, pair.2.Somewhere P := by
  constructor
  · rintro (holds | ⟨inside, deeper⟩ | _)
    · exact Or.inl holds
    · exact Or.inr ⟨_, inside, deeper⟩
  · rintro (holds | ⟨pair, inside, deeper⟩)
    · exact .here holds
    · exact .value inside deeper

end Somewhere

/-! ### What is built of a tree -/

/-- What a pair gives. -/
def buildPair (repeats : Repeats) (pair : Node × Node) : BuiltPair where
  kind := match pair.1 with
    | .scalar kind _ => some kind
    | _ => none
  key := pair.1.build repeats
  value := pair.2.build repeats

theorem buildItems_eq_map (repeats : Repeats) (items : List Node) :
    buildItems repeats items = items.map (build repeats) := by
  induction items with
  | nil => rfl
  | cons item rest ih => rw [buildItems, ih, List.map_cons]

theorem buildPairs_eq_map (repeats : Repeats) (pairs : List (Node × Node)) :
    buildPairs repeats pairs = pairs.map (buildPair repeats) := by
  induction pairs with
  | nil => rfl
  | cons pair rest ih => exact congrArg (buildPair repeats pair :: ·) ih

end Node

namespace Built

@[simp] theorem inside_eq_nil (b : Built) : b.inside = [] ↔ b.faults = [] := by
  unfold inside
  split <;> simp

/-- A fault stays what it is, only deeper. -/
theorem exists_of_mem_inside {b : Built} {entry : Nat × Fault} (inside : entry ∈ b.inside) :
    ∃ depth, (depth, entry.2) ∈ b.faults := by
  unfold Built.inside at inside
  split at inside
  · obtain ⟨⟨depth, fault⟩, there, rfl⟩ := List.mem_map.mp inside
    exact ⟨depth, there⟩
  · exact ⟨entry.1, inside⟩

end Built

namespace Kind

theorem isKey_of_stampValue {stamp : Stamp} {v : Value} (value : stampValue stamp = .ok v) :
    v.isKey = true := by
  unfold stampValue invalid at value
  split at value
  · cases value
  · split at value
    · cases value
    · cases value
      rfl
    · unfold moment invalid at value
      dsimp only at value
      split at value <;> cases value
      rfl

/-- What an optional value gives is given for a value that is there, if nothing gives a fault. -/
theorem exists_of_elim_eq_ok {α β ε : Type} {found : Option α} {fault : ε}
    {f : α → Except ε β} {b : β} (done : found.elim (.error fault) f = .ok b) :
    ∃ a, f a = .ok b := by
  cases found with
  | none => cases done
  | some a => exact ⟨a, done⟩

/-- Scalars can be keys. -/
theorem isKey_of_value {kind : Kind} {text : String} {v : Value}
    (value : kind.value text = .ok v) : v.isKey = true := by
  unfold Kind.value at value
  cases kind with
  | null | text =>
    cases value
    rfl
  | merge | default | unknown => cases value
  | bool =>
    obtain ⟨_, value⟩ := exists_of_elim_eq_ok value
    cases value
    rfl
  | int | float =>
    obtain ⟨_, _, value⟩ := bind_eq_ok_iff.mp value
    cases value
    rfl
  | timestamp =>
    dsimp only at value
    cases found : stamp? text.toList <;> rw [found] at value
    · cases value
    · exact isKey_of_stampValue value

end Kind

namespace BuiltPair

/-- Without `<<` a mapping has its own entries alone. -/
theorem gather_of_own {pairs : List BuiltPair} (own : ∀ p ∈ pairs, p.isMerge = false) :
    gather pairs = ⟨pairs.flatMap fun p => p.entry.entries, pairs.flatMap fun p =>
      p.entry.faults⟩ := by
  have none : pairs.filter isMerge = [] := by
    simpa [List.filter_eq_nil_iff] using own
  have all : (pairs.filter fun p => !p.isMerge) = pairs := by
    rw [List.filter_eq_self]
    simpa using own
  simp [gather, none, all, List.flatMap_map]

end BuiltPair

namespace Node

/-- A tree that can be read where the last of equal keys wins: its keys are scalars, `<<` is
not among them, and all scalars have values. -/
inductive Readable : Node → Prop
  | scalar {kind : Kind} {text : String} {v : Value} (value : kind.value text = .ok v) :
      Readable (.scalar kind text)
  | sequence {items : List Node} (parts : ∀ item ∈ items, Readable item) : Readable
      (.sequence items)
  | mapping {pairs : List (Node × Node)} (keys : ∀ pair ∈ pairs, ∃ v, pair.1.KeyIs v)
      (parts : ∀ pair ∈ pairs, Readable pair.2) : Readable (.mapping pairs)

theorem KeyIs.unique {key : Node} {v w : Value} (first : key.KeyIs v)
    (second : key.KeyIs w) : v = w := by
  cases first with
  | default text =>
    cases second with
    | default => rfl
    | scalar value => cases value
  | scalar value =>
    cases second with
    | default => cases value
    | scalar value' => exact Except.ok.inj (value.symm.trans value')

theorem isMerge_of_scalar {repeats : Repeats} {pair : Node × Node} {kind : Kind}
    {text : String} (key : pair.1 = .scalar kind text) (own : kind ≠ .merge) :
    (buildPair repeats pair).isMerge = false := by
  simp [BuiltPair.isMerge, buildPair, key, own]

theorem isMerge_of_keyIs {repeats : Repeats} {pair : Node × Node} {v : Value}
    (key : pair.1.KeyIs v) : (buildPair repeats pair).isMerge = false := by
  obtain ⟨node, value⟩ := pair
  cases key with
  | default text => exact isMerge_of_scalar rfl nofun
  | scalar value =>
    refine isMerge_of_scalar rfl ?_
    rintro rfl
    cases value

/-- A pair whose key stands for a value gives one entry, and the faults of what is behind
the key. -/
theorem entry_of_keyIs {repeats : Repeats} {pair : Node × Node} {v : Value}
    (key : pair.1.KeyIs v) :
    (buildPair repeats pair).entry = ⟨[(v, (pair.2.build repeats).value)],
      (pair.2.build repeats).inside⟩ := by
  obtain ⟨node, value⟩ := pair
  cases key with
  | default text => rfl
  | scalar value =>
    rename_i kind text
    have own : kind ≠ .default := by
      rintro rfl
      cases value
    have built : Built.ofScalar kind text = { value := v, faults := [] } := by
      simp only [Built.ofScalar, value]
    have isKey := Kind.isKey_of_value value
    simp [BuiltPair.entry, buildPair, own, BuiltPair.keyFaults, build, built, isKey]

theorem build_sequence (repeats : Repeats) (items : List Node) :
    (sequence items).build repeats = .ofItems (items.map (build repeats)) := by
  rw [build, buildItems_eq_map]

theorem build_mapping (repeats : Repeats) (pairs : List (Node × Node)) :
    (mapping pairs).build repeats =
      BuiltPair.build repeats (pairs.map (buildPair repeats)) := by
  rw [build, buildPairs_eq_map]

/-- What a mapping of own pairs gives: an entry for each, and the faults of equal keys
before those of the values. -/
theorem build_of_keyed {repeats : Repeats} {pairs : List (Node × Node)}
    (keys : ∀ pair ∈ pairs, ∃ v, pair.1.KeyIs v) :
    ((mapping pairs).build repeats).value =
        .map (@Table.ofEntries Value Value ⟨sameKey⟩ (pairs.flatMap fun pair =>
          (buildPair repeats pair).entry.entries)) ∧
      ((mapping pairs).build repeats).faults =
        (if repeats = .refused then BuiltPair.repeated [] (pairs.map (buildPair repeats))
          else []) ++
          pairs.flatMap fun pair => (pair.2.build repeats).inside := by
  have own : ∀ p ∈ pairs.map (buildPair repeats), p.isMerge = false := by
    rw [List.forall_mem_map]
    intro pair inside
    obtain ⟨v, key⟩ := keys pair inside
    exact isMerge_of_keyIs key
  have faults : (pairs.flatMap fun pair => (buildPair repeats pair).entry.faults) =
      pairs.flatMap fun pair => (pair.2.build repeats).inside := by
    refine List.flatMap_congr fun pair inside => ?_
    obtain ⟨v, key⟩ := keys pair inside
    rw [entry_of_keyIs key]
  rw [build_mapping, BuiltPair.build, BuiltPair.gather_of_own own]
  simp only [List.flatMap_map, faults, and_self]

/-- A pair without faults has a key that stands for a value, and a value without faults. -/
theorem keyIs_of_entry {repeats : Repeats} {pair : Node × Node} {kind : Kind}
    {text : String} (key : pair.1 = .scalar kind text)
    (clean : (buildPair repeats pair).entry.faults = []) :
    (∃ v, pair.1.KeyIs v) ∧ (pair.2.build repeats).faults = [] := by
  by_cases own : kind = .default
  · subst own
    have named : pair.1.KeyIs (.text "=") := key ▸ .default text
    rw [entry_of_keyIs named, Built.inside_eq_nil] at clean
    exact ⟨⟨_, named⟩, clean⟩
  · cases value : kind.value text with
    | ok v =>
      have named : pair.1.KeyIs v := key ▸ .scalar value
      rw [entry_of_keyIs named, Built.inside_eq_nil] at clean
      exact ⟨⟨_, named⟩, clean⟩
    | error fault =>
      simp [BuiltPair.entry, buildPair, key, own, BuiltPair.keyFaults, build,
        Built.ofScalar, value, Value.isKey] at clean

/-- What can be read where the last of equal keys wins is readable. -/
theorem readable_of_faults {node : Node} (even : ¬ node.Somewhere OddKey)
    (clean : (node.build .lastWins).faults = []) : node.Readable := by
  induction node using induct with
  | scalar kind text =>
    cases value : kind.value text with
    | ok v => exact .scalar value
    | error fault => simp [build, Built.ofScalar, value] at clean
  | unknown => simp [build, Built.malformed] at clean
  | sequence items ih =>
    refine .sequence fun item inside => ih item inside ?_ ?_
    · intro odd
      exact even (.item inside odd)
    · rw [build_sequence] at clean
      have each : ∀ item ∈ items, (item.build .lastWins).faults = [] := by
        simpa [Built.ofItems, List.flatMap_map] using clean
      exact each item inside
  | mapping pairs ih =>
    have scalars : ∀ pair ∈ pairs, ∃ kind text, pair.1 = .scalar kind text ∧
        kind ≠ .merge := by
      intro pair inside
      by_contra odd
      refine even (.here ⟨pair, inside, fun kind text key => ?_⟩)
      by_contra own
      exact odd ⟨kind, text, key, own⟩
    have own : ∀ p ∈ pairs.map (buildPair .lastWins), p.isMerge = false := by
      rw [List.forall_mem_map]
      intro pair inside
      obtain ⟨kind, text, key, own⟩ := scalars pair inside
      exact isMerge_of_scalar key own
    rw [build_mapping, BuiltPair.build, BuiltPair.gather_of_own own] at clean
    have each : ∀ pair ∈ pairs, (buildPair .lastWins pair).entry.faults = [] := by
      simpa [List.flatMap_map] using clean
    have sound :
        ∀ pair ∈ pairs, (∃ v, pair.1.KeyIs v) ∧ (pair.2.build .lastWins).faults = [] := by
      intro pair inside
      obtain ⟨kind, text, key, _⟩ := scalars pair inside
      exact keyIs_of_entry key (each pair inside)
    refine .mapping (fun pair inside => (sound pair inside).1) fun pair inside =>
      ih pair inside ?_ (sound pair inside).2
    intro odd
    exact even (.value inside odd)

/-! ### The keys of one mapping -/

/-- The keys are two by two apart, and none of them has been seen before. -/
def Fresh (seen : List Value) (pairs : List (Node × Node)) : Prop :=
  pairs.Pairwise Apart ∧ ∀ pair ∈ pairs, ∀ v, pair.1.KeyIs v →
    ∀ u ∈ seen, sameKey u v = false

theorem fresh_nil {pairs : List (Node × Node)} : Fresh [] pairs ↔ ¬ TwiceKeyed pairs := by
  simp [Fresh, TwiceKeyed]

theorem fresh_cons {seen : List Value} {pair : Node × Node} {rest : List (Node × Node)}
    {v : Value} (key : pair.1.KeyIs v) :
    Fresh seen (pair :: rest) ↔ seen.any (sameKey · v) = false ∧
      Fresh (seen ++ [v]) rest := by
  have first : (∀ w, pair.1.KeyIs w → ∀ u ∈ seen, sameKey u w = false) ↔
      seen.any (sameKey · v) = false := by
    rw [List.any_eq_false]
    constructor
    · intro fresh u inside
      simp [fresh v key u inside]
    · intro fresh w other u inside
      rw [other.unique key]
      simpa using fresh u inside
  have later : (∀ q ∈ rest, Apart pair q) ↔ ∀ q ∈ rest, ∀ w, q.1.KeyIs w →
      sameKey v w = false := by
    refine forall₂_congr fun q _ =>
      ⟨fun apart w => apart v w key, fun apart u w other => ?_⟩
    rw [other.unique key]
    exact apart w
  simp only [Fresh, List.pairwise_cons, List.forall_mem_cons, first, later,
    List.forall_mem_append]
  grind

theorem repeated_of_default {seen : List Value} {pair : Node × Node} {text : String}
    {rest : List BuiltPair} (key : pair.1 = .scalar .default text) :
    BuiltPair.repeated seen (buildPair .refused pair :: rest) =
      [(0, .document .unreadable)] := by
  simp [BuiltPair.repeated, buildPair, key, build, Built.ofScalar, Kind.value,
    Kind.unreadable]

theorem repeated_of_scalar {seen : List Value} {pair : Node × Node} {kind : Kind}
    {text : String} {v : Value} {rest : List BuiltPair} (key : pair.1 = .scalar kind text)
    (value : kind.value text = .ok v) :
    BuiltPair.repeated seen (buildPair .refused pair :: rest) =
      if seen.any (sameKey · v) then [(0, .document (.duplicateKey v))]
      else BuiltPair.repeated (seen ++ [v]) rest := by
  have isKey := Kind.isKey_of_value value
  simp [BuiltPair.repeated, buildPair, key, build, Built.ofScalar, value, isKey]

/-- Going through the keys ends with no fault, at the key `=`, or at a key that has been seen. -/
theorem repeated_cases {pairs : List (Node × Node)}
    (keys : ∀ pair ∈ pairs, ∃ v, pair.1.KeyIs v) (seen : List Value) :
    BuiltPair.repeated seen (pairs.map (buildPair .refused)) = [] ∧ ¬ DefaultKey pairs ∧
      Fresh seen pairs ∨
    BuiltPair.repeated seen (pairs.map (buildPair .refused)) =
      [(0, .document .unreadable)] ∧ DefaultKey pairs ∨
    ∃ key, BuiltPair.repeated seen (pairs.map (buildPair .refused)) =
      [(0, .document (.duplicateKey key))] ∧
      ¬ Fresh seen pairs := by
  induction pairs generalizing seen with
  | nil => exact Or.inl ⟨rfl, by simp [DefaultKey], by simp [Fresh]⟩
  | cons pair rest ih =>
    obtain ⟨⟨v, key⟩, later⟩ := List.forall_mem_cons.mp keys
    obtain ⟨node, value⟩ := pair
    cases key with
    | default text =>
      exact Or.inr (Or.inl ⟨repeated_of_default rfl, _, List.mem_cons_self, text, rfl⟩)
    | scalar read =>
      rename_i kind text
      have own : DefaultKey ((.scalar kind text, value) :: rest) ↔ DefaultKey rest := by
        have regular : kind ≠ .default := by
          rintro rfl
          cases read
        simp [DefaultKey, regular]
      rw [List.map_cons, repeated_of_scalar rfl read, fresh_cons (.scalar read), own]
      by_cases known : seen.any (sameKey · v) = true
      · simp [known]
      · rw [if_neg known]
        simpa [known] using ih later (seen ++ [v])

/-! ### Both readings of a tree -/

/-- Refusing equal keys changes no value. -/
theorem Readable.value_eq {node : Node} (h : node.Readable) :
    (node.build .refused).value = (node.build .lastWins).value := by
  induction h with
  | scalar value => rfl
  | sequence parts ih =>
    rename_i items
    have same : items.map (fun item => (item.build .refused).value) =
        items.map fun item => (item.build .lastWins).value := List.map_congr_left ih
    simpa [build_sequence, Built.ofItems, Function.comp_def] using same
  | mapping keys parts ih =>
    rename_i pairs
    rw [(build_of_keyed keys).1, (build_of_keyed keys).1]
    refine congrArg (fun entries => Value.map (@Table.ofEntries Value Value ⟨sameKey⟩ entries)) ?_
    refine List.flatMap_congr fun pair inside => ?_
    obtain ⟨v, key⟩ := keys pair inside
    rw [entry_of_keyIs key, entry_of_keyIs key, ih pair inside]

/-- The mapping of the pairs repeats no key and has no key `=`. -/
theorem repeated_eq_nil_iff {pairs : List (Node × Node)}
    (keys : ∀ pair ∈ pairs, ∃ v, pair.1.KeyIs v) :
    BuiltPair.repeated [] (pairs.map (buildPair .refused)) = [] ↔ ¬ TwiceKeyed pairs ∧
      ¬ DefaultKey pairs := by
  rcases repeated_cases keys [] with
    ⟨none, own, apart⟩ | ⟨stopped, default⟩ | ⟨key, stopped, twice⟩
  · simp [none, own, fresh_nil.mp apart]
  · simp [stopped, default]
  · simp [stopped, not_not.mp (mt fresh_nil.mpr twice)]

theorem Readable.faults_eq_nil_iff {node : Node} (h : node.Readable) :
    (node.build .refused).faults = [] ↔ ¬ node.RepeatsKey ∧ ¬ node.HasDefaultKey := by
  induction h with
  | scalar value => simp [build, Built.ofScalar, value, RepeatsKey, HasDefaultKey]
  | sequence parts ih =>
    rename_i items
    have each : ((Node.sequence items).build .refused).faults = [] ↔ ∀ item ∈ items,
        (item.build .refused).faults = [] := by
      simp [build_sequence, Built.ofItems, List.flatMap_map]
    rw [each, forall₂_congr ih]
    simp only [RepeatsKey, HasDefaultKey, somewhere_sequence]
    grind
  | mapping keys parts ih =>
    rename_i pairs
    have each : (pairs.flatMap fun pair => (pair.2.build .refused).inside) = [] ↔
        ∀ pair ∈ pairs, (pair.2.build .refused).faults = [] := by
      simp
    rw [(build_of_keyed keys).2, if_pos rfl, List.append_eq_nil_iff, each,
      repeated_eq_nil_iff keys, forall₂_congr ih]
    simp only [RepeatsKey, HasDefaultKey, somewhere_mapping]
    grind

/-- Each fault is a repeated key, or the key `=`. -/
theorem Readable.mem_faults {node : Node} (h : node.Readable) {entry : Nat × Fault}
    (inside : entry ∈ (node.build .refused).faults) :
    entry.2 = .document .unreadable ∧ node.HasDefaultKey ∨
      (∃ key, entry.2 = .document (.duplicateKey key)) ∧ node.RepeatsKey := by
  induction h generalizing entry with
  | scalar value => simp [build, Built.ofScalar, value] at inside
  | sequence parts ih =>
    rename_i items
    rw [build_sequence] at inside
    obtain ⟨item, there, within⟩ :
        ∃ item ∈ items, entry ∈ (item.build .refused).inside := by
      simpa [Built.ofItems, List.flatMap_map] using inside
    obtain ⟨depth, deeper⟩ := Built.exists_of_mem_inside within
    exact (ih item there deeper).imp (And.imp_right (.item there))
      (And.imp_right (.item there))
  | mapping keys parts ih =>
    rename_i pairs
    rw [(build_of_keyed keys).2, if_pos rfl, List.mem_append] at inside
    rcases inside with here | inside
    · rcases repeated_cases keys [] with
        ⟨none, _⟩ | ⟨stopped, default⟩ | ⟨key, stopped, twice⟩
      · rw [none] at here
        cases here
      · rw [stopped, List.mem_singleton] at here
        exact Or.inl ⟨congrArg Prod.snd here, .here default⟩
      · rw [stopped, List.mem_singleton] at here
        exact Or.inr ⟨⟨key, congrArg Prod.snd here⟩,
          .here (not_not.mp (mt fresh_nil.mpr twice))⟩
    · obtain ⟨pair, there, within⟩ := List.mem_flatMap.mp inside
      obtain ⟨depth, deeper⟩ := Built.exists_of_mem_inside within
      exact (ih pair there deeper).imp (And.imp_right (.value there))
        (And.imp_right (.value there))

end Node

theorem outermost_eq_none {faults : Faults} : outermost faults = none ↔ faults = [] := by
  cases faults <;> simp [outermost]

/-- The fault that counts is one of the faults. -/
theorem exists_of_outermost {faults : Faults} {fault : Fault}
    (counts : outermost faults = some fault) : ∃ depth, (depth, fault) ∈ faults := by
  have chosen (rest : Faults) (best : Nat × Fault) :
      rest.foldl (fun best next => if next.1 < best.1 then next else best) best ∈ best ::
        rest := by
    induction rest generalizing best with
    | nil => exact List.mem_cons_self
    | cons next rest ih =>
      rw [List.foldl_cons]
      split
      · exact List.mem_cons_of_mem _ (ih next)
      · exact List.mem_cons.mpr ((List.mem_cons.mp (ih best)).imp_right
          (List.mem_cons_of_mem _))
  cases faults with
  | nil => cases counts
  | cons first rest =>
    cases counts
    exact ⟨_, chosen rest first⟩

namespace Node

theorem value_eq_ok_iff {repeats : Repeats} {node : Node} {v : Value} :
    node.value repeats = .ok v ↔ (node.build repeats).faults = [] ∧
      (node.build repeats).value = v := by
  rw [value]
  cases counts : outermost (node.build repeats).faults with
  | none => simp [outermost_eq_none.mp counts]
  | some fault =>
    have faulty : (node.build repeats).faults ≠ [] := by
      rw [← outermost_eq_none.ne, counts]
      nofun
    simp [faulty]

theorem exists_of_value_eq_error {repeats : Repeats} {node : Node} {fault : Fault}
    (refused : node.value repeats = .error fault) :
    ∃ depth, (depth, fault) ∈ (node.build repeats).faults := by
  rw [value] at refused
  split at refused
  · rename_i counts
    cases refused
    exact exists_of_outermost counts
  · cases refused

/-- A readable tree has its value where equal keys are refused, or there is a reason for the
fault. -/
theorem Readable.value_cases {node : Node} (h : node.Readable) :
    (node.value .refused = .ok (node.build .lastWins).value ∧ ¬ node.RepeatsKey ∧
      ¬ node.HasDefaultKey) ∨
    (node.value .refused = .error (.document .unreadable) ∧ node.HasDefaultKey) ∨
    ∃ key, node.value .refused = .error (.document (.duplicateKey key)) ∧
      node.RepeatsKey := by
  cases result : node.value .refused with
  | ok w =>
    obtain ⟨clean, same⟩ := value_eq_ok_iff.mp result
    refine Or.inl ⟨?_, h.faults_eq_nil_iff.mp clean⟩
    rw [← same, h.value_eq]
  | error fault =>
    obtain ⟨depth, inside⟩ := exists_of_value_eq_error result
    rcases h.mem_faults inside with ⟨same, default⟩ | ⟨⟨key, same⟩, twice⟩
    · exact Or.inr (Or.inl ⟨congrArg Except.error same, default⟩)
    · exact Or.inr (Or.inr ⟨key, congrArg Except.error same, twice⟩)

/-- Take a tree without `<<` whose keys are scalars and that has a value where the last of
equal keys wins. If no mapping in it has the key `=`, then it is refused for an equal key if
and only if a mapping in it repeats a key, and otherwise has the same value. A tree with the
key `=` is always refused, for an equal key only if there is one. A registry whose document
is refused for an equal key is refused for that key. -/
theorem value_refused (node : Node) (v : Value) (even : ¬ node.Somewhere OddKey)
    (read : node.value .lastWins = .ok v) :
    (¬ node.HasDefaultKey →
      ((∃ key, node.value .refused = .error (.document (.duplicateKey key))) ↔
        node.RepeatsKey) ∧
      (¬ node.RepeatsKey → node.value .refused = .ok v)) ∧
    (node.HasDefaultKey → node.value .refused = .error (.document .unreadable) ∨
      node.RepeatsKey ∧
        ∃ key, node.value .refused = .error (.document (.duplicateKey key))) ∧
    ∀ dispatchers s key, (Token.ofDocument? s).bind ofTokens? = some (some node) →
      node.value .refused = .error (.document (.duplicateKey key)) →
      Registry.ofYaml dispatchers s =
        .error (.registry (.document (.duplicateKey key))) := by
  obtain ⟨clean, rfl⟩ := value_eq_ok_iff.mp read
  refine ⟨fun own => ?_, fun default => ?_, ?_⟩
  · rcases (readable_of_faults even clean).value_cases with
      ⟨done, single, _⟩ | ⟨_, default⟩ | ⟨key, done, twice⟩
    · rw [done]
      exact ⟨⟨fun ⟨_, same⟩ => (by cases same), fun twice => absurd twice single⟩,
        fun _ => rfl⟩
    · exact absurd default own
    · exact ⟨⟨fun _ => twice, fun _ => ⟨key, done⟩⟩, fun single => absurd twice single⟩
  · rcases (readable_of_faults even clean).value_cases with
      ⟨_, _, own⟩ | ⟨done, _⟩ | ⟨key, done, twice⟩
    · exact absurd default own
    · exact Or.inl done
    · exact Or.inr ⟨twice, key, done⟩
  · intro dispatchers s key text refused
    simp only [Registry.ofYaml, readYaml, Yaml.read, text, refused, Except.mapError,
      Fault.failure, bind, Except.bind]

/-- A list with a mapping that has the number 1 and another key. -/
def keyedList (key : Node) : Node :=
  .sequence [.mapping [(.scalar .int "1", .scalar .text "a"), (key, .scalar .null "")]]

/-- The number 1 in another form is the same key, and the text is another one. -/
theorem value_refused_list :
    let real := keyedList (.scalar .float "1.0")
    let text := keyedList (.scalar .text "1")
    let default := keyedList (.scalar .default "=")
    let listed (entries : List (Value × Value)) : Value :=
      .list [.map ((.int 1, .text "a") :: entries)]
    (¬ real.Somewhere OddKey ∧ real.value .lastWins = .ok (.list [.map [(.int 1, .null)]]) ∧
      ¬ real.HasDefaultKey ∧
      (Token.ofDocument? "[{1: a, 1.0}]").bind ofTokens? = some (some real) ∧
      ∃ key, real.value .refused = .error (.document (.duplicateKey key)) ∧
        Registry.ofYaml Dispatcher.standard "[{1: a, 1.0}]" =
          .error (.registry (.document (.duplicateKey key)))) ∧
    (¬ text.Somewhere OddKey ∧ text.value .lastWins = .ok (listed [(.text "1", .null)]) ∧
      ¬ text.HasDefaultKey ∧ ¬ text.RepeatsKey ∧
      text.value .refused = .ok (listed [(.text "1", .null)])) ∧
    ¬ default.Somewhere OddKey ∧ default.value .lastWins =
      .ok (listed [(.text "=", .null)]) ∧ default.HasDefaultKey ∧
      ¬ ∃ v, default.value .refused = .ok v := by
  intro real text default listed
  have whole : KeyIs (.scalar .int "1") (.int 1) := .scalar rfl
  refine ⟨?_, ?_, ?_⟩
  · have read : real.value .lastWins = .ok (.list [.map [(.int 1, .null)]]) := by rfl
    have cut : Token.ofDocument? "[{1: a, 1.0}]" =
        some [.flowSequenceStart, .flowMappingStart, .key, .scalar true "1", .value,
          .scalar true "a", .flowEntry, .scalar true "1.0", .flowMappingEnd,
          .flowSequenceEnd] := by
      decide +kernel
    have tokens :
        (Token.ofDocument? "[{1: a, 1.0}]").bind ofTokens? = some (some real) := by
      rw [cut]
      rfl
    have even : ¬ real.Somewhere OddKey := by simp [real, keyedList, OddKey]
    have own : ¬ real.HasDefaultKey := by simp [real, keyedList, HasDefaultKey, DefaultKey]
    have one : KeyIs (.scalar .float "1.0") (.float (.finite false (twoTo 52) (-52))) :=
      .scalar rfl
    have equal : sameKey (.int 1) (.float (.finite false (twoTo 52) (-52))) = true := by
      decide +kernel
    have together : ¬ Apart (.scalar .int "1", .scalar .text "a")
        (.scalar .float "1.0", .scalar .null "") := by
      intro apart
      rw [apart _ _ whole one] at equal
      cases equal
    have twice : real.RepeatsKey := by
      refine .item List.mem_cons_self (.here ?_)
      simp [TwiceKeyed, together]
    obtain ⟨regular, _, registry⟩ := value_refused real _ even read
    obtain ⟨key, refused⟩ := (regular own).1.mpr twice
    exact ⟨even, read, own, tokens, key, refused,
      registry Dispatcher.standard _ key tokens refused⟩
  · have read : text.value .lastWins = .ok (listed [(.text "1", .null)]) := by rfl
    have even : ¬ text.Somewhere OddKey := by simp [text, keyedList, OddKey]
    have own : ¬ text.HasDefaultKey := by simp [text, keyedList, HasDefaultKey, DefaultKey]
    have single : ¬ text.RepeatsKey := by
      have apart : Apart (.scalar .int "1", .scalar .text "a")
          (.scalar .text "1", .scalar .null "") := by
        intro v w first second
        rw [first.unique whole, second.unique (.scalar rfl)]
        rfl
      simp [text, keyedList, RepeatsKey, TwiceKeyed, apart]
    obtain ⟨regular, _⟩ := value_refused text _ even read
    exact ⟨even, read, own, single, (regular own).2 single⟩
  · have read : default.value .lastWins = .ok (listed [(.text "=", .null)]) := by rfl
    have even : ¬ default.Somewhere OddKey := by simp [default, keyedList, OddKey]
    have there : default.HasDefaultKey := by
      simp [default, keyedList, HasDefaultKey, DefaultKey]
    obtain ⟨_, refused, _⟩ := value_refused default _ even read
    refine ⟨even, read, there, ?_⟩
    rintro ⟨v, done⟩
    rw [done] at refused
    rcases refused there with same | ⟨_, key, same⟩ <;> cases same

/-- The key `=` has a value, and no place where equal keys are refused. -/
theorem value_refused_default :
    let node : Node := .mapping [(.scalar .default "=", .scalar .int "1")]
    ¬ node.Somewhere OddKey ∧ ¬ node.RepeatsKey ∧
      node.value .lastWins = .ok (.map [(.text "=", .int 1)]) ∧
      node.value .refused = .error (.document .unreadable) := by
  intro node
  refine ⟨?_, ?_, by rfl, by rfl⟩
  · simp [node, OddKey]
  · simp [node, RepeatsKey, TwiceKeyed]

end Node

end Questionnaire.Yaml
