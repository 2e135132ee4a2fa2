import Questionnaire.Documents
import Questionnaire.Proofs.DigitLimit
import Questionnaire.Proofs.JsonReading
import Questionnaire.Proofs.Reordering

/-!
# The JSON of a request is lossless and canonical

With entries sorted by key, a plain value can be written if its whole numbers keep to the
limit on digits, and in the way that its value in order is written as it stands. What is
written without floating-point numbers is read as that value. So nothing is lost but the
order of entries, and two values have one text if and only if they differ in that at most.
-/

namespace Questionnaire

namespace Json

open Digits (Guarded)

/-- The same layout with entries as they stand and no limit on digits. -/
def Style.asIs (style : Style) : Style := { style with sorted := false, digits := 0 }

variable {floats : Prop} {style : Style} {depth : Nat}

theorem arrange_asIs (parts : List Entry) : arrange style.asIs parts = .ok parts := rfl

/-- Within the limit on digits the text is that of the value with sorted entries. It is that
of the value in order as it stands, and reads as the value in order, if there are no
floating-point numbers. -/
structure WrittenAs (floats : Prop) (style : Style) (depth : Nat) (v : Value)
    (text : List Char) : Prop where
  sorted : Guarded style.digits (v.Within style.digits) (write style depth v) text
  asIs : write style.asIs depth (Yaml.arrange v) = .ok text
  reads : ¬floats → Reads text (Yaml.arrange v)

theorem writeItems_of_written {items : List Value}
    (each : ∀ v ∈ items, ∃ text, WrittenAs floats style depth v text) :
    ∃ parts, Guarded style.digits (∀ v ∈ items, v.Within style.digits)
      (writeItems style depth items) parts ∧
      writeItems style.asIs depth (items.map Yaml.arrange) = .ok parts ∧
      (¬floats → List.Forall₂ Reads parts (items.map Yaml.arrange)) := by
  induction items with
  | nil => exact ⟨[], .of_ok (List.forall_mem_nil _) rfl, rfl, fun _ => .nil⟩
  | cons v rest ih =>
    obtain ⟨part, first⟩ := each v List.mem_cons_self
    obtain ⟨parts, sorted, asIs, reads⟩ :=
      ih fun w inside => each w (List.mem_cons_of_mem _ inside)
    refine ⟨part :: parts, ?_, ?_, fun exact => .cons (first.reads exact) (reads exact)⟩
    · rw [List.forall_mem_cons]
      exact first.sorted.bind (sorted.map (part :: ·))
    · simp only [List.map_cons, writeItems, first.asIs, asIs, bind, Except.bind, pure,
        Except.pure]

theorem written_list {items : List Value}
    (each : ∀ v ∈ items, ∃ text, WrittenAs floats style (depth + 1) v text) :
    ∃ text, WrittenAs floats style depth (.list items) text := by
  obtain ⟨parts, sorted, asIs, reads⟩ := writeItems_of_written each
  refine ⟨enclose style (depth + 1) '[' ']' parts, ?_, ?_, ?_⟩
  · rw [Value.within_list]
    exact sorted.map (enclose style (depth + 1) '[' ']')
  · rw [Yaml.arrange_list]
    simp only [write, asIs, bind, Except.bind, pure, Except.pure]
    rfl
  · intro exact
    rw [Yaml.arrange_list]
    exact reads_list style (depth + 1) (reads exact)

/-- The entry with its value in order. -/
def inOrder (entry : Value × Value) : Value × Value := (entry.1, Yaml.arrange entry.2)

/-- What a part of a map has in common with its entry: as for values. -/
structure EntryAs (floats : Prop) (style : Style) (depth : Nat) (part : Entry)
    (entry : Value × Value) (text : List Char) : Prop where
  key : part.key = entry.1
  sorted : Guarded style.digits
    (entry.1.Within style.digits ∧ entry.2.Within style.digits) part.text text
  asIs : writeEntries style.asIs depth [inOrder entry] = [⟨entry.1, .ok text⟩]
  reads : ¬floats → ReadsBy readEntry text (inOrder entry)

/-- A part of a map is written as an entry. -/
def IsEntry (floats : Prop) (style : Style) (depth : Nat) (part : Entry)
    (entry : Value × Value) : Prop :=
  ∃ text, EntryAs floats style depth part entry text

theorem isEntry_of_written {s : String} {v : Value} {text : List Char}
    (h : WrittenAs floats style depth v text) :
    ∃ part, writeEntries style depth [(.text s, v)] = [part] ∧
      IsEntry floats style depth part (.text s, v) := by
  refine ⟨_, rfl, writeText s ++ ':' :: ' ' :: text, rfl, ?_, ?_, ?_⟩
  · have key : Guarded style.digits ((Value.text s).Within style.digits)
        (keyText style.digits (.text s)) s :=
      .of_ok (Value.within_of_isText rfl) rfl
    exact key.bind (h.sorted.map fun text => writeText s ++ ':' :: ' ' :: text)
  · simp only [inOrder, writeEntries, keyText, h.asIs, bind, Except.bind, pure, Except.pure]
  · intro exact
    exact readsBy_entry s (h.reads exact)

theorem writeEntries_of_written {entries : List (Value × Value)}
    (keys : ∀ entry ∈ entries, entry.1.isText = true)
    (each : ∀ entry ∈ entries, ∃ text, WrittenAs floats style depth entry.2 text) :
    List.Forall₂ (IsEntry floats style depth) (writeEntries style depth entries)
      entries := by
  induction entries with
  | nil => exact .nil
  | cons entry rest ih =>
    obtain ⟨key, v⟩ := entry
    have others := ih (fun entry inside => keys entry (List.mem_cons_of_mem _ inside))
      fun entry inside => each entry (List.mem_cons_of_mem _ inside)
    cases key with
    | text s =>
      obtain ⟨text, first⟩ := each (.text s, v) List.mem_cons_self
      obtain ⟨part, written, isEntry⟩ := isEntry_of_written (s := s) first
      rw [writeEntries, List.cons.injEq] at written
      rw [writeEntries, written.1]
      exact .cons isEntry others
    | _ => cases keys _ List.mem_cons_self

/-- The texts of parts, one after the other, are those of the entries in order. -/
theorem texts_of_entries {parts : List Entry} {entries : List (Value × Value)}
    (all : List.Forall₂ (IsEntry floats style depth) parts entries) :
    ∃ texts, Guarded style.digits
        (∀ entry ∈ entries, entry.1.Within style.digits ∧ entry.2.Within style.digits)
        (parts.mapM Entry.text) texts ∧
      (writeEntries style.asIs depth (entries.map inOrder)).mapM Entry.text = .ok texts ∧
      (¬floats → List.Forall₂ (ReadsBy readEntry) texts (entries.map inOrder)) := by
  induction all with
  | nil => exact ⟨[], .of_ok (List.forall_mem_nil _) rfl, rfl, fun _ => .nil⟩
  | @cons part entry parts entries first others ih =>
    obtain ⟨text, first⟩ := first
    obtain ⟨texts, sorted, asIs, reads⟩ := ih
    refine ⟨text :: texts, ?_, ?_, fun exact => .cons (first.reads exact) (reads exact)⟩
    · rw [List.forall_mem_cons, List.mapM_cons]
      exact first.sorted.bind (sorted.map (text :: ·))
    · have written := first.asIs
      rw [writeEntries, List.cons.injEq] at written
      rw [List.map_cons, writeEntries, written.1, List.mapM_cons, asIs]
      rfl

/-- The parts of a map are sorted as its entries are. -/
theorem arrange_parts (sorted : style.sorted = true) {entries : List (Value × Value)}
    (keys : ∀ entry ∈ entries, entry.1.isText = true)
    (distinct : (entries.map Prod.fst).Nodup) {parts : List Entry}
    (all : List.Forall₂ (IsEntry floats style depth) parts entries) :
    ∃ moved others, arrange style parts = .ok moved ∧
      Yaml.arrange (.map entries) = .map (others.map inOrder) ∧ others.Perm entries ∧
      List.Forall₂ (IsEntry floats style depth) moved others := by
  have sameKeys : parts.map Entry.key = entries.map Prod.fst := by
    rw [← List.forall₂_eq_eq_eq, List.forall₂_map_left_iff, List.forall₂_map_right_iff]
    exact all.imp fun _ _ ⟨_, isEntry⟩ => isEntry.key
  have texts : ∀ part ∈ parts, part.key.isText = true := by
    intro part inside
    have there : part.key ∈ entries.map Prod.fst := sameKeys ▸ List.mem_map_of_mem inside
    obtain ⟨entry, inside, same⟩ := List.mem_map.mp there
    rw [← same]
    exact keys entry inside
  -- the sorted parts belong to entries in the same order, and there is only one order that
  -- is sorted
  obtain ⟨moved, done, perm, order⟩ := Value.sortOn?_texts texts
  obtain ⟨others, all', perm'⟩ := List.perm_comp_forall₂ perm all
  refine ⟨moved, others, ?_, ?_, perm', all'⟩
  · rw [arrange, if_pos sorted, done]
    rfl
  · refine Yaml.arrange_map_eq keys distinct (perm'.map inOrder) (order.forall₂ ?_)
    rw [List.forall₂_map_right_iff]
    exact all'.imp fun _ _ ⟨_, isEntry⟩ => isEntry.key

theorem written_map (sorted : style.sorted = true) {entries : List (Value × Value)}
    (keys : ∀ entry ∈ entries, entry.1.isText = true)
    (distinct : (entries.map Prod.fst).Nodup)
    (each : ∀ entry ∈ entries, ∃ text, WrittenAs floats style (depth + 1) entry.2 text) :
    ∃ text, WrittenAs floats style depth (.map entries) text := by
  obtain ⟨moved, others, done, arranged, perm, all⟩ :=
    arrange_parts sorted keys distinct (writeEntries_of_written keys each)
  obtain ⟨texts, guarded, asIs, reads⟩ := texts_of_entries all
  refine ⟨enclose style (depth + 1) '\x7b' '\x7d' texts, ?_, ?_, ?_⟩
  · have fits : (Value.map entries).Within style.digits ↔
        ∀ entry ∈ others, entry.1.Within style.digits ∧ entry.2.Within style.digits := by
      rw [Value.within_map]
      simp only [perm.mem_iff]
    rw [fits, write, done]
    exact guarded.map (enclose style (depth + 1) '\x7b' '\x7d')
  · simp only [arranged, write, arrange_asIs, asIs, bind, Except.bind, pure, Except.pure]
    rfl
  · intro exact
    rw [arranged]
    refine reads_map style (depth + 1) (reads exact) ?_ ?_
    · intro entry inside
      obtain ⟨before, there, rfl⟩ := List.mem_map.mp inside
      exact keys before (perm.mem_iff.mp there)
    · rw [List.map_map]
      exact (perm.map Prod.fst).nodup_iff.mpr distinct

/-- A plain value can be written within the limit on digits, and is read in order if it has
no floating-point numbers. -/
theorem written_plain (sorted : style.sorted = true) {v : Value} (h : v.Plain floats)
    (depth : Nat) : ∃ text, WrittenAs floats style depth v text := by
  induction h generalizing depth with
  | null =>
    exact ⟨_, .of_ok (by simp [Value.Within, Value.wholes]) rfl, rfl, fun _ => reads_null⟩
  | bool b =>
    exact ⟨_, .of_ok (by simp [Value.Within, Value.wholes]) rfl, rfl, fun _ => reads_bool b⟩
  | int n =>
    refine ⟨_, ?_, rfl, fun _ => reads_int n⟩
    rw [Value.within_int]
    exact (Digits.guarded_write style.digits n).map String.toList
  | float x allowed =>
    exact ⟨_, .of_ok (by simp [Value.Within, Value.wholes]) rfl, rfl, fun exact =>
      absurd allowed exact⟩
  | text s => exact ⟨_, .of_ok (Value.within_of_isText rfl) rfl, rfl, fun _ => reads_text s⟩
  | list parts ih => exact written_list fun v inside => ih v inside (depth + 1)
  | map keys distinct parts ih =>
    exact written_map sorted keys distinct fun entry inside => ih entry inside (depth + 1)

/-- A plain value has a document within the limit on digits: that of the value in order,
whatever the limit. -/
theorem print_plain (style : Style) (sorted : style.sorted = true) {v : Value}
    (h : v.Plain floats) :
    ∃ document, Guarded style.digits (v.Within style.digits) (print style v) document ∧
      print style.asIs (Yaml.arrange v) = .ok document ∧
      (¬floats → read? document = some (Yaml.arrange v)) := by
  obtain ⟨text, written⟩ := written_plain sorted h 0
  refine ⟨String.ofList text, written.sorted.map String.ofList, ?_, fun exact =>
    read?_of_reads (written.reads exact)⟩
  rw [print, written.asIs]
  rfl

end Json

namespace Request

/-- Under another limit on digits a value has the document that it has without one, or none. -/
theorem print_limited {floats : Prop} (style : Json.Style) (sorted : style.sorted = true)
    {v : Value} (h : v.Plain floats) (limit : Nat) :
    (v.Within limit → Json.print { style with digits := limit } v =
      Json.print { style with digits := 0 } v) ∧
      (¬v.Within limit → Json.print { style with digits := limit } v =
        .error (Digits.tooMany limit)) := by
  obtain ⟨document, limited, asIs, _⟩ :=
    Json.print_plain { style with digits := limit } sorted h
  obtain ⟨document', free, asIs', _⟩ := Json.print_plain { style with digits := 0 } sorted h
  have same : document = document' := Except.ok.inj (asIs.symm.trans asIs')
  refine ⟨fun fits => ?_, limited.refused⟩
  rw [limited.ok fits, free.ok (Value.within_zero v), same]

/-- Requests without floating-point numbers, with distinct text keys, come back from their
JSON, on one line or laid out, with the entries of maps in another order at most; and two of
them have the same JSON if and only if they are the same up to that order. A limit on digits
changes no document; it refuses those with longer numbers. -/
theorem toJson_canonical (v w : Value) (hv : v.Plain False) (hw : w.Plain False) :
    (∃ back, v.Reordered back ∧
      (∃ document, toJson v 0 = .ok document ∧ ofJson document = .ok back) ∧
      ∀ width, ∃ document, toIndentedJson width v 0 = .ok document ∧
        ofJson document = .ok back) ∧
      (toJson v 0 = toJson w 0 ↔ v.Reordered w) ∧
      ∀ limit,
        (v.Within limit → toJson v limit = toJson v 0 ∧
          ∀ width, toIndentedJson width v limit = toIndentedJson width v 0) ∧
        (¬v.Within limit → toJson v limit = .error (Digits.tooMany limit) ∧
          ∀ width, toIndentedJson width v limit = .error (Digits.tooMany limit)) := by
  have lossless (style : Json.Style) (sorted : style.sorted = true)
      (free : style.digits = 0) {u : Value} (hu : u.Plain False) :
      ∃ document, Json.print style u = .ok document ∧
        Json.print style.asIs (Yaml.arrange u) = .ok document ∧
        ofJson document = .ok (Yaml.arrange u) := by
    obtain ⟨document, printed, asIs, back⟩ := Json.print_plain style sorted hu
    refine ⟨document, printed.ok (free ▸ Value.within_zero u), asIs, ?_⟩
    rw [ofJson, readJson, back id]
    rfl
  refine ⟨⟨Yaml.arrange v, Yaml.reordered_arrange hv, ?_, fun width => ?_⟩, ?_,
    fun limit => ⟨?_, ?_⟩⟩
  · obtain ⟨document, printed, _, back⟩ :=
      lossless { sorted := true, digits := 0 } rfl rfl hv
    exact ⟨document, printed, back⟩
  · obtain ⟨document, printed, _, back⟩ :=
      lossless { sorted := true, indent := some width, digits := 0 } rfl rfl hv
    exact ⟨document, printed, back⟩
  · obtain ⟨document, printed, asIs, back⟩ :=
      lossless { sorted := true, digits := 0 } rfl rfl hv
    obtain ⟨document', printed', asIs', back'⟩ :=
      lossless { sorted := true, digits := 0 } rfl rfl hw
    rw [toJson, toJson, printed, printed', Except.ok.injEq, ← Yaml.arrange_eq_iff hv hw]
    constructor
    · intro same
      rw [same, back', Except.ok.injEq] at back
      exact back.symm
    · intro same
      rw [same, asIs', Except.ok.injEq] at asIs
      exact asIs.symm
  · intro fits
    exact ⟨(print_limited { sorted := true } rfl hv limit).1 fits, fun width =>
      (print_limited { sorted := true, indent := some width } rfl hv limit).1 fits⟩
  · intro beyond
    exact ⟨(print_limited { sorted := true } rfl hv limit).2 beyond, fun width =>
      (print_limited { sorted := true, indent := some width } rfl hv limit).2 beyond⟩

/-- A nested value whose keys and texts need escaping, with an empty list, a truth value and
large numbers. -/
def nestedRequest (swapped : Bool) : Value :=
  let inner : List (Value × Value) :=
    [(.text "\"\\\n\t\u0001é😀", .bool true), (.text "", .int (-9007199254740993))]
  .map [(.text "vide", .list []),
    (.text "parts", .list [.int 1, .null, .map (if swapped then inner.reverse else inner)])]

theorem plain_nestedRequest (swapped : Bool) : (nestedRequest swapped).Plain False := by
  cases swapped <;>
    simp [nestedRequest, Value.plain_map_iff, Value.plain_list_iff, Value.isText,
      Value.Plain.int, Value.Plain.null, Value.Plain.bool]

theorem toJson_canonical_nested :
    (nestedRequest false).Plain False ∧ (nestedRequest true).Plain False ∧
      nestedRequest false ≠ nestedRequest true ∧
      toJson (nestedRequest false) 0 = toJson (nestedRequest true) 0 ∧
      ∃ back, (nestedRequest false).Reordered back ∧
        ∃ document, toIndentedJson 2 (nestedRequest false) 0 = .ok document ∧
          ofJson document = .ok back := by
  obtain ⟨⟨back, reordered, _, laidOut⟩, same, _⟩ :=
    toJson_canonical (nestedRequest false) (nestedRequest true) (plain_nestedRequest false)
      (plain_nestedRequest true)
  refine ⟨plain_nestedRequest false, plain_nestedRequest true, by decide, ?_, back,
    reordered, laidOut 2⟩
  apply same.mpr
  refine .entry [_] _ [] (.item [_, _] [] (.perm ?_))
  exact List.reverse_perm _ |>.symm

end Request

end Questionnaire
