import Questionnaire.Proofs.RegistryDocuments
import Questionnaire.Proofs.RegistryParts

/-!
# What documents of mappings are refused for

What is wrong with a document of mappings is told as a fault of the registry, but for a few
shapes that are not looked for: something else where a table belongs, a dispatcher named by
a list or a map, and keys without an order among those that have to be sorted. No document
with such a shape is accepted. The registry of an accepted document has its entries one by
one, each read as it says; the name of a variable is not looked at.
-/

namespace Questionnaire

namespace Value

/-- What a document can have in the place of a table: a map, or something that counts as false. -/
def isTable : Value → Bool
  | .map _ => true
  | v => !v.truthy

/-- The table that entries have under a name, if they have one. -/
def tableAt (name : String) (entries : List (Value × Value)) : List (Value × Value) :=
  match field? name entries with
  | some (.map table) => table
  | _ => []

end Value

namespace Mapping

/-- The dispatcher of an entry is named by something that cannot be looked up. -/
structure Unnamed (fields : List (Value × Value)) : Prop where
  counts : Value.field? "exclude" fields ≠ some (.bool true)
  unset : Value.field? "variable" fields = none
  odd : ∃ name, Value.field? "dispatch" fields = some name ∧ name.isKey = false

end Mapping

namespace RegistryPart

/-- What a part is called in a document. -/
def field : RegistryPart → String
  | answers _ => "answers"
  | probes _ => "questions"

/-- The entries that a document has for a part. -/
def entries (part : RegistryPart) (document : List (Value × Value)) :
    List (Value × Value) :=
  Value.tableAt part.field (Value.tableAt part.kind.name document)

/-- The value stands where a document has a table for the part: for its kind, or there for
the part itself. -/
inductive Under (part : RegistryPart) (document : List (Value × Value)) : Value → Prop
  | kind {v : Value} (given : Value.field? part.kind.name document = some v) :
      Under part document v
  | part {parts : List (Value × Value)} {v : Value}
      (given : Value.field? part.kind.name document = some (.map parts))
      (inside : Value.field? part.field parts = some v) : Under part document v

end RegistryPart

namespace Registry

/-- The keys of all parts of a document, part by part. -/
def declared (document : List (Value × Value)) : List Value :=
  RegistryPart.all.flatMap fun part => (part.entries document).map Prod.fst

/-- The shapes of documents that are not looked for. -/
inductive Misshapen (document : List (Value × Value)) : Prop
  | names
      (unordered : Options.Unordered (EntityKind.all.map EntityKind.name)
        (document.map Prod.fst))
  | table {part : RegistryPart} {v : Value} (under : part.Under document v)
      (odd : v.isTable = false)
  | dispatcher {part : RegistryPart} {key : Value} {fields : List (Value × Value)}
      (listed : (key, .map fields) ∈ part.entries document) (odd : Mapping.Unnamed fields)
  /-- Two keys that are repeated and have no order. -/
  | keys {v w : Value} (twice : Twice (declared document) v)
      (twice' : Twice (declared document) w)
      (apart : (v == w) = false) (unordered : ¬ Value.Compares v w)

/-- The entry of a table for an entry of a document. -/
inductive Reads (dispatchers : List Dispatcher) :
    Value × Value → Value × Option Mapping → Prop
  | entry {key : Value} {fields : List (Value × Value)} {mapping : Mapping}
      (read : mapping.ReadFrom dispatchers fields) : Reads dispatchers (key, .map fields)
      (key, some mapping)

end Registry

/-! ### Reading the parts -/

namespace Registry

variable {dispatchers : List Dispatcher} {document : List (Value × Value)}
  {answers probes : PerKind MappingTable}

/-- Repeated keys stop the making of a registry, with a fault if they have an order. -/
theorem ofParts_eq_error {failure : Failure}
    (stopped : ofParts answers probes = .error failure) :
    (∃ fault, failure = .registry fault) ∨
      failure = .misuse .kind ∧ ∃ v w,
        Twice ((places (parts answers probes)).map Prod.fst) v ∧
        Twice ((places (parts answers probes)).map Prod.fst) w ∧ (v == w) = false ∧
          ¬ Value.Compares v w := by
  unfold ofParts at stopped
  rw [owners_eq_foldl] at stopped
  dsimp only at stopped
  split at stopped
  · cases stopped
  · split at stopped
    · cases stopped
      exact .inl ⟨_, rfl⟩
    · rename_i unsorted
      cases stopped
      have held := ownersOf_places (places (parts answers probes))
      obtain ⟨⟨v, names⟩, ⟨w, names'⟩, listed, unordered⟩ :=
        Value.exists_of_sortOn?_eq_none unsorted
      have several (entry : Value × List String)
          (inside : entry ∈ [(v, names), (w, names')]) :
          entry ∈ (places (parts answers probes)).foldl note [] ∧ 1 < entry.2.length := by
        simpa using List.mem_filter.mp (listed.subset inside)
      obtain ⟨first, long⟩ := several (v, names) (by simp)
      obtain ⟨second, long'⟩ := several (w, names') (by simp)
      have both :
          [v, w].Sublist (Table.keys ((places (parts answers probes)).foldl note [])) :=
        (listed.trans List.filter_sublist).map Prod.fst
      exact .inr ⟨rfl, v, w, held.twice _ _ first long, held.twice _ _ second long',
        List.pairwise_iff_forall_sublist.mp held.apart both, unordered⟩

theorem ofParts_eq_ok {r : Registry} (done : ofParts answers probes = .ok r) {v : Value}
    (keyed : v.isKey = true) :
    ¬ Twice ((places (parts answers probes)).map Prod.fst) v := by
  intro twice
  obtain ⟨entry, inside, several⟩ := exists_several keyed twice
  unfold ofParts at done
  rw [owners_eq_foldl] at done
  dsimp only at done
  split at done
  · rename_i none
    have there : entry ∈ ((places (parts answers probes)).foldl note []).filter fun entry =>
        1 < entry.2.length :=
      List.mem_filter.mpr ⟨inside, by simpa using several⟩
    rw [List.isEmpty_iff.mp none] at there
    cases there
  · split at done <;> cases done

/-- What a document has for a kind; what counts as false is as good as an empty map. -/
def content (document : List (Value × Value)) (kind : EntityKind) : Value :=
  let named := (Value.field? kind.name document).getD .null
  if named.truthy then named else .map []

/-- What stands under a name is a table, or nothing is read. -/
theorem readSection_map (name : String) (entries : List (Value × Value)) :
    (readSection name (.map entries) = .ok (Value.tableAt name entries) ∧
      ∀ v, Value.field? name entries = some v → v.isTable = true) ∨
    readSection name (.map entries) = .error (.misuse .operation) ∧
      ∃ v, Value.field? name entries = some v ∧ v.isTable = false := by
  cases given : Value.field? name entries with
  | none => exact .inl ⟨by simp [readSection, Value.tableAt, given], nofun⟩
  | some v =>
    cases v with
    | map table =>
      refine .inl ⟨?_, by rintro _ ⟨⟩; rfl⟩
      cases table <;> simp [readSection, Value.tableAt, given, Value.truthy]
    | _ => simp [readSection, Value.tableAt, given, Value.isTable]

theorem content_map {kind : EntityKind} {parts : List (Value × Value)}
    (given : Value.field? kind.name document = some (.map parts)) :
    content document kind = .map parts := by
  cases parts <;> simp [content, given, Value.truthy]

/-- Where no kind has a map, the part is empty, unless something else is in the place of one. -/
theorem readSection_unmapped {part : RegistryPart}
    (unmapped : ∀ parts, Value.field? part.kind.name document ≠ some (.map parts)) :
    (readSection part.field (content document part.kind) = .ok [] ∧
      ∀ v, Value.field? part.kind.name document = some v → v.isTable = true) ∨
    readSection part.field (content document part.kind) = .error (.misuse .operation) ∧
      ∃ v, Value.field? part.kind.name document = some v ∧ v.isTable = false := by
  cases given : Value.field? part.kind.name document with
  | none => exact .inl ⟨by simp [content, given, readSection, Value.truthy], nofun⟩
  | some v =>
    cases full : v.truthy with
    | false =>
      refine .inl ⟨by simp [content, given, full, readSection], ?_⟩
      rintro _ ⟨⟩
      cases v <;> simp_all [Value.isTable]
    | true =>
      cases v with
      | map parts => exact absurd given (unmapped parts)
      | _ =>
          exact .inr ⟨by simp [content, given, full, readSection], _,
            rfl, by simp [Value.isTable, full]⟩

/-- A part is looked up in tables, or something else is in the place of one. -/
theorem readSection_cases (part : RegistryPart) (document : List (Value × Value)) :
    (readSection part.field (content document part.kind) = .ok (part.entries document) ∧
      ∀ v, part.Under document v → v.isTable = true) ∨
    readSection part.field (content document part.kind) = .error (.misuse .operation) ∧
      ∃ v, part.Under document v ∧ v.isTable = false := by
  by_cases mapped : ∃ parts, Value.field? part.kind.name document = some (.map parts)
  · obtain ⟨parts, given⟩ := mapped
    have entries : part.entries document = Value.tableAt part.field parts := by
      simp [RegistryPart.entries, Value.tableAt, given]
    rw [content_map given, entries]
    rcases readSection_map part.field parts with ⟨read, tables⟩ | ⟨read, v, inside, odd⟩
    · refine .inl ⟨read, ?_⟩
      rintro v (⟨there⟩ | ⟨there, inside⟩)
      · cases there.symm.trans given
        rfl
      · cases there.symm.trans given
        exact tables v inside
    · exact .inr ⟨read, v, .part given inside, odd⟩
  · have unmapped := not_exists.mp mapped
    have entries : part.entries document = [] := by
      have none : Value.tableAt part.kind.name document = [] := by
        unfold Value.tableAt
        split
        · exact absurd ‹_› (unmapped _)
        · rfl
      rw [RegistryPart.entries, none]
      rfl
    rw [entries]
    rcases readSection_unmapped unmapped with ⟨read, tables⟩ | ⟨read, v, there, odd⟩
    · refine .inl ⟨read, ?_⟩
      rintro v (⟨there⟩ | ⟨there, _⟩)
      · exact tables v there
      · exact absurd there (unmapped _)
    · exact .inr ⟨read, v, .kind there, odd⟩

end Registry

namespace Mapping

variable {dispatchers : List Dispatcher} {key entry : Value}

theorem ofValue_eq_error {failure : Failure}
    (stopped : ofValue dispatchers key entry = .error failure) :
    (∃ fault, failure = .registry fault) ∨
      failure = .misuse .kind ∧ ∃ fields, entry = .map fields ∧ Unnamed fields := by
  unfold ofValue at stopped
  split at stopped
  · rename_i fields
    split at stopped
    · cases stopped
    · rename_i counts
      rcases bind_eq_error_iff.mp stopped with unread | ⟨type, _, stopped⟩
      · unfold readPeriod at unread
        dsimp only at unread
        split at unread <;> cases unread
        exact .inl ⟨_, rfl⟩
      · split at stopped
        · cases stopped
        · rename_i name unset named
          split at stopped
          · rename_i odd
            cases stopped
            exact .inr ⟨rfl, fields, rfl, counts, unset, name, named, by simpa using odd⟩
          · split at stopped <;> cases stopped
            exact .inl ⟨_, rfl⟩
        · cases stopped
          exact .inl ⟨_, rfl⟩
  · cases stopped
    exact .inl ⟨_, rfl⟩

/-- An entry whose dispatcher cannot be looked up is not read. -/
theorem ReadFrom.not_unnamed {fields : List (Value × Value)} {mapping : Mapping}
    (read : mapping.ReadFrom dispatchers fields) : ¬ Unnamed fields := by
  rintro ⟨counts, unset, name, named, odd⟩
  cases read with
  | excluded given => exact counts given
  | direct _ given => cases unset.symm.trans given
  | dispatch _ _ _ given =>
    cases named.symm.trans given
    cases odd

end Mapping

namespace Registry

variable {dispatchers : List Dispatcher} {document : List (Value × Value)}

/-! ### Reading a document -/

theorem not_unnamed_of_reads {entries : List (Value × Value)} {table : MappingTable}
    (read : List.Forall₂ (Reads dispatchers) entries table) {key : Value}
    {fields : List (Value × Value)} (listed : (key, .map fields) ∈ entries) :
    ¬ Mapping.Unnamed fields := by
  have each : ∀ entry ∈ entries, ∀ fields, entry.2 = .map fields →
      ¬ Mapping.Unnamed fields := by
    refine forall_mem_of_forall₂ read.flip ?_
    rintro _ _ ⟨readFrom⟩ _ ⟨⟩
    exact readFrom.not_unnamed
  exact each _ listed _ rfl

/-- What a document is refused with: a fault of the registry, or a misuse if its shape is
not looked for. -/
def Refusal (document : List (Value × Value)) (failure : Failure) : Prop :=
  (∃ fault, failure = .registry fault) ∨ (∃ misuse, failure = .misuse misuse) ∧
  Misshapen document

theorem readPart_eq_error (part : RegistryPart) {failure : Failure}
    (stopped : readPart dispatchers part.field (content document part.kind) =
      .error failure) : Refusal document failure := by
  rcases readSection_cases part document with ⟨read, _⟩ | ⟨read, v, under, odd⟩
  · rw [readPart, read] at stopped
    obtain ⟨⟨key, entry⟩, inside, stopped⟩ := exists_of_mapM_eq_error stopped
    rcases bind_eq_error_iff.mp stopped with unread | ⟨_, _, done⟩
    · rcases Mapping.ofValue_eq_error unread with fault | ⟨rfl, fields, rfl, odd⟩
      · exact .inl fault
      · exact .inr ⟨⟨_, rfl⟩, .dispatcher inside odd⟩
    · cases done
  · rw [readPart, read] at stopped
    cases stopped
    exact .inr ⟨⟨_, rfl⟩, .table under odd⟩

theorem readPart_eq_ok {part : RegistryPart} {table : MappingTable}
    (done : readPart dispatchers part.field (content document part.kind) = .ok table) :
    (∀ v, part.Under document v → v.isTable = true) ∧
      List.Forall₂ (Reads dispatchers) (part.entries document) table := by
  rcases readSection_cases part document with ⟨read, tables⟩ | ⟨read, _⟩
  · rw [readPart, read] at done
    refine ⟨tables, ((mapM_eq_ok_iff _ _ _).mp done).imp ?_⟩
    rintro ⟨key, entry⟩ result described
    obtain ⟨mapping, described, finished⟩ := bind_eq_ok_iff.mp described
    obtain ⟨fields, rfl, readFrom⟩ := Mapping.readFrom_of_ofValue described
    cases finished
    exact .entry readFrom
  · rw [readPart, read] at done
    cases done

theorem keys_of_reads {entries : List (Value × Value)} {table : MappingTable}
    (read : List.Forall₂ (Reads dispatchers) entries table) :
    Table.keys table = entries.map Prod.fst := by
  induction read with
  | nil => rfl
  | cons here _ ih =>
    cases here
    rw [Table.keys, List.map_cons, List.map_cons, ← ih]
    rfl

theorem readKind_cases (dispatchers : List Dispatcher) (document : List (Value × Value))
    (kind : EntityKind) :
    (∃ failure, readKind dispatchers (.map document) kind = .error failure ∧
      Refusal document failure) ∨
    ∃ answers probes, readKind dispatchers (.map document) kind = .ok (answers, probes) ∧
      readPart dispatchers "answers" (content document kind) = .ok answers ∧
      readPart dispatchers "questions" (content document kind) = .ok probes := by
  cases result : readKind dispatchers (.map document) kind with
  | error failure =>
    refine .inl ⟨failure, rfl, ?_⟩
    rcases bind_eq_error_iff.mp result with first | ⟨_, _, later⟩
    · exact readPart_eq_error (.answers kind) first
    · rcases bind_eq_error_iff.mp later with second | ⟨_, _, done⟩
      · exact readPart_eq_error (.probes kind) second
      · cases done
  | ok tables =>
    obtain ⟨answers, first, later⟩ := bind_eq_ok_iff.mp result
    obtain ⟨probes, second, done⟩ := bind_eq_ok_iff.mp later
    cases done
    exact .inr ⟨answers, probes, rfl, first, second⟩

/-- A document is refused as its names or one of its parts are, or its parts are read and
joined. -/
theorem ofValue_cases (dispatchers : List Dispatcher) (document : List (Value × Value)) :
    (∃ failure, ofValue dispatchers (.map document) = .error failure ∧
      Refusal document failure) ∨
    ¬ Options.Unordered (EntityKind.all.map EntityKind.name) (document.map Prod.fst) ∧
      ∃ answers probes, ofValue dispatchers (.map document) = ofParts answers probes ∧
        ∀ part : RegistryPart,
          readPart dispatchers part.field (content document part.kind) =
            .ok (part.of answers probes) := by
  rcases Options.unknownKeys_cases (EntityKind.all.map EntityKind.name)
    (document.map Prod.fst) with
    ⟨unknown, told, ordered, _⟩ | ⟨told, unordered⟩
  · by_cases known : unknown.isEmpty = true
    · have goesOn : ofValue dispatchers (.map document) = (do
          let first ← readKind dispatchers (.map document) .individual
          let second ← readKind dispatchers (.map document) .household
          let third ← readKind dispatchers (.map document) .taxHousehold
          let fourth ← readKind dispatchers (.map document) .family
          ofParts ⟨first.1, second.1, third.1, fourth.1⟩ ⟨first.2, second.2, third.2,
            fourth.2⟩) := by
        simp [ofValue, Options.keysOf, told, known, bind, Except.bind]
      rw [goesOn]
      -- the first kind that is not read decides
      rcases readKind_cases dispatchers document .individual with
        ⟨failure, stopped, refusal⟩ | ⟨_, _, first, _, _⟩
      · exact .inl ⟨failure, by rw [stopped]; rfl, refusal⟩
      rcases readKind_cases dispatchers document .household with
        ⟨failure, stopped, refusal⟩ | ⟨_, _, second, _, _⟩
      · exact .inl ⟨failure, by rw [first, stopped]; rfl, refusal⟩
      rcases readKind_cases dispatchers document .taxHousehold with
        ⟨failure, stopped, refusal⟩ | ⟨_, _, third, _, _⟩
      · exact .inl ⟨failure, by rw [first, second, stopped]; rfl, refusal⟩
      rcases readKind_cases dispatchers document .family with
        ⟨failure, stopped, refusal⟩ | ⟨_, _, fourth, _, _⟩
      · exact .inl ⟨failure, by rw [first, second, third, stopped]; rfl, refusal⟩
      refine .inr ⟨ordered, _, _, by rw [first, second, third, fourth]; rfl, ?_⟩
      rintro (kind | kind) <;> cases kind <;> assumption
    · refine .inl ⟨_, ?_, .inl ⟨.unknownKinds unknown, rfl⟩⟩
      simp [ofValue, Options.keysOf, told, known, bind, Except.bind]
  · refine .inl ⟨_, ?_, .inr ⟨⟨.kind, rfl⟩, .names unordered⟩⟩
    simp [ofValue, Options.keysOf, told, bind, Except.bind]

theorem keys_places_of_reads {answers probes : PerKind MappingTable}
    (read : ∀ part : RegistryPart,
      List.Forall₂ (Reads dispatchers) (part.entries document) (part.of answers probes)) :
    (places (parts answers probes)).map Prod.fst = declared document := by
  rw [keys_places, declared]
  simp only [keys_of_reads (read _)]

/-- A document whose keys can be looked up is refused with a fault of the registry, or with
a misuse if its shape is not looked for. One with such a shape is never accepted, and an
accepted one is read entry by entry. -/
theorem ofValue_refused (dispatchers : List Dispatcher) (document : List (Value × Value))
    (keyed : ∀ v ∈ declared document, v.isKey = true) :
    (∀ failure, ofValue dispatchers (.map document) = .error failure →
      (∃ fault, failure = .registry fault) ∨
        (∃ misuse, failure = .misuse misuse) ∧ Misshapen document) ∧
    ∀ r, ofValue dispatchers (.map document) = .ok r →
      ¬ Misshapen document ∧ ∀ kind, List.Forall₂ (Reads dispatchers)
        ((RegistryPart.answers kind).entries document ++
          (RegistryPart.probes kind).entries document)
        (r.tables.get kind) := by
  rcases ofValue_cases dispatchers document with
    ⟨failure, stopped, refusal⟩ | ⟨ordered, answers, probes, joined, read⟩
  · rw [stopped]
    refine ⟨?_, nofun⟩
    rintro _ ⟨⟩
    exact refusal
  · rw [joined]
    have parts (part : RegistryPart) := readPart_eq_ok (read part)
    have keys := keys_places_of_reads fun part => (parts part).2
    constructor
    · intro failure stopped
      rcases ofParts_eq_error stopped with fault | ⟨rfl, v, w, first, second, apart, unordered⟩
      · exact .inl fault
      · exact .inr ⟨⟨_, rfl⟩, .keys (keys ▸ first) (keys ▸ second) apart unordered⟩
    · intro r done
      constructor
      · rintro (unordered | ⟨under, odd⟩ | ⟨listed, odd⟩ | ⟨twice, _⟩)
        · exact ordered unordered
        · rw [(parts _).1 _ under] at odd
          cases odd
        · exact not_unnamed_of_reads (parts _).2 listed odd
        · have ⟨_, inside, _⟩ := twice
          exact ofParts_eq_ok done (keyed _ (inside.subset List.mem_cons_self))
            (keys ▸ twice)
      · intro kind
        rw [tables_of_ofParts done]
        exact List.rel_append (parts (.answers kind)).2 (parts (.probes kind)).2

/-- An age by the year and a name that is not for the engine, and how the household lives. -/
def rentDocument : List (Value × Value) :=
  [(.text "individus", .map [(.text "answers", .map
      [(.text "age", .map [(.text "variable", .text "age"),
        (.text "period", .text "YEAR")]),
        (.text "nom", .map [(.text "exclude", .bool true)])])]),
    (.text "menages", .map [(.text "answers", .null), (.text "questions", .map
      [(.text "logement", .map [(.text "dispatch", .text "situation_logement")])])])]

/-- A list of keys in the place of a table. -/
def listDocument : List (Value × Value) :=
  [(.text "individus", .map [(.text "answers", .list [.text "age"])])]

theorem ofValue_refused_rent :
    (∃ r, ofValue Dispatcher.standard (.map rentDocument) = .ok r ∧
      ¬ Misshapen rentDocument ∧
      List.Forall₂ (Reads Dispatcher.standard)
        ((RegistryPart.answers .individual).entries rentDocument)
        (r.tables.get .individual)) ∧
    ∃ failure, ofValue Dispatcher.standard (.map listDocument) = .error failure ∧
      (∀ fault, failure ≠ .registry fault) ∧ Misshapen listDocument := by
  constructor
  · have keyed : ∀ v ∈ declared rentDocument, v.isKey = true := by decide +kernel
    obtain ⟨_, accepted⟩ := ofValue_refused Dispatcher.standard rentDocument keyed
    have read : ∃ r, ofValue Dispatcher.standard (.map rentDocument) = .ok r := ⟨_, rfl⟩
    obtain ⟨r, done⟩ := read
    obtain ⟨shaped, each⟩ := accepted r done
    exact ⟨r, done, shaped, each .individual⟩
  · have keyed : ∀ v ∈ declared listDocument, v.isKey = true := by decide +kernel
    obtain ⟨refused, _⟩ := ofValue_refused Dispatcher.standard listDocument keyed
    have stopped :
        ofValue Dispatcher.standard (.map listDocument) = .error (.misuse .operation) := rfl
    refine ⟨_, stopped, nofun, ?_⟩
    rcases refused _ stopped with ⟨_, ⟨⟩⟩ | ⟨_, odd⟩
    exact odd

/-- One entry for an age. -/
def ageDocument (fields : List (Value × Value)) : List (Value × Value) :=
  [(.text "individus", .map [(.text "answers", .map [(.text "age", .map fields)])])]

/-- Faulty documents that are not told as such: a list in the place of a table, a list that
names a dispatcher, and a number that names a variable, which is accepted. -/
theorem ofValue_unforeseen :
    ofValue Dispatcher.standard (.map listDocument) = .error (.misuse .operation) ∧
      ofValue Dispatcher.standard (.map (ageDocument [(.text "dispatch", .list [])])) =
        .error (.misuse .kind) ∧
      ∃ r, ofValue Dispatcher.standard (.map (ageDocument [(.text "variable", .int 5)])) = .ok r ∧
        r.mapping? (.text "age") = some (.direct (.int 5) .month) := by
  refine ⟨rfl, rfl, ?_⟩
  have accepted :
      ofValue Dispatcher.standard (.map (ageDocument [(.text "variable", .int 5)])) =
      .ok ⟨⟨[(.text "age", some (.direct (.int 5) .month))], [], [], []⟩⟩ := rfl
  exact ⟨_, accepted, rfl⟩

end Registry

end Questionnaire
