import Questionnaire.BirthDate
import Questionnaire.Proofs.IsoDates
import Questionnaire.Proofs.QuestionDocuments

/-!
# Birth dates on a 1 January

In a request whose individuals are maps, each text under the birth date that is a date
becomes the 1 January of the year that gives the age, and nothing else changes. Two birth
dates become one exactly if they give the same age, and a request that has been gone over
stays as it is. The year after 9999 has no date, but it can be the next birthday.
-/

namespace Questionnaire

namespace Value

/-- Two maps with the same keys in the same places; the values under a key are related as
the key asks. -/
inductive Entrywise (R : Value → Value → Value → Prop) : Value → Value → Prop
  | map {entries others : List (Value × Value)}
      (each : List.Forall₂ (fun entry other => other.1 = entry.1 ∧
        R entry.1 entry.2 other.2) entries others) :
      Entrywise R (.map entries) (.map others)

/-- The values under the name are related, and those under any other key are the same. -/
def Under (name : String) (R : Value → Value → Prop) (key v w : Value) : Prop :=
  if key = .text name then R v w else w = v

theorem entrywise_map {R : Value → Value → Value → Prop} {entries : List (Value × Value)}
    {f : Value → Value → Value} (h : ∀ key v, R key v (f key v)) :
    Entrywise R (.map entries) (.map (entries.map fun entry =>
      (entry.1, f entry.1 entry.2))) := by
  refine .map ?_
  rw [List.forall₂_map_right_iff, List.forall₂_same]
  exact fun entry _ => ⟨rfl, h entry.1 entry.2⟩

/-- A function that fixes all values that can come second leaves the second map as it is. -/
theorem map_eq_of_entrywise {R : Value → Value → Value → Prop} {v : Value}
    {others : List (Value × Value)} {f : Value → Value → Value}
    (related : Entrywise R v (.map others)) (fixed : ∀ key v w, R key v w → f key w = w) :
    others.map (fun entry => (entry.1, f entry.1 entry.2)) = others := by
  cases related with
  | map each =>
    have same : ∀ other ∈ others, (other.1, f other.1 other.2) = id other := by
      refine forall_mem_of_forall₂ each ?_
      rintro entry ⟨key, w⟩ ⟨rfl, related⟩
      exact Prod.ext rfl (fixed _ _ _ related)
    rw [List.map_congr_left same, List.map_id]

end Value

namespace BirthDate

open Value (Entrywise Under)

/-- The 1 January of a year, as it is written. -/
def newYear (year : Nat) : String := Text.padded 4 year ++ "-01-01"

variable (today : Date)

/-- What becomes of a birth date: one that is a date goes to a 1 January, anything else stays. -/
inductive Moved : Value → Value → Prop
  | born {s : String} {birth : Date} {year : Nat} (read : Date.ofIso s = .ok birth)
      (aged : (year : ℤ) = today.year - birth.age today) :
          Moved (.text s) (.text (newYear year))
  | kept {v : Value} (undated : ∀ s birth, v = .text s → Date.ofIso s ≠ .ok birth) : Moved v v

/-- What becomes of the birth dates of an individual, by period. -/
inductive PeriodsMoved : Value → Value → Prop
  | map {v w : Value} (each : Entrywise (fun _ => Moved today) v w) : PeriodsMoved v w
  | other {v : Value} (noMap : ∀ cells, v ≠ .map cells) : PeriodsMoved v v

/-- What becomes of a request: only birth dates of individuals move. -/
def RequestMoved : Value → Value → Prop :=
  Entrywise (Under "individus" (Entrywise fun _ =>
    Entrywise (Under "date_naissance" (PeriodsMoved today))))

/-- The individuals of the request, if it has any, are maps of fields. -/
def HoldsIndividuals (request : Value) : Prop :=
  ∃ kinds, request = .map kinds ∧ ∀ content, (.text "individus", content) ∈ kinds →
    ∃ individuals, content = .map individuals ∧ ∀ entry ∈ individuals, ∃ fields,
      entry.2 = .map fields

/-! ### The new year -/

variable {today} {birth : Date}

/-- The year is that of the birth or the next one. -/
theorem exists_year (today birth : Date) :
    ∃ year : Nat, (year : ℤ) = today.year - birth.age today ∧ birth.year ≤ year ∧
      year ≤ birth.year + 1 := by
  refine ⟨if today.beforeInYear birth then birth.year + 1 else birth.year, ?_⟩
  simp only [Date.age]
  split <;> omega

theorem year_bounds {year : Nat} (aged : (year : ℤ) = today.year - birth.age today) :
    1 ≤ year ∧ year ≤ 10000 := by
  obtain ⟨other, same, low, high⟩ := exists_year today birth
  obtain ⟨⟨first, last⟩, _⟩ := birth.valid
  omega

theorem rounded_eq {year : Nat} (aged : (year : ℤ) = today.year - birth.age today) :
    rounded today birth = newYear year := by
  rw [rounded, newYear, ← aged, Int.toNat_natCast]

theorem newYear_inj {year other : Nat} : newYear year = newYear other ↔ year = other := by
  rw [newYear, newYear, String.append_left_inj, Text.padded_inj]

/-- Up to 9999, a 1 January is read as a date. -/
theorem exists_ofIso_newYear {year : Nat} (first : 1 ≤ year) (last : year ≤ 9999) :
    ∃ day : Date, Date.ofIso (newYear year) = .ok day ∧ day.year = year ∧ day.month = 1 ∧
      day.day = 1 := by
  have valid : (1 ≤ year ∧ year ≤ 9999) ∧ (1 ≤ 1 ∧ 1 ≤ 12) ∧ 1 ≤ 1 ∧
      1 ≤ monthLength year 1 :=
    ⟨⟨first, last⟩, by decide, le_refl 1, Date.monthLength_pos year 1⟩
  have text : newYear year = (⟨year, 1, 1, valid⟩ : Date).iso := by
    simp only [newYear, Date.iso, String.append_assoc]
    rfl
  exact ⟨_, text ▸ Date.ofIso_iso _, rfl, rfl, rfl⟩

theorem ofIso_newYear_of_large : ∀ day, Date.ofIso (newYear 10000) ≠ .ok day := by
  have refused : (Date.ofIso (newYear 10000)).toOption = none := by decide +kernel
  intro day read
  rw [read] at refused
  cases refused

/-! ### Going over a request -/

theorem moved_roundValue (today : Date) (v : Value) :
    Moved today v (roundValue today v) := by
  unfold roundValue
  split
  · split
    · rename_i birth read
      obtain ⟨year, aged, _⟩ := exists_year today birth
      rw [rounded_eq aged]
      exact .born read aged
    · rename_i fault unread
      refine .kept ?_
      rintro _ birth ⟨⟩ read
      rw [unread] at read
      cases read
  · rename_i noText
    exact .kept fun s birth text _ => noText s text

/-- What has been moved is not moved again. -/
theorem roundValue_of_moved {v w : Value} (moved : Moved today v w) :
    roundValue today w = w := by
  cases moved with
  | kept undated =>
    unfold roundValue
    split
    · split
      · rename_i read
        exact absurd read (undated _ _ rfl)
      · rfl
    · rfl
  | born read aged =>
    rename_i s birth year
    obtain ⟨first, last⟩ := year_bounds aged
    by_cases small : year ≤ 9999
    · obtain ⟨day, again, same, month, start⟩ := exists_ofIso_newYear first small
      have aged' : (year : ℤ) = today.year - day.age today := by
        rw [Date.age_of_newYear month start, same]
        omega
      simp only [roundValue, again, rounded_eq aged']
    · have beyond : year = 10000 := by omega
      subst beyond
      cases unread : Date.ofIso (newYear 10000) with
      | ok day => exact absurd unread (ofIso_newYear_of_large day)
      | error fault => simp only [roundValue, unread]

theorem periodsMoved_roundPeriods (today : Date) (v : Value) :
    PeriodsMoved today v (roundPeriods today v) := by
  unfold roundPeriods
  split
  · exact .map (Value.entrywise_map fun _ => moved_roundValue today)
  · rename_i noMap
    exact .other noMap

theorem roundPeriods_of_moved {v w : Value} (moved : PeriodsMoved today v w) :
    roundPeriods today w = w := by
  cases moved with
  | map each =>
    cases w with
    | map cells =>
      exact congrArg Value.map (Value.map_eq_of_entrywise each fun _ _ _ =>
        roundValue_of_moved)
    | _ => cases each
  | other noMap =>
    unfold roundPeriods
    split
    · exact absurd rfl (noMap _)
    · rfl

/-- The fields of an individual, gone over. -/
def roundField (today : Date) (name value : Value) : Value :=
  if name == .text "date_naissance" then roundPeriods today value else value

theorem roundIndividual_map (today : Date) (fields : List (Value × Value)) :
    roundIndividual today (.map fields) =
      .ok (.map (fields.map fun entry => (entry.1, roundField today entry.1 entry.2))) := rfl

theorem under_roundField (today : Date) (name v : Value) :
    Under "date_naissance" (PeriodsMoved today) name v (roundField today name v) := by
  simp only [Under, roundField, Value.same_text]
  split
  · exact periodsMoved_roundPeriods today v
  · rfl

theorem roundField_of_under {name v w : Value}
    (moved : Under "date_naissance" (PeriodsMoved today) name v w) :
    roundField today name w = w := by
  simp only [Under, roundField, Value.same_text] at moved ⊢
  split
  · rename_i named
    rw [if_pos named] at moved
    exact roundPeriods_of_moved moved
  · rfl

/-- The content of a kind, gone over. -/
def roundKind (today : Date) (entry : Value × Value) : Except Failure (Value × Value) :=
  if entry.1 == .text "individus" then
    match entry.2 with
    | .map individuals => do
        let individuals ← individuals.mapM fun (id, individual) => do
          return (id, ← roundIndividual today individual)
        return (entry.1, Value.map individuals)
    | _ => .error (.misuse .operation)
  else .ok entry

theorem standardize_map (today : Date) (kinds : List (Value × Value)) :
    standardize today (.map kinds) = kinds.mapM (roundKind today) >>= fun kinds =>
      .ok (.map kinds) := rfl

/-- What becomes of the individuals of a request. -/
abbrev IndividualsMoved (today : Date) : Value → Value → Prop :=
  Entrywise fun _ => Entrywise (Under "date_naissance" (PeriodsMoved today))

theorem exists_roundKind (today : Date) {entry : Value × Value}
    (holds : entry.1 = .text "individus" → ∃ individuals, entry.2 = .map individuals ∧
      ∀ entry ∈ individuals, ∃ fields, entry.2 = .map fields) :
    ∃ other, roundKind today entry = .ok other ∧ other.1 = entry.1 ∧
      Under "individus" (IndividualsMoved today) entry.1 entry.2 other.2 := by
  obtain ⟨kind, content⟩ := entry
  by_cases named : kind = .text "individus"
  · subst named
    obtain ⟨individuals, same, fields⟩ := holds rfl
    cases same
    have each : ∀ individual ∈ individuals, ∃ other, (do
        return (individual.1, ← roundIndividual today individual.2) :
            Except Failure (Value × Value)) = .ok other ∧
          other.1 = individual.1 ∧
          Entrywise (Under "date_naissance" (PeriodsMoved today)) individual.2 other.2 := by
      rintro ⟨id, individual⟩ inside
      obtain ⟨entries, same⟩ := fields _ inside
      cases same
      exact ⟨_, rfl, rfl, Value.entrywise_map (under_roundField today)⟩
    obtain ⟨others, done, related⟩ := exists_mapM_forall₂ each
    refine ⟨(.text "individus", .map others), ?_, rfl, ?_⟩
    · simp only [roundKind, (Value.same_text _ _).mpr, if_true]
      rw [done]
      rfl
    · rw [Under, if_pos rfl]
      exact .map related
  · refine ⟨(kind, content), ?_, rfl, ?_⟩
    · rw [roundKind, if_neg]
      rwa [Value.same_text]
    · rw [Under, if_neg named]

theorem roundIndividual_of_moved {v w : Value}
    (moved : Entrywise (Under "date_naissance" (PeriodsMoved today)) v w) :
    roundIndividual today w = .ok w := by
  cases w with
  | map fields =>
    rw [roundIndividual_map, Value.map_eq_of_entrywise moved fun _ _ _ =>
      roundField_of_under]
  | _ => cases moved

/-- Individuals that have been gone over stay as they are. -/
theorem roundKind_of_moved {kind content moved : Value}
    (related : Under "individus" (IndividualsMoved today) kind content moved) :
    roundKind today (kind, moved) = .ok (kind, moved) := by
  by_cases named : kind = .text "individus"
  · subst named
    rw [Under, if_pos rfl] at related
    cases related with
    | map each =>
      rename_i individuals others
      have fixed : ∀ other ∈ others, (do
          return (other.1, ← roundIndividual today other.2) :
              Except Failure (Value × Value)) = .ok other := by
        refine forall_mem_of_forall₂ each ?_
        rintro individual ⟨id, other⟩ ⟨_, moved⟩
        simp only [roundIndividual_of_moved moved]
        rfl
      have done := (mapM_eq_ok_iff _ others others).mpr (List.forall₂_same.mpr fixed)
      simp only [roundKind, (Value.same_text _ _).mpr, if_true]
      rw [done]
      rfl
  · rw [roundKind, if_neg]
    rwa [Value.same_text]

/-- A request is gone over as described. -/
theorem exists_standardize (today : Date) {request : Value}
    (holds : HoldsIndividuals request) :
    ∃ moved, standardize today request = .ok moved ∧ RequestMoved today request moved := by
  obtain ⟨kinds, rfl, individuals⟩ := holds
  have each : ∀ entry ∈ kinds, ∃ other, roundKind today entry = .ok other ∧
      other.1 = entry.1 ∧ Under "individus" (IndividualsMoved today) entry.1 entry.2 other.2 := by
    rintro ⟨kind, content⟩ inside
    apply exists_roundKind
    rintro rfl
    exact individuals content inside
  obtain ⟨others, done, related⟩ := exists_mapM_forall₂ each
  refine ⟨.map others, ?_, .map related⟩
  rw [standardize_map, done]
  rfl

theorem standardize_of_moved {request moved : Value}
    (related : RequestMoved today request moved) : standardize today moved = .ok moved := by
  cases related with
  | map each =>
    rename_i kinds others
    have fixed : ∀ other ∈ others, roundKind today other = .ok other := by
      refine forall_mem_of_forall₂ each ?_
      rintro entry ⟨kind, content⟩ ⟨rfl, related⟩
      exact roundKind_of_moved related
    have done := (mapM_eq_ok_iff _ others others).mpr (List.forall₂_same.mpr fixed)
    rw [standardize_map, done]
    rfl

/-- Going over a request whose individuals are maps succeeds; it moves birth dates as
described and nothing else, and a second time it changes nothing. A birth date moves to the
1 January of the year that is its age before the current one, which has the same age unless
it lies behind the year 9999, and two birth dates meet exactly if their ages are the same.
The age is the one number of years after which the birthday has come and the next one has
not. -/
theorem standardize_exact (today : Date) :
    (∀ request, HoldsIndividuals request → ∃ moved, standardize today request = .ok moved ∧
      RequestMoved today request moved ∧ standardize today moved = .ok moved) ∧
    ∀ birth : Date,
      (∀ years : ℤ, years = birth.age today ↔
        birth.yearsLater years ≤ today.yearsLater 0 ∧
          today.yearsLater 0 < birth.yearsLater (years + 1)) ∧
      (∃ year : Nat, (year : ℤ) = today.year - birth.age today ∧
        rounded today birth = newYear year ∧
        (year ≤ 9999 → ∃ moved : Date, Date.ofIso (newYear year) = .ok moved ∧
          moved.year = year ∧ moved.month = 1 ∧
          moved.day = 1 ∧ moved.age today = birth.age today)) ∧
      ∀ other : Date, rounded today birth = rounded today other ↔
        birth.age today = other.age today := by
  refine ⟨?_, fun birth => ⟨fun years => Date.eq_age_iff birth today years, ?_, ?_⟩⟩
  · intro request holds
    obtain ⟨moved, done, related⟩ := exists_standardize today holds
    exact ⟨moved, done, related, standardize_of_moved related⟩
  · obtain ⟨year, aged, _⟩ := exists_year today birth
    refine ⟨year, aged, rounded_eq aged, fun last => ?_⟩
    obtain ⟨moved, read, same, month, day⟩ := exists_ofIso_newYear (year_bounds aged).1 last
    refine ⟨moved, read, same, month, day, ?_⟩
    rw [Date.age_of_newYear month day, same, aged]
    omega
  · intro other
    obtain ⟨year, aged, _⟩ := exists_year today birth
    obtain ⟨year', aged', _⟩ := exists_year today other
    rw [rounded_eq aged, rounded_eq aged', newYear_inj]
    omega

/-- Someone who is born on a day, someone who is not born yet, a probe for a birth date, and
a household, which has none. -/
def datedRequest (birth future : String) : Value :=
  .map [(.text "individus", .map [
      (.text "usager", .map [
        (.text "date_naissance", .map [(.text "ETERNITY", .text birth),
          (.text "2025-02", .null)]),
        (.text "nom", .map [(.text "ETERNITY", .text "2004-02-29")])]),
      (.text "enfant", .map [(.text "date_naissance",
        .map [(.text "ETERNITY", .text future)])])]),
    (.text "menages", .map [(.text "date_naissance",
      .map [(.text "ETERNITY", .text "2004-02-29")])])]

/-- On a 28 February who is born on a leap day is not yet a year older. -/
theorem standardize_exact_leap :
    let today : Date := ⟨2025, 2, 28, by decide⟩
    let birth : Date := ⟨2004, 2, 29, by decide⟩
    let request := datedRequest "2004-02-29" "9999-W52-5"
    let moved := datedRequest "2005-01-01" "10000-01-01"
    HoldsIndividuals request ∧ standardize today request = .ok moved ∧
      standardize today moved = .ok moved ∧
      2005 ≤ 9999 ∧ ∃ day : Date, Date.ofIso (newYear 2005) = .ok day ∧
        day.age today = birth.age today ∧
        birth.age today = 20 := by
  intro today birth request moved
  have holds : HoldsIndividuals request := by
    refine ⟨_, rfl, ?_⟩
    rintro content inside
    simp only [List.mem_cons, Prod.mk.injEq, Value.text.injEq, List.not_mem_nil, or_false,
      true_and, String.reduceEq, false_and] at inside
    subst inside
    refine ⟨_, rfl, ?_⟩
    simp only [List.forall_mem_cons]
    exact ⟨⟨_, rfl⟩, ⟨_, rfl⟩, by simp⟩
  obtain ⟨all, each⟩ := standardize_exact today
  obtain ⟨other, done, _, again⟩ := all request holds
  have told : (standardize today request).toOption = some moved := by decide +kernel
  rw [done] at told
  have same : other = moved := Option.some.inj told
  subst same
  obtain ⟨_, ⟨year, aged, _, read⟩, _⟩ := each birth
  have age : birth.age today = 20 := by decide
  have first : year = 2005 := by
    have same : (year : ℤ) = 2025 - 20 := by
      rw [aged, age]
      rfl
    omega
  subst first
  obtain ⟨day, text, _, _, _, same⟩ := read (by decide)
  exact ⟨holds, done, again, by decide, day, text, same, age⟩

end BirthDate

end Questionnaire
