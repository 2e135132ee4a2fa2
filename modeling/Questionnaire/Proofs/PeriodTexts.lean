import Mathlib.Data.List.Basic
import Questionnaire.Proofs.IsoDates
import Questionnaire.Proofs.RegistryDocuments

/-!
# What the text of a period tells

The text of a period tells its type, whatever the date: only a rolling year has a colon, of
the rest only a month has a dash and only eternity has letters. So mappings of different
period types never meet in a cell. The text of a month tells the month, so two dates have
the same periods exactly if they lie in one month. The next month and the one that starts
the rolling year are counted on beyond both ends of the calendar, where they hold no date.
-/

namespace Questionnaire

theorem Text.not_mem_padded {c : Char} (undigit : isDigit c = false) (width n : Nat) :
    c ∉ (padded width n).toList :=
  fun inside => Bool.false_ne_true (undigit.symm.trans (isDigit_of_mem_padded inside))

/-! ### Months -/

/-- A month of a year that need not be one of the calendar. -/
@[ext] structure CalendarMonth where
  year : Nat
  month : Nat
  valid : 1 ≤ month ∧ month ≤ 12

/-- The month that a date lies in. -/
def Date.calendarMonth (d : Date) : CalendarMonth := ⟨d.year, d.month, d.valid.2.1⟩

namespace CalendarMonth

variable {m n : CalendarMonth}

/-- Months are counted through the years. -/
def count (m : CalendarMonth) : Nat := 12 * m.year + m.month

def next (m : CalendarMonth) : CalendarMonth :=
  if last : m.month = 12 then ⟨m.year + 1, 1, by decide⟩
  else ⟨m.year, m.month + 1, by obtain ⟨_, _⟩ := m.valid; omega⟩

/-- The year and the number of the month. -/
def text (m : CalendarMonth) : String := Periods.monthText m.year m.month

/-- The twelve months from this one on. -/
def yearText (m : CalendarMonth) : String := "month:" ++ m.text ++ ":12"

theorem count_inj : m.count = n.count ↔ m = n := by
  refine ⟨fun same => ?_, congrArg count⟩
  obtain ⟨_, _⟩ := m.valid
  obtain ⟨_, _⟩ := n.valid
  simp only [count] at same
  exact CalendarMonth.ext (by omega) (by omega)

theorem count_next (m : CalendarMonth) : m.next.count = m.count + 1 := by
  unfold next
  split
  · simp only [count]
    omega
  · rfl

theorem toList_text (m : CalendarMonth) :
    m.text.toList = (Text.padded 4 m.year).toList ++
      '-' :: (Text.padded 2 m.month).toList := by
  simp [text, Periods.monthText]

/-- The dash tells year and month apart, for years of any length. -/
theorem text_inj : m.text = n.text ↔ m = n := by
  refine ⟨fun same => ?_, congrArg text⟩
  have undashed := Text.not_mem_padded (show Text.isDigit '-' = false by decide)
  have split := congrArg String.toList same
  rw [toList_text, toList_text, List.append_cons_inj_of_notMem (undashed _ _)
    (undashed _ _)] at split
  obtain ⟨year, _, month⟩ := split
  exact CalendarMonth.ext (Text.padded_inj.mp (String.toList_inj.mp year))
    (Text.padded_inj.mp (String.toList_inj.mp month))

theorem yearText_inj : m.yearText = n.yearText ↔ m = n := by
  rw [yearText, yearText, String.append_left_inj, String.append_right_inj, text_inj]

end CalendarMonth

namespace Periods

theorem month_ofDate (d : Date) : (ofDate d).month = d.calendarMonth.text := rfl

theorem nextMonth_ofDate (d : Date) : (ofDate d).nextMonth = d.calendarMonth.next.text := by
  by_cases last : d.month = 12 <;> simp [ofDate, CalendarMonth.next, CalendarMonth.text,
    Date.calendarMonth, last]

theorem rollingYear_ofDate {d : Date} {m : CalendarMonth} (year : m.year + 1 = d.year)
    (month : m.month = d.month) : (ofDate d).rollingYear = m.yearText := by
  rw [ofDate, CalendarMonth.yearText, CalendarMonth.text, ← year, month, Nat.add_sub_cancel]

end Periods

/-! ### Period types -/

/-- The period type that a text is of. -/
def PeriodType.ofText (text : String) : PeriodType :=
  if ':' ∈ text.toList then .rollingYear
  else if '-' ∈ text.toList then .month
  else if 'E' ∈ text.toList then .eternity
  else .year

namespace Periods

theorem ofText_resolve {d : Date} {type : PeriodType} {text : String}
    (resolved : (ofDate d).resolve type = .ok text) : PeriodType.ofText text = type := by
  have uncoloned := Text.not_mem_padded (show Text.isDigit ':' = false by decide)
  have undashed := Text.not_mem_padded (show Text.isDigit '-' = false by decide)
  have unlettered := Text.not_mem_padded (show Text.isDigit 'E' = false by decide)
  -- the numbers of a date bring in none of the characters that are looked for
  cases type with
  | eternity =>
    cases resolved
    simp [PeriodType.ofText, eternity]
  | year =>
    cases resolved
    simp [PeriodType.ofText, ofDate, uncoloned, undashed, unlettered]
  | rollingYear =>
    cases resolved
    simp [PeriodType.ofText, ofDate]
  | month =>
    cases resolved
    simp [PeriodType.ofText, ofDate, monthText, uncoloned]
  | other value => cases resolved

/-- No two period types have a text in common, even at different dates. -/
theorem resolve_inj {d e : Date} {type other : PeriodType} {text : String}
    (resolved : (ofDate d).resolve type = .ok text)
    (again : (ofDate e).resolve other = .ok text) : type = other :=
  (ofText_resolve resolved).symm.trans (ofText_resolve again)

end Periods

/-- What the dispatcher gives is recorded for the period type that it is given. -/
def Dispatcher.KeepsPeriod (d : Dispatcher) : Prop :=
  ∀ {key value type periods expansion}, d.run key value type periods = .ok expansion →
    ∀ cell ∈ Builder.cells expansion, periods.resolve type = .ok cell.period

theorem Dispatcher.keepsPeriod_ofCases (name : String)
    (cases : List (String × List (String × Value))) : (ofCases name cases).KeepsPeriod := by
  intro key value type periods expansion run cell inside
  obtain ⟨period, written, resolved, same, _⟩ := cells_ofCases run inside
  rw [same]
  exact resolved

theorem Dispatcher.keepsPeriod_standard {d : Dispatcher} (known : d ∈ standard) :
    d.KeepsPeriod := by
  simp only [standard, List.mem_cons, List.not_mem_nil, or_false] at known
  rcases known with rfl | rfl | rfl | rfl <;> exact keepsPeriod_ofCases _ _

namespace Mapping

/-- The mapping records its values for the period type. -/
inductive IsFor (type : PeriodType) : Mapping → Prop
  | direct (name : Value) : IsFor type (.direct name type)
  | dispatch {dispatcher : Dispatcher} (keeps : dispatcher.KeepsPeriod) : IsFor type
      (.dispatch dispatcher type)

/-- Some value means the cell under the mapping. -/
def Gives (periods : Periods) (mapping : Mapping) (cell : Builder.Cell) : Prop :=
  ∃ key value expansion, Builder.expand periods key value mapping = some (.ok expansion) ∧
    cell ∈ Builder.cells expansion

theorem IsFor.resolve {type : PeriodType} {mapping : Mapping} (timed : mapping.IsFor type)
    {periods : Periods} {cell : Builder.Cell} (gives : mapping.Gives periods cell) :
    periods.resolve type = .ok cell.period := by
  obtain ⟨key, value, expansion, expanded, inside⟩ := gives
  cases timed with
  | direct name =>
    obtain ⟨period, resolved, cells⟩ := Builder.expand_direct expanded
    rw [cells, List.mem_singleton] at inside
    rw [inside]
    exact resolved
  | dispatch keeps => exact keeps (Option.some.inj expanded) cell inside

end Mapping

namespace Periods

/-- Every date has four period texts, one for each type, and they differ. -/
theorem exists_texts (d : Date) :
    ∃ texts, PeriodType.named.mapM (ofDate d).resolve = .ok texts ∧ texts.Nodup := by
  have each : ∀ type ∈ PeriodType.named,
      ∃ text, (ofDate d).resolve type = .ok text ∧ type = PeriodType.ofText text := by
    intro type known
    obtain ⟨text, resolved⟩ := PeriodType.resolves_of_named known (ofDate d)
    exact ⟨text, resolved, (ofText_resolve resolved).symm⟩
  obtain ⟨texts, done, related⟩ := exists_mapM_forall₂ each
  rw [← List.forall₂_map_right_iff, List.forall₂_eq_eq_eq] at related
  refine ⟨texts, done, List.Nodup.of_map PeriodType.ofText ?_⟩
  rw [← related]
  simp [PeriodType.named]

theorem ofDate_inj {d e : Date} :
    ofDate d = ofDate e ↔ d.year = e.year ∧ d.month = e.month := by
  constructor
  · intro same
    have texts : d.calendarMonth.text = e.calendarMonth.text := congrArg Periods.month same
    have months := CalendarMonth.text_inj.mp texts
    exact ⟨congrArg CalendarMonth.year months, congrArg CalendarMonth.month months⟩
  · rintro ⟨year, month⟩
    simp only [ofDate, year, month]

/-- The next month counts one more, at the turn of the year as well. -/
theorem nextMonth_eq_iff (d : Date) (m : CalendarMonth) :
    (ofDate d).nextMonth = m.text ↔ m.count = d.calendarMonth.count + 1 := by
  rw [nextMonth_ofDate, CalendarMonth.text_inj, ← CalendarMonth.count_inj,
    CalendarMonth.count_next]
  exact eq_comm

theorem rollingYear_eq_iff (d : Date) (m : CalendarMonth) :
    (ofDate d).rollingYear = m.yearText ↔ m.year + 1 = d.year ∧ m.month = d.month := by
  refine ⟨fun same => ?_, fun ⟨year, month⟩ => rollingYear_ofDate year month⟩
  obtain ⟨⟨first, _⟩, range, _⟩ := d.valid
  -- before year 1 comes year 0, which has months and no dates
  have back : d.year - 1 + 1 = d.year := by omega
  rw [rollingYear_ofDate (m := ⟨d.year - 1, d.month, range⟩) back rfl] at same
  cases CalendarMonth.yearText_inj.mp same
  exact ⟨back, rfl⟩

/-- A date has a text for each period type, and they differ, so mappings of different types
give no cells in one period if their dispatchers keep to their type, as those of the survey
do. Dates have the same periods exactly if they share year and month. The text of the next
month is that of the month, and of all dates, one month on, and the rolling year starts in
the month of the same number a year earlier. -/
theorem ofDate_identifies (today : Date) :
    (∃ texts, PeriodType.named.mapM (ofDate today).resolve = .ok texts ∧ texts.Nodup) ∧
    (∀ (type other : PeriodType) (mapping another : Mapping),
      mapping.IsFor type → another.IsFor other → type ≠ other →
      ∀ cell met : Builder.Cell, mapping.Gives (ofDate today) cell →
        another.Gives (ofDate today) met → cell.period ≠ met.period) ∧
    (∀ dispatcher ∈ Dispatcher.standard, dispatcher.KeepsPeriod) ∧
    (∀ other : Date, ofDate other = ofDate today ↔
      other.year = today.year ∧ other.month = today.month) ∧
    (∀ m : CalendarMonth, (ofDate today).nextMonth = m.text ↔
      m.count = today.calendarMonth.count + 1) ∧
    (∀ other : Date, (ofDate today).nextMonth = (ofDate other).month ↔
      other.calendarMonth.count = today.calendarMonth.count + 1) ∧
    ∀ m : CalendarMonth, (ofDate today).rollingYear = m.yearText ↔
      m.year + 1 = today.year ∧ m.month = today.month := by
  refine ⟨exists_texts today, ?_, fun _ => Dispatcher.keepsPeriod_standard, fun _ => ofDate_inj,
    nextMonth_eq_iff today, fun other => ?_, rollingYear_eq_iff today⟩
  · intro type other mapping another timed timed' apart cell met gives gives' same
    have resolved := timed.resolve gives
    rw [same] at resolved
    exact apart (resolve_inj resolved (timed'.resolve gives'))
  · rw [month_ofDate]
    exact nextMonth_eq_iff today other.calendarMonth

/-- After the last day of the calendar comes a month without dates, and it has its text. -/
theorem ofDate_identifies_lastDay :
    let today : Date := ⟨9999, 12, 31, by decide⟩
    let housing := Mapping.dispatch .housingSituation .month
    let birth := Mapping.direct (.text "date_naissance") .eternity
    let housed : Builder.Cell :=
      ⟨.text "statut_occupation_logement", "9999-12", .text "proprietaire"⟩
    let born : Builder.Cell := ⟨.text "date_naissance", "ETERNITY", .text "2004-02-29"⟩
    (housing.IsFor .month ∧ birth.IsFor .eternity ∧ housing.Gives (ofDate today) housed ∧
      birth.Gives (ofDate today) born ∧ housed.period ≠ born.period) ∧
    (ofDate today).nextMonth = (⟨10000, 1, by decide⟩ : CalendarMonth).text ∧
    (ofDate today).rollingYear = (⟨9998, 12, by decide⟩ : CalendarMonth).yearText := by
  intro today housing birth housed born
  obtain ⟨_, apart, keeps, _, next, _, rolling⟩ := ofDate_identifies today
  have timed : housing.IsFor .month := .dispatch (keeps _ (by simp [Dispatcher.standard]))
  have month : (ofDate today).month = "9999-12" := by decide +kernel
  have gives : housing.Gives (ofDate today) housed :=
    ⟨"logement", .text "proprietaire", _, rfl, by simp [Builder.cells, month, housed]⟩
  have gives' : birth.Gives (ofDate today) born :=
    ⟨"date-naissance", .text "2004-02-29", _, rfl, by simp [Builder.cells, eternity, born]⟩
  refine ⟨⟨timed, .direct _, gives, gives', ?_⟩, (next _).mpr rfl,
    (rolling _).mpr ⟨rfl, rfl⟩⟩
  exact apart .month .eternity housing birth timed (.direct _) (by simp) housed born gives gives'

end Periods

end Questionnaire
