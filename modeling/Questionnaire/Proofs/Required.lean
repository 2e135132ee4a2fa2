import Questionnaire.Proofs.Exactness
import Questionnaire.Proofs.Lawful
import Questionnaire.Proofs.Report

/-!
# The values that every request has

Under the standard registry a request that is returned has a moving date, and a nationality
with a value: the answer, or the one that is added where the variable is missing. A probe
makes the variable there without a value, and then nothing is added; so a strict request has
a value if the nationality is not probed or is answered as well. A permissive request has it
forced.
-/

namespace Questionnaire

namespace Refinements

/-- A cell is empty after a write only if it was before and nothing is written. -/
theorem isNull_settled (rules : Refinements) (name current written : Value) :
    (rules.settled name current written).isNull = (current.isNull && written.isNull) := by
  unfold settled
  cases empty : current.isNull with
  | true => rfl
  | false =>
    cases probe : written.isNull with
    | true => simp [empty]
    | false =>
      simp only [Bool.false_eq_true, if_false, Bool.and_false]
      split
      · exact probe
      · exact empty

theorem isNull_foldl_settled (rules : Refinements) (name current : Value)
    (written : List Value) :
    (written.foldl (rules.settled name) current).isNull = (current.isNull &&
      written.all Value.isNull) := by
  induction written generalizing current with
  | nil => simp
  | cons v rest ih =>
    rw [List.foldl_cons, ih, isNull_settled, List.all_cons, Bool.and_assoc]

end Refinements

/-- A cell that is written holds a value after the run, whether that one or another. -/
theorem Entity.isNull_value_of_write {e : Entity} (total : e.refinements.Total)
    (hm : e.MembersOfLayout) {calls : List Call} {name : Value} (hk : name.isKey = true)
    (self : (name == name) = true) (free : e.layout.hasMembers name = false) {v : Value}
    {period answerKey : String} (written : Call.write name v period answerKey ∈ calls)
    (there : v.isNull = false) : ((e.run calls).value name period).isNull = false := by
  have among : v ∈ calls.filterMap (Call.valueFor name period) :=
    List.mem_filterMap.mpr ⟨_, written, by simp [Call.valueFor, self]⟩
  have filled : (calls.filterMap (Call.valueFor name period)).all Value.isNull = false := by
    rw [List.all_eq_false]
    exact ⟨v, among, by simp [there]⟩
  rw [run_value total hm calls hk free, Refinements.isNull_foldl_settled, filled,
    Bool.and_false]

namespace Registry.Standard

theorem key_of_nationality {kind : EntityKind} {key : Value} {type : PeriodType}
    (there : (key, some (.direct (.text "nationalite") type)) ∈ standard.tables.get kind) :
    key = .text "nationalite" := by
  generalize same : (key, some (Mapping.direct (.text "nationalite") type)) = entry at there
  cases entry_of_mem there with
  | direct asked name period =>
    cases same
    have one := test_of_mem (fun key name _ => name != "nationalite" ||
      key == "nationalite") (by decide) there
    simpa using one
  | dispatched asked period known => cases same
  | excluded asked => cases same

/-- One key alone means a nationality. -/
theorem key_of_means {s : Setting} (resolver : s.resolver = .ofRegistry standard)
    {key : String} {value : Value} {kind : EntityKind} {expansion : Expansion}
    (means : s.Means key value kind expansion) {cell : Builder.Cell}
    (inside : cell ∈ Builder.cells expansion) (named : cell.name = .text "nationalite") :
    key = "nationalite" := by
  obtain ⟨mapping, found, _, expanded⟩ := means
  rw [resolver] at found
  obtain ⟨owner, stored, there, equal⟩ := mem_of_mapping? found
  cases mapping with
  | direct name type =>
    obtain ⟨period, _, cells⟩ := Builder.expand_direct expanded
    rw [cells, List.mem_singleton] at inside
    have same : name = .text "nationalite" := by
      rw [← named, inside]
    subst same
    have asked := (Value.same_text stored key).mp equal
    rw [key_of_nationality there] at asked
    exact (Value.text.inj asked).symm
  | dispatch dispatcher type =>
    simp only [Builder.expand, Option.some.injEq] at expanded
    obtain ⟨name, listed, same⟩ :=
      name_of_dispatcher (dispatcher_known there) expanded inside
    rw [named] at same
    cases same
    simp [dispatchedNames] at listed
  | excluded => cases expanded
  | other => cases expanded

end Registry.Standard

namespace Builder

section Filled

variable {options : Options} {resolver : Resolver} {periods : Periods} {answers : Answers}
  {probes : List String}

/-- A variable is there once a builder is filled if a write to it is planned. -/
theorem hasVariable_filled (off : options.throwOnError.truthy = false)
    (on : ((fresh options resolver periods).filled answers probes).halt = none)
    {kind : EntityKind} {name : String}
    (free : (EntityLayout.ofKind kind).hasMembers (.text name) = false)
    (there : (((fresh options resolver periods).filled answers probes).builder.entities.get
      kind).hasVariable (.text name) = true) :
    ∃ answerKey cell, Action.write kind answerKey cell ∈
      (⟨options, resolver, periods⟩ : Setting).plan answers probes ∧
        cell.name = .text name := by
  rw [filled_get off on, Entity.run_hasVariable (Entity.total_ofKind _)
    (Entity.membersOfLayout_ofKind _) _ rfl free]
    at there
  rcases Bool.or_eq_true_iff.mp there with start | written
  · cases start
  · obtain ⟨c, called, writes⟩ := List.any_eq_true.mp written
    obtain ⟨answerKey, cell, planned, rfl⟩ := Action.write_of_callTo called
    exact ⟨answerKey, cell, planned, (Value.same_text cell.name name).mp writes⟩

/-- Without an answer and without a probe, a builder lacks a nationality. -/
theorem lacks_nationality (off : options.throwOnError.truthy = false)
    (on : ((fresh options (.ofRegistry .standard) periods).filled answers probes).halt = none)
    (unanswered : ∀ answer, ("nationalite", answer) ∈ answers → answer.isUnanswered = true)
    (unprobed : "nationalite" ∉ probes) :
    lacks .individual "nationalite"
      ((fresh options (.ofRegistry .standard) periods).filled answers probes).builder = true := by
  rw [lacks, Bool.not_eq_true', ← Bool.not_eq_true]
  intro there
  obtain ⟨answerKey, cell, planned, named⟩ :=
    hasVariable_filled off on (free_of_needed nationality_needed) there
  rcases Setting.write_mem_plan planned with
    ⟨key, answer, given, answered, _, expansion, means, inside⟩ | ⟨_, key, probed, _,
      expansion, means, inside⟩
  · have same := Registry.Standard.key_of_means rfl means inside named
    subst same
    rcases List.mem_append.mp given with given | added
    · rw [unanswered answer given] at answered
      cases answered
    · unfold Scholarship.added at added
      split at added
      · simp [Scholarship.amountKey] at added
      · cases added
  · have same := Registry.Standard.key_of_means rfl means inside named
    subst same
    exact unprobed probed

/-- Without errors, the answer about the nationality is written. -/
theorem write_of_nationality
    (writes :
      ∀ a ∈ (⟨options, .ofRegistry .standard, periods⟩ : Setting).plan answers probes,
        a.isWrite = true)
    {answer : Value} (given : ("nationalite", answer) ∈ answers)
    (answered : answer.isUnanswered = false) :
    ∃ v, v.isNull = false ∧ Action.write .individual "nationalite" ⟨.text "nationalite",
      periods.month, v⟩ ∈
      (⟨options, .ofRegistry .standard, periods⟩ : Setting).plan answers probes := by
  have means : (⟨options, .ofRegistry .standard, periods⟩ : Setting).Means "nationalite"
      answer.unwrap .individual
        [(.text "nationalite", [(periods.month, answer.unwrap)])] :=
      ⟨.direct (.text "nationalite") .month, rfl, rfl, rfl⟩
  have part :
      ∀ a ∈ (⟨options, .ofRegistry .standard, periods⟩ : Setting).answerPlan "nationalite" answer,
      a ∈ (⟨options, .ofRegistry .standard, periods⟩ : Setting).plan answers probes :=
    fun _ => Setting.mem_plan_of_answer (List.mem_append_left _ given)
  have planned :=
    Setting.write_of_answer (fun a planned => writes a (part a planned)) answered means
    List.mem_cons_self
  obtain ⟨_, scalar, _⟩ := Setting.write_mem_answerPlan planned
  exact ⟨answer.unwrap, isNull_eq_false_of_isScalar scalar, part _ planned⟩

/-- Without errors, the individual has a nationality with a value, if it is not probed or is
answered as well. -/
theorem nationality_of_clean (off : options.throwOnError.truthy = false)
    (on : ((fresh options (.ofRegistry .standard) periods).filled answers probes).halt = none)
    (clean : (strictConstruction options (.ofRegistry .standard) periods answers
      probes).builder.allErrors = [])
    (answered : "nationalite" ∈ probes → ∃ answer, ("nationalite", answer) ∈ answers ∧
      answer.isUnanswered = false) :
    (((strictConstruction options (.ofRegistry .standard) periods answers
      probes).builder.entities.get
      .individual).value (.text "nationalite") periods.month).isNull = false := by
  have self : (Value.text "nationalite" == .text "nationalite") = true :=
    (Value.text_same _ _).mpr rfl
  have free := free_of_needed nationality_needed
  have made := strictConstruction_made off on
  have built := built_of_strictConstruction off made.halt clean
  by_cases given : ∃ answer, ("nationalite", answer) ∈ answers ∧ answer.isUnanswered = false
  · obtain ⟨answer, given, there⟩ := given
    obtain ⟨v, value, planned⟩ := write_of_nationality built.writes given there
    have called : Entity.Call.write (.text "nationalite") v periods.month "nationalite" ∈
        ((⟨options, .ofRegistry .standard, periods⟩ : Setting).plan answers
          probes).filterMap
          (Action.callTo .individual) :=
      List.mem_filterMap.mpr ⟨_, planned, rfl⟩
    rw [built.entity]
    exact Entity.isNull_value_of_write (Entity.total_ofKind _)
      (Entity.membersOfLayout_ofKind _) rfl self free
      (List.mem_append_left _ called) value
  · have unanswered : ∀ answer, ("nationalite", answer) ∈ answers →
        answer.isUnanswered = true := by
      intro answer inside
      cases h : answer.isUnanswered with
      | true => rfl
      | false => exact absurd ⟨answer, inside, h⟩ given
    have missing := lacks_nationality off on unanswered fun probed =>
      given (answered probed)
    have calm := calm_filled off on
    have month :
        ((fresh options (.ofRegistry .standard) periods).filled answers
          probes).builder.periods = periods :=
      congrArg Setting.periods (filled_setting options _ periods answers probes)
    have added : Entity.Call.write (.text "nationalite") (.text "FR") periods.month
        "default_nationalite" ∈
          ((fresh options (.ofRegistry .standard) periods).filled answers
            probes).builder.defaultCalls .individual := by
      simp [defaultCalls, missing, month]
    rw [made.entities]
    refine Entity.isNull_value_of_write (calm.total _) (calm.wellFormed _).2 rfl self ?_ added rfl
    rw [(calm.wellFormed _).1]
    exact free

end Filled

theorem WellFormed.rounded {b : Builder} (h : b.WellFormed) (day : Date) :
    (b.rounded day).WellFormed := by
  intro kind
  rw [get_rounded]
  split
  · rename_i individual
    subst individual
    exact h .individual
  · exact h kind

end Builder

/-- Apart from birth dates, a request that is delivered holds what its builder does. -/
theorem Options.cell?_delivered (options : Options) (day : Date) {b : Builder}
    (h : b.WellFormed) {kind : EntityKind} {name : Value}
    (free : (EntityLayout.ofKind kind).hasMembers name = false)
    (other : name ≠ .text "date_naissance") (period : String) :
    Request.cell? (options.delivered day b) kind name period =
      (b.entities.get kind).cell? name period := by
  unfold delivered
  split
  · rw [Builder.cell?_request (h.rounded day) free, Builder.get_rounded]
    split
    · rename_i individual
      subst individual
      rw [Entity.cell?_rounded, funext (Entity.roundedValue_of_ne day other)]
      exact Option.map_id'
    · rfl
  · exact Builder.cell?_request h free period

/-- Under the standard registry a compilation has an outcome, and a request that it returns
has the next month as the moving date and some nationality, both for the current month. The
nationality of a strict request must not be probed without being answered. -/
theorem compile_required (options : Options) (off : options.throwOnError.truthy = false)
    (today : Date) (answers : Answers) (probes : List String) :
    let periods := Periods.ofDate (options.day today)
    ∃ o, compile options .standard today answers probes = .ok o ∧
      ∀ request, o.request = some request →
      Request.cell? request .household (.text "date_entree_logement") periods.month =
        some (.text periods.nextMonth) ∧
      ((o.usedFallback = false → "nationalite" ∈ probes →
          ∃ answer, ("nationalite", answer) ∈ answers ∧ answer.isUnanswered = false) →
        ∃ v, Request.cell? request .individual (.text "nationalite") periods.month =
          some v ∧ v.isNull = false) := by
  intro periods
  let day := options.day today
  have on := Registry.lawful_standard.filled_goes_on off periods answers probes
  have calm := Builder.calm_filled off on
  have made := Builder.strictConstruction_made off on
  have month :
      ((Builder.fresh options (.ofRegistry .standard) periods).filled answers
        probes).builder.periods =
      periods :=
        congrArg Setting.periods (Builder.filled_setting options _ periods answers probes)
  obtain ⟨permissive, clamped, compiled⟩ := compile_of_filled off on
  refine ⟨_, compiled, ?_⟩
  have date {b : Builder} (h : b.WellFormed) := options.cell?_delivered day h
    (Builder.free_of_needed Builder.movingDate_needed) (by simp) periods.month
  have nationality {b : Builder} (h : b.WellFormed) := options.cell?_delivered day h
    (Builder.free_of_needed Builder.nationality_needed) (by simp) periods.month
  -- the strict request has the values by default, the permissive one by force
  intro request returned
  unfold Options.report at returned ⊢
  by_cases clean :
      (strictConstruction options (.ofRegistry .standard) periods answers
        probes).builder.allErrors = []
  · have strict := (made.calm calm).wellFormed
    have household := (Builder.allErrors_eq_nil clean).2 .household
    rw [made.entities] at household
    have moving :=
      Builder.movingDate_of_clean calm (Builder.standardFilled off on) household
    rw [if_pos clean] at returned ⊢
    cases returned
    rw [date strict, nationality strict]
    refine ⟨?_, ?_⟩
    · rw [made.entities, Entity.cell?, moving, month]
      simp [Table.get?]
    · intro answered
      have there := Builder.nationality_of_clean off on clean (answered rfl)
      exact ⟨_, Builder.cell?_of_value there, there⟩
  · rw [if_neg clean] at returned
    split at returned
    · cases returned
      rw [date clamped.wellFormed, nationality clamped.wellFormed, Entity.cell?,
        Entity.cell?, clamped.movingDate, clamped.nationality, month]
      simp [Table.get?, Value.isNull]
    · cases returned

/-- Someone from Germany, the country chosen from a list. -/
def germanAnswers : Answers := [("nationalite", .combobox (.text "Allemande") (.text "DE"))]

theorem compile_required_german :
    let today : Date := ⟨2025, 10, 15, by decide⟩
    ({} : Options).throwOnError.truthy = false ∧
    "nationalite" ∈ ["nationalite", "locapass"] ∧
      (∃ answer, ("nationalite", answer) ∈ germanAnswers ∧ answer.isUnanswered = false) ∧
      ∃ o request,
        compile {} .standard today germanAnswers ["nationalite", "locapass"] = .ok o ∧
        o.request = some request ∧ o.usedFallback = false ∧
        Request.cell? request .household (.text "date_entree_logement") "2025-10" =
          some (.text "2025-11") ∧
        ∃ v, Request.cell? request .individual (.text "nationalite") "2025-10" = some v ∧
          v.isNull = false := by
  intro today
  have off : ({} : Options).throwOnError.truthy = false := rfl
  have answered :
      ∃ answer, ("nationalite", answer) ∈ germanAnswers ∧ answer.isUnanswered = false :=
    ⟨_, List.mem_singleton_self _, rfl⟩
  refine ⟨off, by simp, answered, ?_⟩
  obtain ⟨o, done, holds⟩ :=
    compile_required {} off today germanAnswers ["nationalite", "locapass"]
  have strict :
      (compile {} .standard today germanAnswers ["nationalite", "locapass"]).toOption.any
      (fun o => o.request.isSome && !o.usedFallback) = true := by decide +kernel
  rw [done] at strict
  obtain ⟨there, own⟩ := Bool.and_eq_true_iff.mp strict
  obtain ⟨request, returned⟩ := Option.isSome_iff_exists.mp there
  have month : Periods.ofDate (({} : Options).day today) =
      ⟨"2025-10", "2025-11", "2025", "month:2024-10:12"⟩ := by decide +kernel
  obtain ⟨moving, nationality⟩ := holds request returned
  rw [month] at moving nationality
  exact ⟨o, request, done, returned, by simpa using own, moving,
    nationality fun _ _ => answered⟩

/-- A probe for the nationality leaves a strict request without one. -/
theorem compile_required_probed :
    let today : Date := ⟨2025, 10, 15, by decide⟩
    ∃ o request, compile {} .standard today [] ["nationalite"] = .ok o ∧
      o.request = some request ∧ o.usedFallback = false ∧
      Request.cell? request .individual (.text "nationalite") (Periods.ofDate today).month =
        some .null := by
  intro today
  have held : ((compile {} .standard today [] ["nationalite"]).toOption.bind fun o =>
      o.request.bind fun request =>
        (Request.cell? request .individual (.text "nationalite")
          (Periods.ofDate today).month).map
          ((o.usedFallback, ·))) = some (false, .null) := by decide +kernel
  obtain ⟨o, done, rest⟩ := Option.bind_eq_some_iff.mp held
  obtain ⟨request, returned, found⟩ := Option.bind_eq_some_iff.mp rest
  obtain ⟨v, cell, same⟩ := Option.map_eq_some_iff.mp found
  cases compiled : compile {} .standard today [] ["nationalite"] with
  | error failure =>
    rw [compiled] at done
    cases done
  | ok o' =>
    rw [compiled] at done
    cases done
    obtain ⟨own, rfl⟩ := Prod.mk.inj same
    exact ⟨o, request, rfl, returned, own, cell⟩

end Questionnaire
