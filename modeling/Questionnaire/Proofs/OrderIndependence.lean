import Questionnaire.Proofs.Lawful
import Questionnaire.Proofs.NestedMaps
import Questionnaire.Proofs.Steps

/-!
# The order of independent answers

Two answers are independent unless they write a common cell. A permutation of the answers
that keeps the order of any two that are not independent leads to the same outcome: the
answers of the one are those of the other with independent neighbours exchanged, the
entities that they leave hold the same, and so does all that comes after.
-/

namespace Questionnaire

namespace Table

/-- A table with distinct keys is read alike in any order. -/
theorem get?_perm {α : Type} {t t' : Table String α} (perm : t.Perm t')
    (distinct : (keys t).Nodup) (k : String) : get? t' k = get? t k := by
  induction perm with
  | nil => rfl
  | cons entry _ ih =>
    obtain ⟨key, a⟩ := entry
    have rest := (List.nodup_cons.mp distinct).2
    simp only [get?, ih rest]
  | swap entry other rest =>
    obtain ⟨key, a⟩ := entry
    obtain ⟨key', b⟩ := other
    have apart : key' ≠ key := by
      have first := (List.nodup_cons.mp distinct).1
      intro same
      exact first (by simp [same])
    by_cases here : key = k
    · subst here
      have there : (key' == key) = false := by simpa using apart
      simp [get?, there]
    · have there : (key == k) = false := by simpa using here
      simp [get?, there]
  | trans first _ ih ih' =>
    have distinct' := (first.map Prod.fst).nodup_iff.mp distinct
    exact (ih' distinct').trans (ih distinct)

end Table

namespace Scholarship

/-- Whether the scholarship rule applies does not depend on the order of the answers. -/
theorem added_perm {first second : Answers} (perm : first.Perm second)
    (distinct : (Table.keys first).Nodup) : added second = added first := by
  have missing : isMissing second = isMissing first := by
    unfold isMissing Table.contains
    rw [Table.get?_perm perm distinct, Table.get?_perm perm distinct,
      Table.get?_perm perm distinct]
  simp only [added, missing]

end Scholarship

namespace Setting

/-- Both answers write a common cell: to one variable of one kind in one period. -/
def Collide (s : Setting) (a b : String × Value) : Prop :=
  ∃ kind key cell key' cell', Action.write kind key cell ∈ s.answerPlan a.1 a.2 ∧
    Action.write kind key' cell' ∈ s.answerPlan b.1 b.2 ∧
    (cell.name == cell'.name) = true ∧ cell.period = cell'.period

/-- The calls that an answer makes to the entity of a kind. -/
def callsTo (s : Setting) (kind : EntityKind) (entry : String × Value) : List Entity.Call :=
  (s.answerPlan entry.1 entry.2).filterMap (Action.callTo kind)

theorem filterMap_callTo_plan (s : Setting) (answers : Answers) (probes : List String)
    (kind : EntityKind) :
    (s.plan answers probes).filterMap (Action.callTo kind) =
      answers.flatMap (s.callsTo kind) ++
        ((Scholarship.added answers).flatMap (s.callsTo kind) ++
        (probes.flatMap s.probePlan).filterMap (Action.callTo kind)) := by
  simp only [plan, List.filterMap_append, List.filterMap_flatMap, List.flatMap_append,
    List.append_assoc]
  rfl

/-- Independent answers make calls that do not meet. -/
theorem not_meets_of_not_collide {s : Setting} {kind : EntityKind} {a b : String × Value}
    (apart : ¬s.Collide a b) :
    ∀ c ∈ s.callsTo kind a, ∀ d ∈ s.callsTo kind b, ¬c.Meets d := by
  intro c hc d hd meets
  obtain ⟨key, cell, planned, rfl⟩ := Action.write_of_callTo hc
  obtain ⟨key', cell', planned', rfl⟩ := Action.write_of_callTo hd
  exact apart ⟨kind, key, cell, key', cell', planned, planned', meets.1, meets.2⟩

/-- Answers for different entities are independent. -/
theorem not_collide_of_callsTo {s : Setting} {a b : String × Value}
    (apart : ∀ kind, s.callsTo kind a = [] ∨ s.callsTo kind b = []) : ¬s.Collide a b := by
  rintro ⟨kind, key, cell, key', cell', planned, planned', _, _⟩
  have called (entry : String × Value) {key : String} {cell : Builder.Cell}
      (h : Action.write kind key cell ∈ s.answerPlan entry.1 entry.2) :
          s.callsTo kind entry ≠ [] := by
    apply List.ne_nil_of_mem
    exact List.mem_filterMap.mpr ⟨_, h, if_pos rfl⟩
  rcases apart kind with none | none
  · exact called a planned none
  · exact called b planned' none

section Rearranged

variable {s : Setting} {first second : Answers}

theorem plan_perm (perm : first.Perm second) (distinct : (Table.keys first).Nodup)
    (probes : List String) : (s.plan first probes).Perm (s.plan second probes) := by
  unfold plan
  rw [Scholarship.added_perm perm distinct]
  apply List.Perm.append_right
  exact (perm.append_right _).flatMap_right _

theorem calls_swaps (perm : first.Perm second) (distinct : (Table.keys first).Nodup)
    (kept : ∀ a b, s.Collide a b → [a, b].Sublist first → [a, b].Sublist second)
    (probes : List String) (kind : EntityKind) :
    Swaps (fun c d => ¬Entity.Call.Meets c d)
      ((s.plan first probes).filterMap (Action.callTo kind))
      ((s.plan second probes).filterMap (Action.callTo kind)) := by
  have answers : Swaps (fun a b => ¬s.Collide a b) first second := by
    apply Swaps.of_perm (List.Nodup.of_map Prod.fst distinct) perm
    intro a b bound ordered
    exact kept a b (not_not.mp bound) ordered
  rw [filterMap_callTo_plan, filterMap_callTo_plan, Scholarship.added_perm perm distinct]
  apply Swaps.append_right
  exact answers.flatMap fun a b apart => not_meets_of_not_collide apart

end Rearranged

/-- Under a keyed registry, every call of a plan is a write to a name that can be a key. -/
theorem keyed_of_callTo {registry : Registry} (keyed : registry.Keyed) {s : Setting}
    (resolver : s.resolver = .ofRegistry registry) {answers : Answers}
    {probes : List String} {kind : EntityKind} {c : Entity.Call}
    (h : c ∈ (s.plan answers probes).filterMap (Action.callTo kind)) : c.Keyed := by
  obtain ⟨answerKey, cell, planned, rfl⟩ := Action.write_of_callTo h
  have named : cell.name.isKey = true := by
    rcases write_mem_plan planned with
      ⟨_, _, _, _, _, expansion, means, inside⟩ | ⟨_, _, _, _, expansion, means, inside⟩
    · exact keyed.isKey resolver means inside
    · exact keyed.isKey resolver means inside
  exact ⟨cell.name, cell.value, cell.period, answerKey, rfl, named⟩

end Setting

namespace Builder

/-- The second builder holds what the first one holds, and has the same errors, perhaps in
another order. -/
structure Similar (b c : Builder) : Prop where
  setting : c.setting = b.setting
  entities : ∀ kind, (b.entities.get kind).Similar (c.entities.get kind)
  errors : c.errors.Perm b.errors

namespace Similar

variable {b c : Builder}

theorem periods (h : Similar b c) : c.periods = b.periods :=
  congrArg Setting.periods h.setting

theorem allErrors (h : Similar b c) : c.allErrors.Perm b.allErrors := by
  rw [allErrors_eq_held, allErrors_eq_held]
  apply List.Perm.flatMap_left
  intro holder _
  cases holder with
  | none => exact h.errors
  | some kind => exact (h.entities kind).errors

theorem current (h : Similar b c) (kind : EntityKind) (name : String) :
    c.current kind name = b.current kind name := by
  rw [Builder.current, Builder.current, h.periods, (h.entities kind).toAlike.value rfl]

theorem defaultCalls (h : Similar b c) (kind : EntityKind) :
    c.defaultCalls kind = b.defaultCalls kind := by
  have lacks (kind : EntityKind) (name : String) :
      lacks kind name c = lacks kind name b := by
    simp only [Builder.lacks, ((h.entities kind).holds (.text name) rfl).1]
  have isSet (name : String) : isSet .individual name c = isSet .individual name b := by
    simp only [Builder.isSet, h.current]
  cases kind <;> simp only [Builder.defaultCalls, lacks, isSet, h.periods]

end Similar

theorem keyed_of_writesOnly {names : List String} {calls : List Entity.Call}
    (only : Entity.WritesOnly names calls) : ∀ c ∈ calls, c.Keyed := by
  intro c inside
  obtain ⟨s, _, v, period, answerKey, rfl⟩ := only c inside
  exact ⟨.text s, v, period, answerKey, rfl, rfl⟩

/-- The defaults leave similar builders similar. -/
theorem Similar.made {b c : Builder} (h : Similar b c) (calm : b.Calm) {s t : Stepped}
    (first : Made b.defaultCalls b s) (second : Made c.defaultCalls c t) :
    Similar s.builder t.builder := by
  refine ⟨?_, ?_, ?_⟩
  · rw [second.setting, first.setting, h.setting]
  · intro kind
    rw [second.entities, first.entities, h.defaultCalls]
    exact (h.entities kind).run (calm.total kind)
      (keyed_of_writesOnly (defaultCalls_only b kind))
  · rw [second.errors, first.errors]
    exact h.errors

section Clamped

variable {b c first second : Builder}

/-- The year of study is forced alike in builders that hold the same. -/
theorem Similar.level_clamped (h : Similar b c) (clamped : Clamped b first)
    (clamped' : Clamped c second) :
    Entity.Matches (first.entities.get .individual) (second.entities.get .individual)
      (.text "annee_etude") := by
  have held := clamped.level
  have held' := clamped'.level
  rw [h.current, h.current, h.periods] at held'
  by_cases region : (b.current .individual "sortie_region_academique").truthy = true
  · rw [if_pos region] at held held'
    exact Entity.matches_of_get?_eq (held'.trans held.symm)
  · rw [if_neg region] at held held'
    by_cases academy : (b.current .individual "sortie_academie").truthy = true
    · rw [if_pos academy] at held held'
      exact Entity.matches_of_get?_eq (held'.trans held.symm)
    · rw [if_neg academy] at held held'
      exact ((h.entities .individual).holds _ rfl).of_get? held held'

/-- So is every value that the engine needs. -/
theorem Similar.needed_clamped (h : Similar b c) (clamped : Clamped b first)
    (clamped' : Clamped c second) (kind : EntityKind) :
    ∀ s ∈ neededNames kind, Entity.Matches (first.entities.get kind)
      (second.entities.get kind) (.text s) := by
  intro s inside
  cases kind with
  | individual =>
    simp only [neededNames, List.mem_cons, List.not_mem_nil, or_false] at inside
    rcases inside with rfl | rfl
    · apply Entity.matches_of_get?_eq
      rw [clamped.nationality, clamped'.nationality, h.periods]
    · exact h.level_clamped clamped clamped'
  | household =>
    rw [neededNames, List.mem_singleton] at inside
    subst inside
    apply Entity.matches_of_get?_eq
    rw [clamped.movingDate, clamped'.movingDate, h.periods]
  | taxHousehold => cases inside
  | family => cases inside

/-- Forcing the values that the engine needs leaves builders alike that hold the same. -/
theorem Similar.clamped (h : Similar b c) (clamped : Clamped b first)
    (clamped' : Clamped c second) (kind : EntityKind) :
    (first.entities.get kind).Alike (second.entities.get kind) := by
  have same := clamped.same kind
  have same' := clamped'.same kind
  have alike := (h.entities kind).toAlike
  refine ⟨?_, ?_, ?_, ?_⟩
  · rw [same'.layout, same.layout, alike.layout]
  · rw [same'.refinements, same.refinements, alike.refinements]
  · rw [same'.members, same.members, alike.members]
  · intro name hk
    by_cases listed : ∃ s ∈ neededNames kind, name = .text s
    · obtain ⟨s, inside, rfl⟩ := listed
      exact h.needed_clamped clamped clamped' kind s inside
    · have apart : ∀ s ∈ neededNames kind, name ≠ .text s :=
        fun s inside same => listed ⟨s, inside, same⟩
      exact (alike.holds name hk).of_get? (same.values name apart) (same'.values name apart)

end Clamped

section Rearranged

variable {options : Options} {registry : Registry} {first second : Answers}

/-- Filling stops at the same answers, whatever their order. -/
theorem filled_halt_perm (off : options.throwOnError.truthy = false)
    (perm : first.Perm second) (distinct : (Table.keys first).Nodup) (registry : Registry)
    (periods : Periods) (probes : List String) :
    ((fresh options (.ofRegistry registry) periods).filled second probes).halt = none ↔
      ((fresh options (.ofRegistry registry) periods).filled first probes).halt = none := by
  have calm := calm_fresh off (.ofRegistry registry) periods
  have rearranged :
      ((⟨options, .ofRegistry registry, periods⟩ : Setting).plan first probes).Perm
      ((⟨options, .ofRegistry registry, periods⟩ : Setting).plan second probes) :=
    Setting.plan_perm perm distinct probes
  rw [filled_eq_perform, filled_eq_perform, perform_halt_eq_none_iff calm.quiet calm.total,
    perform_halt_eq_none_iff calm.quiet calm.total]
  constructor
  · intro free failure inside
    exact free failure (rearranged.mem_iff.mp inside)
  · intro free failure inside
    exact free failure (rearranged.mem_iff.mpr inside)

/-- Filling with the answers in another order leaves a similar builder. -/
theorem similar_filled (off : options.throwOnError.truthy = false) (keyed : registry.Keyed)
    (perm : first.Perm second) (distinct : (Table.keys first).Nodup) {periods : Periods}
    {probes : List String}
    (kept : ∀ a b, (⟨options, .ofRegistry registry, periods⟩ : Setting).Collide a b →
      [a, b].Sublist first → [a, b].Sublist second)
    (on : ((fresh options (.ofRegistry registry) periods).filled first probes).halt = none) :
    Similar ((fresh options (.ofRegistry registry) periods).filled first probes).builder
      ((fresh options (.ofRegistry registry) periods).filled second probes).builder := by
  have calm := calm_fresh off (.ofRegistry registry) periods
  have on' := (filled_halt_perm off perm distinct registry periods probes).mpr on
  refine ⟨?_, ?_, ?_⟩
  · rw [filled_setting, filled_setting]
  · intro kind
    rw [filled_get off on, filled_get off on']
    apply Entity.run_swaps (Entity.total_ofKind kind)
    · intro c called
      exact Setting.keyed_of_callTo keyed rfl called
    · exact Setting.calls_swaps perm distinct kept probes kind
  · rw [filled_eq_perform] at on on' ⊢
    rw [filled_eq_perform, perform_errors calm.quiet on, perform_errors calm.quiet on']
    apply List.Perm.append_left
    exact ((Setting.plan_perm perm distinct probes).filterMap Action.reported).symm

end Rearranged

end Builder

/-- The order of independent answers is irrelevant. The second answers are the first ones in
another order, which keeps that of any two answers that write a common cell. Then both
compile or none does; if they do, both outcomes are a success or none is, both use the
permissive request or none does, the requests are equal as nested maps and the errors are
the same in some order. Under a lawful registry they do. -/
theorem compile_rearranged (options : Options) (registry : Registry) (today : Date)
    (first second : Answers) (probes : List String)
    (off : options.throwOnError.truthy = false) (keyed : registry.Keyed)
    (distinct : (Table.keys first).Nodup) (perm : first.Perm second)
    (kept : ∀ a b,
      (⟨options, .ofRegistry registry, .ofDate (options.day today)⟩ : Setting).Collide a b →
      [a, b].Sublist first → [a, b].Sublist second) :
    (∀ o, compile options registry today first probes = .ok o →
        ∃ o', compile options registry today second probes = .ok o' ∧ o.Alike o') ∧
      (∀ failure, compile options registry today first probes = .error failure →
        ∃ failure', compile options registry today second probes = .error failure') ∧
      (registry.Lawful → ∃ o, compile options registry today first probes = .ok o) := by
  have halts :=
    Builder.filled_halt_perm off perm distinct registry (.ofDate (options.day today)) probes
  cases on :
      ((Builder.fresh options (.ofRegistry registry) (.ofDate (options.day today))).filled
        first probes).halt with
  | some failure =>
    have stopped : compile options registry today first probes = .error failure :=
      compile_of_halt on
    refine ⟨?_, ?_, ?_⟩
    · intro o done
      rw [stopped] at done
      cases done
    · intro _ _
      cases on' :
          ((Builder.fresh options (.ofRegistry registry)
            (.ofDate (options.day today))).filled second
          probes).halt with
      | none =>
        rw [halts.mp on'] at on
        cases on
      | some failure' => exact ⟨failure', compile_of_halt on'⟩
    · intro lawful
      rw [lawful.filled_goes_on off] at on
      cases on
  | none =>
    have on' := halts.mpr on
    have similar := Builder.similar_filled off keyed perm distinct kept on
    have strict :=
      similar.made (Builder.calm_filled off on) (Builder.strictConstruction_made off on)
      (Builder.strictConstruction_made off on')
    obtain ⟨permissive, clamped, compiled⟩ := compile_of_filled off on
    obtain ⟨permissive', clamped', compiled'⟩ := compile_of_filled off on'
    have alike :=
      options.report_alike (options.day today) (fun kind => (strict.entities kind).toAlike)
      (similar.clamped clamped clamped') strict.allErrors
    refine ⟨?_, ?_, fun _ => ⟨_, compiled⟩⟩
    · intro o done
      rw [compiled] at done
      cases done
      exact ⟨_, compiled', alike⟩
    · intro failure done
      rw [compiled] at done
      cases done

/-- Someone who rents furnished, and an age. -/
def rentingAnswers : Answers :=
  [("situation-logement", .text "locataire"), ("type-logement", .text "logement-meuble"),
    ("age", .int 20)]

/-- The age may come first; how the home is rented must not come before that it is. -/
theorem compile_rearranged_renting :
    let today : Date := ⟨2025, 10, 1, by decide⟩
    let rearranged : Answers :=
      [("age", .int 20), ("situation-logement", .text "locataire"),
        ("type-logement", .text "logement-meuble")]
    ({} : Options).throwOnError.truthy = false ∧ Registry.standard.Keyed ∧
    (Table.keys rentingAnswers).Nodup ∧
      List.Perm rentingAnswers rearranged ∧
      ∃ o o', compile {} .standard today rentingAnswers ["locapass"] = .ok o ∧
        compile {} .standard today rearranged ["locapass"] = .ok o' ∧ o.Alike o' := by
  intro today rearranged
  have distinct : (Table.keys rentingAnswers).Nodup := by simp [rentingAnswers, Table.keys]
  have perm : List.Perm rentingAnswers rearranged :=
    ((List.Perm.swap _ _ []).cons _).trans (.swap _ _ _)
  let s : Setting := ⟨{}, .ofRegistry .standard, .ofDate today⟩
  have aged (entry : String × Value)
      (home : ∀ kind, kind ≠ .household → (s.callsTo kind entry).isEmpty = true) :
      ¬s.Collide entry ("age", .int 20) := by
    apply Setting.not_collide_of_callsTo
    intro kind
    by_cases household : kind = .household
    · right
      subst household
      exact List.isEmpty_iff.mp (by decide +kernel)
    · exact Or.inl (List.isEmpty_iff.mp (home kind household))
  have situation :=
    aged ("situation-logement", .text "locataire")
      (by intro kind; cases kind <;> decide +kernel)
  have type :=
    aged ("type-logement", .text "logement-meuble")
      (by intro kind; cases kind <;> decide +kernel)
  have kept : ∀ a b, s.Collide a b → [a, b].Sublist rentingAnswers →
      [a, b].Sublist rearranged := by
    intro a b collide ordered
    unfold rentingAnswers at ordered
    cases ordered with
    | cons_cons _ rest =>
      rcases List.mem_cons.mp (List.singleton_sublist.mp rest) with rfl | last
      · exact List.sublist_cons_self _ _
      · rw [List.mem_singleton.mp last] at collide
        exact absurd collide situation
    | cons _ rest =>
      cases rest with
      | cons_cons _ rest =>
        rw [List.mem_singleton.mp (List.singleton_sublist.mp rest)] at collide
        exact absurd collide type
      | cons _ rest =>
        have short := rest.length_le
        simp at short
  obtain ⟨compiled, _, lawful⟩ :=
    compile_rearranged {} .standard today rentingAnswers rearranged ["locapass"] rfl
      Registry.keyed_standard distinct
      perm kept
  obtain ⟨o, done⟩ := lawful Registry.lawful_standard
  obtain ⟨o', done', alike⟩ := compiled o done
  exact ⟨rfl, Registry.keyed_standard, distinct, perm, o, o', done, done', alike⟩

end Questionnaire
