import Questionnaire.Proofs.Selections

/-!
# Excluded answers

An excluded key makes a builder do nothing, whatever the answer: a scalar, a list, a map or
a selection. Only a missing answer is looked at before its key is, where missing answers are
errors. So excluded answers can be left out of a compilation, unless the scholarship rule
reads them; the standard registry excludes none of the keys that it reads.
-/

namespace Questionnaire

theorem Table.get?_filter_of_kept {α : Type} {t : Table String α} {p : String × α → Bool}
    {k : String} (kept : ∀ a, p (k, a) = true) : get? (t.filter p) k = get? t k := by
  induction t with
  | nil => rfl
  | cons entry rest ih =>
    obtain ⟨key, a⟩ := entry
    by_cases here : key = k
    · subst here
      rw [List.filter_cons_of_pos (kept a)]
      simp [get?]
    · by_cases there : p (key, a) = true
      · rw [List.filter_cons_of_pos there]
        simpa [get?, here] using ih
      · rw [List.filter_cons_of_neg there]
        simpa [get?, here] using ih

namespace Scholarship

/-- The answers that the scholarship rule reads: those that it compares, and the amount. -/
def readKeys : List String := comparedKeys ++ [amountKey]

theorem isMissing_congr {answers other : Answers}
    (same : ∀ key ∈ readKeys, Table.get? answers key = Table.get? other key) :
    isMissing answers = isMissing other := by
  have holder := same "boursier" (by simp [readKeys, comparedKeys])
  have moves := same "etudiant-mobilite" (by simp [readKeys, comparedKeys])
  have amount := same amountKey (by simp [readKeys])
  simp only [isMissing, Table.contains, holder, moves, amount]

end Scholarship

/-- The answers to the key are not for the engine. -/
def Registry.excludes (r : Registry) (key : String) : Bool :=
  (r.mapping? (.text key)).any Mapping.isExcluded

/-- Under these options a builder passes over the answer: its key is excluded, and it is
there, or missing answers are skipped. -/
def Options.passesOver (o : Options) (r : Registry) (entry : String × Value) : Bool :=
  r.excludes entry.1 && (!entry.2.isUnanswered || o.allowUndefined.truthy)

/-- The answers that a builder does not pass over. -/
def Answers.relevant (answers : Answers) (o : Options) (r : Registry) : Answers :=
  answers.filter fun entry => !o.passesOver r entry

namespace Setting

theorem answerPlan_of_passesOver {o : Options} {r : Registry} (periods : Periods)
    {entry : String × Value} (passed : o.passesOver r entry = true) :
    (⟨o, .ofRegistry r, periods⟩ : Setting).answerPlan entry.1 entry.2 = [] := by
  obtain ⟨excluded, skipped⟩ := Bool.and_eq_true_iff.mp passed
  obtain ⟨mapping, found, isExcluded⟩ := (Option.any_eq_true _ _).mp excluded
  have found : (Resolver.ofRegistry r).mapping? entry.1 = some .excluded := by
    cases mapping with
    | excluded => exact found
    | _ => cases isExcluded
  by_cases unanswered : entry.2.isUnanswered = true
  · exact answerPlan_of_unanswered (by simpa [unanswered] using skipped) entry.1 unanswered
  · simp [answerPlan, scalarPlan, unanswered, found, Mapping.isExcluded]

/-- Passed over once, an answer is passed over by a permissive builder too. -/
theorem passesOver_permissive {o : Options} {r : Registry} {entry : String × Value}
    (passed : o.passesOver r entry = true) : o.permissive.passesOver r entry = true := by
  have excluded : r.excludes entry.1 = true := (Bool.and_eq_true_iff.mp passed).1
  simp [Options.passesOver, excluded, Options.permissive, Value.truthy]

/-- If the scholarship rule reads no excluded answer, the answers that are passed over can
be left out of a plan. -/
theorem plan_relevant {o o' : Options} {r : Registry}
    (read : ∀ key ∈ Scholarship.readKeys, r.excludes key = false)
    (passes : ∀ entry, o.passesOver r entry = true → o'.passesOver r entry = true)
    (periods : Periods) (answers : Answers) (probes : List String) :
    (⟨o', .ofRegistry r, periods⟩ : Setting).plan (answers.relevant o r) probes =
      (⟨o', .ofRegistry r, periods⟩ : Setting).plan answers probes := by
  have missing :
      Scholarship.isMissing (answers.relevant o r) = Scholarship.isMissing answers := by
    apply Scholarship.isMissing_congr
    intro key inside
    apply Table.get?_filter_of_kept
    intro answer
    simp [Options.passesOver, read key inside]
  have idle (entry : String × Value) (left : (!o.passesOver r entry) = false) :
      (⟨o', .ofRegistry r, periods⟩ : Setting).answerPlan entry.1 entry.2 = [] :=
    answerPlan_of_passesOver periods (passes entry (by simpa using left))
  rw [plan, plan, Scholarship.added, Scholarship.added, missing, List.flatMap_append,
    List.flatMap_append, Answers.relevant, flatMap_filter_of_idle fun entry _ => idle entry]

end Setting

/-- Under any registry that excludes none of the keys that the scholarship rule reads, the
answers that are passed over can be left out of a compilation. -/
theorem compile_of_unread {registry : Registry}
    (read : ∀ key ∈ Scholarship.readKeys, registry.excludes key = false) (options : Options)
    (today : Date) (answers : Answers) (probes : List String) :
    compile options registry today (answers.relevant options registry) probes =
      compile options registry today answers probes := by
  apply compile_congr
  intro o listed periods
  rcases List.mem_pair.mp listed with rfl | rfl
  · exact Setting.plan_relevant read (fun _ passed => passed) periods answers probes
  · exact Setting.plan_relevant read (fun _ => Setting.passesOver_permissive) periods
      answers probes

/-- Under the standard registry, excluded answers never reach the engine: without them a
compilation has the same outcome, request, errors and all. A missing answer to an excluded
key can be left out where missing answers are skipped. -/
theorem compile_relevant (options : Options) (today : Date) (answers : Answers)
    (probes : List String) :
    compile options .standard today (answers.relevant options .standard) probes =
      compile options .standard today answers probes :=
  compile_of_unread (by decide) options today answers probes

/-- A list and a moving date that serve the survey alone, a couple that is not told, and a
rent. -/
example :
    Answers.relevant
        [("type-revenus", .list [.text "salaire"]),
          ("date-demenagement", .combobox .null .null),
          ("en-couple", .null), ("loyer-montant-mensuel", .int 600)]
        { allowUndefined := .bool false } .standard =
      [("en-couple", .null), ("loyer-montant-mensuel", .int 600)] := by
  decide

end Questionnaire
