import Questionnaire.Proofs.Plan
import Questionnaire.Proofs.Reading
import Questionnaire.Registry.Standard
import Questionnaire.Value.Identity

/-!
# Questions without an answer

An entry without an answer makes a builder do nothing, if that is allowed. The scholarship
rule alone looks at the entries themselves: an amount without an answer keeps it from adding
one. So entries without an answer can be left out, unless the amount is among them and would
be added.
-/

namespace Questionnaire

namespace Table

/-- What is left of a table by its values is found where it was. -/
theorem get?_filter {κ α : Type} [BEq κ] [LawfulBEq κ] {t : Table κ α}
    (distinct : (keys t).Nodup) (p : α → Bool) (k : κ) :
    get? (t.filter fun entry => p entry.2) k = (get? t k).filter p := by
  induction t with
  | nil => rfl
  | cons entry rest ih =>
    obtain ⟨key, a⟩ := entry
    obtain ⟨alone, distinct⟩ := List.nodup_cons.mp distinct
    have tail := ih distinct
    by_cases found : key = k
    · subst found
      have missing : get? rest key = none := by
        rw [← Option.not_isSome_iff_eq_none]
        intro there
        exact alone ((contains_iff_mem_keys rest key).mp there)
      rw [missing] at tail
      cases kept : p a with
      | true => simp [get?, kept, Option.filter_some]
      | false => simpa [get?, kept, Option.filter_some] using tail
    · cases kept : p a <;> simpa [get?, kept, found] using tail

end Table

/-- What yields nothing can be left out. -/
theorem flatMap_filter_of_idle {α β : Type} {f : α → List β} {p : α → Bool} {items : List α}
    (idle : ∀ a ∈ items, p a = false → f a = []) :
    (items.filter p).flatMap f = items.flatMap f := by
  induction items with
  | nil => rfl
  | cons a rest ih =>
    have later := ih fun b inside => idle b (List.mem_cons_of_mem a inside)
    cases kept : p a with
    | true => rw [List.filter_cons_of_pos kept, List.flatMap_cons, List.flatMap_cons, later]
    | false =>
      rw [List.filter_cons_of_neg (by simp [kept]), List.flatMap_cons,
        idle a List.mem_cons_self kept, later, List.nil_append]

namespace Answers

/-- The entries with an answer. -/
def given (answers : Answers) : Answers := answers.filter fun entry => !entry.2.isUnanswered

theorem flatMap_given {α : Type} (f : String × Value → List α)
    (idle : ∀ entry : String × Value, entry.2.isUnanswered = true → f entry = [])
    (answers : Answers) : answers.given.flatMap f = answers.flatMap f :=
  flatMap_filter_of_idle fun entry _ left => idle entry (by simpa using left)

end Answers

namespace Scholarship

/-- The amount is missing among the entries with an answer as among all, unless it is there
without one. -/
theorem isMissing_given {answers : Answers} (distinct : (Table.keys answers).Nodup)
    (noticed : isMissing answers.given = true → Table.contains answers amountKey = false) :
    isMissing answers.given = isMissing answers := by
  have found (key : String) :
      Table.get? answers.given key = (Table.get? answers key).filter fun v =>
        !v.isUnanswered :=
    Table.get?_filter distinct (fun v => !v.isUnanswered) key
  have moves : (Table.get? answers.given "etudiant-mobilite").any (· ==
      .text "parcoursup-nouvelle-region") =
        (Table.get? answers "etudiant-mobilite").any (· ==
          .text "parcoursup-nouvelle-region") := by
    rw [found]
    rcases Table.get? answers "etudiant-mobilite" with _ | v
    · rfl
    · cases v <;> rfl
  cases there : Table.contains answers amountKey with
  | false =>
    have absent : Table.get? answers amountKey = none :=
      Option.isNone_iff_eq_none.mp (Option.isSome_eq_false_iff.mp there)
    have missing : Table.contains answers.given amountKey = false := by
      rw [Table.contains, found, absent]
      rfl
    rw [isMissing, isMissing, moves, missing, there, found]
    rcases Table.get? answers "boursier" with _ | v
    · rfl
    · cases v <;> rfl
  | true =>
    have told : isMissing answers = false := by simp [isMissing, there]
    rw [told, ← Bool.not_eq_true]
    intro missing
    rw [noticed missing] at there
    cases there

end Scholarship

namespace Setting

theorem answerPlan_of_unanswered {s : Setting}
    (skip : s.options.allowUndefined.truthy = true) (key : String) {answer : Value}
    (h : answer.isUnanswered = true) : s.answerPlan key answer = [] := by
  rw [answerPlan, if_pos h, if_pos skip]

theorem plan_given {s : Setting} (skip : s.options.allowUndefined.truthy = true)
    {answers : Answers} (distinct : (Table.keys answers).Nodup)
    (noticed : Scholarship.isMissing answers.given = true →
      Table.contains answers Scholarship.amountKey = false)
    (probes : List String) : s.plan answers.given probes = s.plan answers probes := by
  have added : Scholarship.added answers.given = Scholarship.added answers := by
    rw [Scholarship.added, Scholarship.added, Scholarship.isMissing_given distinct noticed]
  rw [plan, plan, added, List.flatMap_append, List.flatMap_append,
    Answers.flatMap_given _ fun entry => answerPlan_of_unanswered skip entry.1]

end Setting

/-- If missing answers are skipped, entries without an answer can be left out: the
compilation is the same. The amount of a scholarship must not be one of them where it would
be added. -/
theorem compile_given (options : Options) (skip : options.allowUndefined.truthy = true)
    (registry : Registry) (today : Date) (answers : Answers)
    (distinct : (Table.keys answers).Nodup)
    (noticed : Scholarship.isMissing answers.given = true →
      Table.contains answers Scholarship.amountKey = false)
    (probes : List String) :
    compile options registry today answers.given probes =
      compile options registry today answers probes := by
  have filled (options : Options) (skip : options.allowUndefined.truthy = true)
      (periods : Periods) :
      (Builder.fresh options (.ofRegistry registry) periods).filled answers.given probes =
        (Builder.fresh options (.ofRegistry registry) periods).filled answers probes := by
    rw [Builder.filled_eq_perform, Builder.filled_eq_perform,
      Setting.plan_given skip distinct noticed]
  have strict (periods : Periods) :
      strictConstruction options (.ofRegistry registry) periods answers.given probes =
      strictConstruction options (.ofRegistry registry) periods answers probes := by
    rw [strictConstruction, strictConstruction, filled options skip]
  have permissive (periods : Periods) :
      permissiveRequest options (.ofRegistry registry) periods answers.given probes =
        permissiveRequest options (.ofRegistry registry) periods answers probes := by
    rw [permissiveRequest, permissiveRequest, filled options.permissive rfl]
  simp only [compile, outcome, strict, permissive]

/-- Someone with a scholarship who moves, and a nationality without an answer. -/
def unansweredNationality : Answers :=
  [("boursier", .bool true), ("nationalite", .null),
    ("etudiant-mobilite", .text "parcoursup-nouvelle-region")]

theorem compile_given_nationality :
    let today : Date := ⟨2025, 10, 15, by decide⟩
    ({} : Options).allowUndefined.truthy = true ∧ (Table.keys unansweredNationality).Nodup ∧
      Scholarship.isMissing unansweredNationality.given = true ∧
      Table.contains unansweredNationality Scholarship.amountKey = false ∧
      unansweredNationality.given ≠ unansweredNationality ∧
      compile {} .standard today unansweredNationality.given ["locapass"] =
        compile {} .standard today unansweredNationality ["locapass"] := by
  intro today
  have distinct : (Table.keys unansweredNationality).Nodup := by decide
  have absent : Table.contains unansweredNationality Scholarship.amountKey = false := by decide
  refine ⟨rfl, distinct, by decide, absent, by decide, ?_⟩
  exact compile_given {} rfl .standard today unansweredNationality distinct (fun _ =>
    absent) ["locapass"]

/-- The same with the amount in place of the nationality. -/
def unansweredAmount : Answers :=
  [("boursier", .bool true), ("etudiant-mobilite", .text "parcoursup-nouvelle-region"),
    ("montant-bourse-lycee", .null)]

/-- The scholarship of a compilation, as the request gives it. -/
def scholarshipOf (compiled : Except Failure Outcome) : Option Value :=
  (compiled.toOption.bind Outcome.request).bind fun request =>
    Request.values? request .family (.text "bourse_lycee")

/-- Without an answer the amount is not left out but kept from being added. -/
theorem compile_unansweredAmount :
    let today : Date := ⟨2025, 10, 15, by decide⟩
    scholarshipOf (compile {} .standard today unansweredAmount []) = none ∧
      scholarshipOf (compile {} .standard today unansweredAmount.given []) =
        some (.map [(.text "2025-10", .int 1)]) ∧
      compile {} .standard today unansweredAmount [] ≠
        compile {} .standard today unansweredAmount.given [] := by
  intro today
  have kept : scholarshipOf (compile {} .standard today unansweredAmount []) = none := by
    decide +kernel
  have added : scholarshipOf (compile {} .standard today unansweredAmount.given []) =
      some (.map [(.text "2025-10", .int 1)]) := by decide +kernel
  refine ⟨kept, added, ?_⟩
  intro same
  rw [same, added] at kept
  cases kept

end Questionnaire
