import Questionnaire.Proofs.FailFast
import Questionnaire.Proofs.Verdict

/-!
# Histories of a builder

Whoever holds a builder can give it answers, ask it for variables and have the scholarship
rule and the defaults applied, in any order, any number of times and whatever came of it
before. The history of such a use lists the errors in the order in which they were recorded,
each with the builder as it was right after. An error of an entity is that of a refused
write: the cell held a value already.
-/

namespace Questionnaire

/-- A write that returns an error found a value in its cell, and left it there. -/
theorem Entity.of_write_refused {e next : Entity} {name value : Value}
    {period answerKey : String} {error : BuildError}
    (written : e.write name value period answerKey = .ok (next, some error)) :
    (e.value name period).isNull = false ∧ value.isNull = false ∧
      error = refusal name (e.value name period) value period answerKey ∧
      next = { e with errors := e.errors ++ [error] } := by
  unfold write at written
  split at written
  · cases written
  · dsimp only at written
    split at written
    · cases written
    · rename_i held
      split at written
      · cases written
      · rename_i given
        split at written
        · cases written
        · cases written
        · cases written
          exact ⟨by simpa using held, by simpa using given, rfl, rfl⟩

namespace Builder

/-- What a builder can be used for: a step, or the scholarship rule on some answers. -/
inductive Turn where
  | step (step : Step)
  | scholarship (answers : Answers)

namespace Turn

/-- The key that a turn takes for its own. The defaults take keys that nobody gave. -/
def key? : Turn → Option String
  | .step (.answer key _) => some key
  | .step (.probe key) => some key
  | .step .defaults => none
  | .scholarship _ => some Scholarship.amountKey

end Turn

def play (b : Builder) : Turn → Stepped
  | .step step => b.take step
  | .scholarship answers => Scholarship.apply answers b

/-- Turn after turn, whatever came of the ones before, with all errors that they recorded. -/
def playAll : List Turn → Builder → Stepped
  | [], b => .quiet b
  | turn :: rest, b =>
      let s := b.play turn
      let later := playAll rest s.builder
      { later with recorded := s.recorded ++ later.recorded }

/-- What a turn makes a builder do. -/
def turnPlan (b : Builder) : Turn → List Action
  | .step step => b.stepPlan step
  | .scholarship answers =>
      (Scholarship.added answers).flatMap fun entry => b.setting.answerPlan entry.1 entry.2

theorem play_eq_perform (b : Builder) (turn : Turn) :
    b.play turn = perform (b.turnPlan turn) b := by
  cases turn with
  | step step => exact take_eq_perform b step
  | scholarship answers => exact scholarship_eq_perform answers b

theorem play_setting (b : Builder) (turn : Turn) :
    (b.play turn).builder.setting = b.setting := by
  rw [play_eq_perform]
  exact perform_setting _ b

/-- What an action of a turn comes from: an answer, a probe or the defaults. -/
theorem mem_turnPlan {b : Builder} {turn : Turn} {a : Action} (h : a ∈ b.turnPlan turn) :
    (∃ key answer, turn.key? = some key ∧ a ∈ b.setting.answerPlan key answer) ∨
      (∃ key, turn = .step (.probe key) ∧ a ∈ b.setting.probePlan key) ∨
      turn = .step .defaults ∧ a ∈ b.defaultPlan := by
  cases turn with
  | step step =>
    cases step with
    | answer key answer => exact Or.inl ⟨key, answer, rfl, h⟩
    | probe key => exact Or.inr (Or.inl ⟨key, rfl, h⟩)
    | defaults => exact Or.inr (Or.inr ⟨rfl, h⟩)
  | scholarship answers =>
    obtain ⟨entry, added, planned⟩ := List.mem_flatMap.mp h
    unfold Scholarship.added at added
    split at added
    · rw [List.mem_singleton.mp added] at planned
      exact Or.inl ⟨_, _, rfl, planned⟩
    · cases added

/-- What every turn keeps is kept over all of them. -/
theorem playAll_keeps {P : Builder → Prop} (step : ∀ b turn, P b → P (b.play turn).builder)
    (turns : List Turn) {b : Builder} (h : P b) : P (playAll turns b).builder := by
  induction turns generalizing b with
  | nil => exact h
  | cons turn rest ih => exact ih (step b turn h)

/-- The errors that turns record, each with the builder right after. -/
def history : List Turn → Builder → Log
  | [], _ => []
  | turn :: rest, b => log (b.turnPlan turn) b ++ history rest (b.play turn).builder

theorem history_tells (turns : List Turn) (b : Builder) :
    (history turns b).Tells b (playAll turns b) := by
  induction turns generalizing b with
  | nil => exact Log.tells_quiet b
  | cons turn rest ih =>
    have first := log_tells (b.turnPlan turn) b
    rw [← play_eq_perform] at first
    obtain ⟨recorded, held⟩ := ih (b.play turn).builder
    constructor
    · simp only [history, playAll, List.map_append, first.recorded, recorded]
    · intro holder
      simp only [history, playAll, List.map_append, kept_append, held, first.held,
        List.append_assoc]

/-- Every entry of a history was made by one of the turns, after those before it. -/
theorem mem_history {turns : List Turn} {b : Builder} {entry : Record × Builder}
    (h : entry ∈ history turns b) :
    ∃ before turn rest, turns = before ++ turn :: rest ∧
      entry ∈ log ((playAll before b).builder.turnPlan turn)
        (playAll before b).builder := by
  induction turns generalizing b with
  | nil => cases h
  | cons turn rest ih =>
    rcases List.mem_append.mp h with here | later
    · exact ⟨[], turn, rest, rfl, here⟩
    · obtain ⟨before, other, rest, rfl, inside⟩ := ih later
      exact ⟨turn :: before, other, rest, rfl, inside⟩

theorem Log.mem_following {s : Stepped} {next : Builder → Log} {entry : Record × Builder}
    (h : entry ∈ following s next) : entry ∈ next s.builder := by
  unfold following at h
  split at h
  · cases h
  · exact h

theorem log_append (first rest : List Action) (b : Builder) :
    log (first ++ rest) b = log first b ++ Log.following (perform first b) (log rest) := by
  induction first generalizing b with
  | nil => rfl
  | cons a tail ih =>
    cases on : (b.act a).halt with
    | some failure =>
      rw [perform_cons_of_halt on]
      simp only [List.cons_append, log, Log.following, on, List.append_nil]
    | none =>
      rw [perform_cons_of_halt_none on]
      simp only [List.cons_append, log, Log.following, on, List.append_assoc] at ih ⊢
      rw [ih]

/-- The error is that of a refused write: the cell of the entity holds a value, and another
one was given. -/
structure Refused (b : Builder) (kind : EntityKind) (answerKey : String) (cell : Cell)
    (error : BuildError) : Prop where
  held : ((b.entities.get kind).value cell.name cell.period).isNull = false
  given : cell.value.isNull = false
  error : error =
    Entity.refusal cell.name ((b.entities.get kind).value cell.name cell.period) cell.value
    cell.period answerKey

/-- An error that a write records is the one that the entity returns. -/
theorem recorded_write {b : Builder} {kind : EntityKind} {answerKey : String} {cell : Cell}
    {error : BuildError}
    (recorded : error ∈ (b.act (.write kind answerKey cell)).recorded) :
    ∃ next, (b.entities.get kind).write cell.name cell.value cell.period answerKey =
      .ok (next, some error) := by
  cases written :
      (b.entities.get kind).write cell.name cell.value cell.period answerKey with
  | error failure => simp [act, Entity.call, written] at recorded
  | ok result =>
    obtain ⟨next, refused⟩ := result
    simp only [act, Entity.call, written, Option.mem_toList] at recorded
    exact ⟨next, by rw [recorded]⟩

/-- An error in a log was reported by the builder, or it is that of a write to an entity. -/
theorem mem_actLog {b : Builder} {a : Action} {entry : Record × Builder}
    (h : entry ∈ b.actLog a) :
    (entry.1.holder = none ∧ a = .report entry.1.error) ∨
      ∃ kind answerKey cell, entry.1.holder = some kind ∧ a = .write kind answerKey cell ∧
        entry.2.Refused kind answerKey cell entry.1.error := by
  obtain ⟨error, recorded, rfl⟩ := List.mem_map.mp h
  cases a with
  | report reported =>
    rw [List.mem_singleton.mp recorded]
    exact Or.inl ⟨rfl, rfl⟩
  | fail failure => cases recorded
  | write kind answerKey cell =>
    refine Or.inr ⟨kind, answerKey, cell, rfl, rfl, ?_⟩
    obtain ⟨next, written⟩ := recorded_write recorded
    obtain ⟨held, given, told, rfl⟩ := Entity.of_write_refused written
    simp only [act, Entity.call, written]
    constructor
    · simpa [Entity.value] using held
    · exact given
    · simpa [Entity.value] using told

theorem mem_log {plan : List Action} {b : Builder} {entry : Record × Builder}
    (h : entry ∈ log plan b) :
    (entry.1.holder = none ∧ .report entry.1.error ∈ plan) ∨
      ∃ kind answerKey cell, entry.1.holder = some kind ∧
        .write kind answerKey cell ∈ plan ∧
        entry.2.Refused kind answerKey cell entry.1.error := by
  induction plan generalizing b with
  | nil => cases h
  | cons a rest ih =>
    rcases List.mem_append.mp h with here | later
    · rcases mem_actLog here with ⟨own, rfl⟩ | ⟨kind, answerKey, cell, holder, rfl, refused⟩
      · exact Or.inl ⟨own, List.mem_cons_self⟩
      · exact Or.inr ⟨kind, answerKey, cell, holder, List.mem_cons_self, refused⟩
    · rcases ih (Log.mem_following later) with
        ⟨own, planned⟩ | ⟨kind, answerKey, cell, holder, planned, refused⟩
      · exact Or.inl ⟨own, List.mem_cons_of_mem _ planned⟩
      · exact Or.inr ⟨kind, answerKey, cell, holder, List.mem_cons_of_mem _ planned, refused⟩

end Builder

end Questionnaire
