import Mathlib.Data.List.Perm.Basic
import Questionnaire.Proofs.Defaults

/-!
# Runs of a builder

A run is any sequence of answers, probes and defaults. What a step does is planned when it
begins, so the errors of a run can be told one by one, each with the builder as it is right
after. Every error is kept by one holder, the builder itself or the entity of a kind, and
each holder keeps its errors in the order in which they were recorded.
-/

namespace Questionnaire

/-- Who keeps the error that an action records: the entity that is written to, or the
builder itself. -/
def Action.holder : Action → Option EntityKind
  | .write kind _ _ => some kind
  | _ => none

namespace Builder

/-- What a builder can be told to do. -/
inductive Step where
  | answer (key : String) (answer : Value)
  | probe (key : String)
  | defaults

def take (b : Builder) : Step → Stepped
  | .answer key answer => b.addAnswer key answer
  | .probe key => b.addProbe key
  | .defaults => b.applyDefaults

/-- Step after step, as long as none stops. -/
def takeAll (steps : List Step) (b : Builder) : Stepped := Stepped.forEach take steps b

/-- What a step makes a builder do. -/
def stepPlan (b : Builder) : Step → List Action
  | .answer key answer => b.setting.answerPlan key answer
  | .probe key => b.setting.probePlan key
  | .defaults => b.defaultPlan

theorem take_eq_perform (b : Builder) (step : Step) :
    b.take step = perform (b.stepPlan step) b := by
  cases step with
  | answer key answer => exact addAnswer_eq_perform b key answer
  | probe key => exact addProbe_eq_perform b key
  | defaults => exact applyDefaults_eq_perform b

/-- An error with its holder. -/
structure Record where
  holder : Option EntityKind
  error : BuildError
  deriving DecidableEq

/-- The errors that a holder keeps. -/
def held (b : Builder) : Option EntityKind → List BuildError
  | none => b.errors
  | some kind => (b.entities.get kind).errors

/-- All holders, in the order in which their errors are told. -/
def holders : List (Option EntityKind) := none :: EntityKind.all.map some

/-- The errors among the records that a holder keeps. -/
def kept (holder : Option EntityKind) (records : List Record) : List BuildError :=
  (records.filter fun record => record.holder = holder).map Record.error

theorem allErrors_eq_held (b : Builder) : b.allErrors = holders.flatMap b.held := by
  simp [allErrors, holders, held, PerKind.toList, EntityKind.all]

theorem held_fresh (options : Options) (resolver : Resolver) (periods : Periods)
    (holder : Option EntityKind) : (fresh options resolver periods).held holder = [] := by
  cases holder with
  | none => rfl
  | some kind => cases kind <;> rfl

theorem kept_append (holder : Option EntityKind) (first rest : List Record) :
    kept holder (first ++ rest) = kept holder first ++ kept holder rest := by
  simp [kept]

/-- Every error has one holder, so telling the errors by holder tells each of them once. -/
theorem holders_kept_perm (records : List Record) :
    (holders.flatMap fun holder => kept holder records).Perm
      (records.map Record.error) := by
  induction records with
  | nil => simp [kept]
  | cons record rest ih =>
    have one : (holders.flatMap fun holder => kept holder [record]) = [record.error] := by
      obtain ⟨holder, error⟩ := record
      cases holder with
      | none => rfl
      | some kind => cases kind <;> rfl
    have parts : (holders.flatMap fun holder => kept holder (record :: rest)) =
        holders.flatMap fun holder => kept holder [record] ++ kept holder rest := by
      simp only [← kept_append, List.singleton_append]
    rw [parts]
    refine (List.flatMap_append_perm holders _ _).symm.trans ?_
    rw [one]
    exact ih.cons record.error

/-- Errors in the order in which they were recorded, each with the builder right after. -/
abbrev Log : Type := List (Record × Builder)

namespace Log

/-- What comes after a step, if that did not stop. -/
def following (s : Stepped) (next : Builder → Log) : Log :=
  match s.halt with
  | some _ => []
  | none => next s.builder

/-- The log tells what a step from a builder on did: its errors are those recorded, and each
holder keeps its own behind those that it had. -/
structure Tells (l : Log) (b : Builder) (s : Stepped) : Prop where
  recorded : l.map (·.1.error) = s.recorded
  held : ∀ holder, s.builder.held holder = b.held holder ++ kept holder (l.map Prod.fst)

theorem tells_quiet (b : Builder) : Tells [] b (.quiet b) := by
  constructor
  · rfl
  · intro holder
    simp [Stepped.quiet, kept]

theorem Tells.andThen {l : Log} {b : Builder} {s : Stepped} (h : l.Tells b s)
    {next : Builder → Stepped} {later : Builder → Log}
    (h' : (later s.builder).Tells s.builder (next s.builder)) :
    Tells (l ++ following s later) b (s.andThen next) := by
  cases on : s.halt with
  | some failure =>
    rw [Stepped.andThen_of_halt on]
    simpa only [following, on, List.append_nil] using h
  | none =>
    rw [Stepped.andThen_of_halt_none on]
    constructor
    · simp only [following, on, List.map_append, h.recorded, h'.recorded]
    · intro holder
      simp only [following, on, List.map_append, kept_append, h'.held, h.held,
        List.append_assoc]

end Log

/-- The errors that an action records. -/
def actLog (b : Builder) (a : Action) : Log :=
  (b.act a).recorded.map fun error => (⟨a.holder, error⟩, (b.act a).builder)

/-- The errors that actions record, one after the other. -/
def log : List Action → Builder → Log
  | [], _ => []
  | a :: rest, b => b.actLog a ++ Log.following (b.act a) (log rest)

/-- The errors that the steps of a run record. -/
def runLog : List Step → Builder → Log
  | [], _ => []
  | step :: rest, b => log (b.stepPlan step) b ++ Log.following (b.take step) (runLog rest)

theorem actLog_tells (b : Builder) (a : Action) : (b.actLog a).Tells b (b.act a) := by
  constructor
  · simp [actLog, Function.comp_def]
  · intro holder
    cases a with
    | report error => cases holder <;> simp [actLog, act, held, kept, Action.holder]
    | fail failure => simp [actLog, act, kept]
    | write kind answerKey cell =>
      cases written :
          (b.entities.get kind).write cell.name cell.value cell.period answerKey with
      | error failure => simp [actLog, act, Entity.call, written, kept]
      | ok result =>
        obtain ⟨next, refused⟩ := result
        have errors : next.errors = (b.entities.get kind).errors ++ refused.toList := by
          rcases Entity.write_ok written with
            ⟨rfl, rfl⟩ | ⟨rfl, rfl⟩ | ⟨error, rfl, rfl⟩ <;> simp [Entity.put]
        cases holder with
        | none =>
          cases refused <;> simp [actLog, act, Entity.call, written, held, kept,
            Action.holder]
        | some other =>
          by_cases hk : kind = other
          · subst hk
            cases refused <;> simp [actLog, act, Entity.call, written, held, kept,
              Action.holder, errors]
          · cases refused <;>
              simp [actLog, act, Entity.call, written, held, kept, Action.holder,
                PerKind.get_set, hk]

theorem log_tells (plan : List Action) (b : Builder) :
    (log plan b).Tells b (perform plan b) := by
  induction plan generalizing b with
  | nil => exact Log.tells_quiet b
  | cons a rest ih => exact (actLog_tells b a).andThen (ih _)

/-- Builders that take every action of some sort alike take a plan of such actions alike. -/
theorem perform_related {R : Builder → Builder → Prop} {P : Action → Prop}
    (step : ∀ b c a, R b c → P a → R (b.act a).builder (c.act a).builder ∧
      (b.act a).recorded = (c.act a).recorded ∧ (b.act a).halt = (c.act a).halt)
    {b c : Builder} (h : R b c) {plan : List Action} (all : ∀ a ∈ plan, P a) :
    R (perform plan b).builder (perform plan c).builder ∧
      (log plan b).map Prod.fst = (log plan c).map Prod.fst ∧
        (perform plan b).halt = (perform plan c).halt := by
  induction plan generalizing b c with
  | nil => exact ⟨h, rfl, rfl⟩
  | cons a rest ih =>
    obtain ⟨next, recorded, halt⟩ := step b c a h (all a List.mem_cons_self)
    have first : (b.actLog a).map Prod.fst = (c.actLog a).map Prod.fst := by
      simp only [actLog, recorded, List.map_map, Function.comp_def]
    cases on : (c.act a).halt with
    | some failure =>
      rw [on] at halt
      rw [perform_cons_of_halt halt, perform_cons_of_halt on]
      simp only [log, Log.following, halt, on, List.append_nil]
      exact ⟨next, first, trivial⟩
    | none =>
      rw [on] at halt
      obtain ⟨last, later, halts⟩ :=
        ih next fun x inside => all x (List.mem_cons_of_mem a inside)
      rw [perform_cons_of_halt_none halt, perform_cons_of_halt_none on]
      refine ⟨last, ?_, halts⟩
      simp only [log, Log.following, halt, on, List.map_append, first, later]

theorem runLog_tells (steps : List Step) (b : Builder) :
    (runLog steps b).Tells b (takeAll steps b) := by
  induction steps generalizing b with
  | nil => exact Log.tells_quiet b
  | cons step rest ih =>
    have first := log_tells (b.stepPlan step) b
    rw [← take_eq_perform] at first
    exact first.andThen (ih _)

end Builder

end Questionnaire
