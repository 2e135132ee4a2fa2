import Questionnaire.Builder

/-!
# Permissive requests

When answers have errors, a request can still be built from those that can be used. The
values that the engine needs are then forced, whatever was answered.
-/

namespace Questionnaire

namespace Scholarship

def amountKey : String := "montant-bourse-lycee"

/-- Someone with a scholarship who moves to another region after school keeps it; the engine
then needs an amount that is not zero. -/
def isMissing (answers : Answers) : Bool :=
  (match Table.get? answers "boursier" with
    | some (.bool true) => true
    | _ => false)
    && (Table.get? answers "etudiant-mobilite").any (· ==
      .text "parcoursup-nouvelle-region")
    && !Table.contains answers amountKey

/-- Add the amount, if it is needed and missing. -/
def apply (answers : Answers) (b : Builder) : Stepped :=
  if isMissing answers then b.addAnswer amountKey (.int 1) else .quiet b

end Scholarship

namespace Builder

/-- Make a value the only one of its variable, in the current month. -/
def force (kind : EntityKind) (name : String) (value : Value) (b : Builder) :
    Except Failure Builder := do
  let entity ← (b.entities.get kind).replace (.text name) value b.periods.month
  return { b with entities := b.entities.set kind entity }

def forceIf (condition : Builder → Bool) (kind : EntityKind) (name : String) (value : Value)
    (b : Builder) : Except Failure Builder :=
  if condition b then b.force kind name value else .ok b

def clampDefaults (b : Builder) : Except Failure Builder := do
  let b ← b.force .individual "nationalite" (.text "FR")
  let b ← b.force .household "date_entree_logement" (.text b.periods.nextMonth)
  let b ← b.forceIf (fun b => (b.current .individual "sortie_academie").truthy)
    .individual "annee_etude" (.text "terminale")
  b.forceIf (fun b => (b.current .individual "sortie_region_academique").truthy)
    .individual "annee_etude" (.text "master_1")

/-- The builder after answers, the scholarship rule and probes. -/
def filled (b : Builder) (answers : Answers) (probes : List String) : Stepped :=
  ((b.addAnswers answers).andThen (Scholarship.apply answers)).andThen (addProbes · probes)

end Builder

namespace Options

/-- Options under which no answer stops the construction. -/
def permissive (o : Options) : Options :=
  { o with allowUndefined := .bool true, throwOnError := .bool false }

end Options

/-- The request of whatever can be used. -/
def permissiveRequest (options : Options) (resolver : Resolver) (periods : Periods)
    (answers : Answers) (probes : List String) : Except Failure Value := do
  let s := (Builder.fresh options.permissive resolver periods).filled answers probes
  match s.halt with
  | some failure => .error failure
  | none => return (← s.builder.clampDefaults).request

end Questionnaire
