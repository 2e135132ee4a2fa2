import Questionnaire.BirthDate
import Questionnaire.Permissive

/-!
# Compiling answers into a request

First the strict construction. If it has errors, the request is the permissive one where
that is allowed, or none. The errors are told either way.
-/

namespace Questionnaire

structure Outcome where
  request : Option Value
  errors : List BuildError
  usedFallback : Bool

namespace Outcome

def success (o : Outcome) : Bool := o.errors.isEmpty

end Outcome

def strictConstruction (options : Options) (resolver : Resolver) (periods : Periods)
    (answers : Answers) (probes : List String) : Stepped :=
  ((Builder.fresh options resolver periods).filled answers probes).andThen
  Builder.applyDefaults

/-- The outcome before birth dates are standardized. -/
def outcome (options : Options) (resolver : Resolver) (periods : Periods)
    (answers : Answers) (probes : List String) : Except Failure Outcome :=
  let s := strictConstruction options resolver periods answers probes
  match s.halt with
  | some failure => .error failure
  | none =>
      match s.builder.build with
      | .ok request => .ok ⟨some request, [], false⟩
      | .error errors =>
          if options.fallback.truthy then do
            let request ← permissiveRequest options resolver periods answers probes
            return ⟨some request, errors, true⟩
          else .ok ⟨none, errors, false⟩

/-- Compile answers and probes. `today` stands in for a missing reference date. -/
def compile (options : Options) (registry : Registry) (today : Date) (answers : Answers)
    (probes : List String) : Except Failure Outcome := do
  let day := options.day today
  let o ← outcome options (.ofRegistry registry) (.ofDate day) answers probes
  match o.request with
  | some request =>
      if options.standardizeBirthDate.truthy then
        return { o with request := some (← BirthDate.standardize day request) }
      else return o
  | none => return o

end Questionnaire
