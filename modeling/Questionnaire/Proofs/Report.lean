import Questionnaire.Proofs.Agreement
import Questionnaire.Proofs.Rounding

/-!
# What a compilation reports

A compilation reports on two builders, the strict one and the permissive one, and tells the
request of one of them, with the birth dates rounded if the options want that.
-/

namespace Questionnaire

namespace Options

/-- The request of a builder as the options want it. -/
def delivered (o : Options) (day : Date) (b : Builder) : Value :=
  if o.standardizeBirthDate.truthy then (b.rounded day).request else b.request

/-- The outcome that a strict and a permissive construction lead to. -/
def report (o : Options) (day : Date) (strict permissive : Builder) : Outcome :=
  if strict.allErrors = [] then ⟨some (o.delivered day strict), [], false⟩
  else if o.fallback.truthy then ⟨some (o.delivered day permissive), strict.allErrors, true⟩
  else ⟨none, strict.allErrors, false⟩

/-- If birth dates are standardized, builders that are the same once rounded lead to the
same outcome. -/
theorem report_congr {o : Options} (on : o.standardizeBirthDate.truthy = true) {day : Date}
    {strict permissive strict' permissive' : Builder}
    (same : strict.rounded day = strict'.rounded day)
    (same' : permissive.rounded day = permissive'.rounded day) :
    o.report day strict permissive = o.report day strict' permissive' := by
  have errors : strict.allErrors = strict'.allErrors := by
    rw [← Builder.allErrors_rounded day strict, same, Builder.allErrors_rounded]
  simp only [report, delivered, on, if_true, same, same', errors]

end Options

section Compile

variable {options : Options} {registry : Registry} {today : Date} {answers : Answers}
  {probes : List String}

/-- A permissive construction that nothing stops tells the request of its builder. -/
theorem permissiveRequest_eq_ok {periods : Periods} {permissive : Builder}
    (on : ((Builder.fresh options.permissive (.ofRegistry registry) periods).filled answers
      probes).halt = none)
    (forced : ((Builder.fresh options.permissive (.ofRegistry registry) periods).filled
      answers probes).builder.clampDefaults = .ok permissive) :
    permissiveRequest options (.ofRegistry registry) periods answers probes =
      .ok permissive.request := by
  simp only [permissiveRequest, on, forced, bind, Except.bind, pure, Except.pure]

/-- A compilation that nothing stops reports on both constructions. -/
theorem compile_eq_report {permissive : Builder}
    (on : (strictConstruction options (.ofRegistry registry) (.ofDate (options.day today))
      answers probes).halt = none)
    (built : permissiveRequest options (.ofRegistry registry) (.ofDate (options.day today))
      answers probes = .ok permissive.request) :
    compile options registry today answers probes =
      .ok (options.report (options.day today)
        (strictConstruction options (.ofRegistry registry) (.ofDate (options.day today))
          answers probes).builder
        permissive) := by
  simp only [compile, outcome, on, built, Options.report]
  generalize (strictConstruction options (.ofRegistry registry)
    (.ofDate (options.day today)) answers probes).builder =
    strict
  have delivered (b : Builder) (errors : List BuildError) (usedFallback : Bool) :
      (if options.standardizeBirthDate.truthy = true then do
          let request ← BirthDate.standardize (options.day today) b.request
          return (⟨some request, errors, usedFallback⟩ : Outcome)
        else return ⟨some b.request, errors, usedFallback⟩) =
      (.ok ⟨some (options.delivered (options.day today) b), errors, usedFallback⟩ :
        Except Failure Outcome) := by
    unfold Options.delivered
    split
    · rw [Builder.standardize_request]
      rfl
    · rfl
  rcases strict.build_cases with ⟨clean, build⟩ | ⟨errors, build⟩
  · rw [build, if_pos clean]
    exact delivered strict [] false
  · rw [build, if_neg errors]
    cases options.fallback.truthy with
    | true => exact delivered permissive strict.allErrors true
    | false => rfl

/-- A compilation stops where filling stops. -/
theorem compile_of_halt {failure : Failure}
    (halt : ((Builder.fresh options (.ofRegistry registry)
      (.ofDate (options.day today))).filled answers probes).halt = some failure) :
    compile options registry today answers probes = .error failure := by
  have strict := Builder.strictConstruction_halt halt
  simp only [compile, outcome, strict, bind, Except.bind]

/-- Otherwise it reports on the strict builder and on one whose needed values are forced. -/
theorem compile_of_filled (off : options.throwOnError.truthy = false)
    (on : ((Builder.fresh options (.ofRegistry registry)
      (.ofDate (options.day today))).filled answers probes).halt = none) :
    ∃ permissive,
      Builder.Clamped ((Builder.fresh options (.ofRegistry registry)
        (.ofDate (options.day today))).filled answers
        probes).builder permissive ∧
      compile options registry today answers probes =
        .ok (options.report (options.day today)
          (strictConstruction options (.ofRegistry registry) (.ofDate (options.day today))
            answers probes).builder
          permissive) := by
  obtain ⟨permissive, built, clamped⟩ := permissiveRequest_of_filled off on
  exact ⟨permissive, clamped, compile_eq_report (Builder.strictConstruction_made off
    on).halt built⟩

end Compile

end Questionnaire
