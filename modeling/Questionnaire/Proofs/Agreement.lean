import Questionnaire.Proofs.StandardCells
import Questionnaire.Value.Identity

/-!
# Strict and permissive requests agree

Both constructions take the same answers and probes; what the strict one reports besides
leaves no trace in the entities. They then set the values that the engine needs in different
ways, so that requests can differ there. Under the standard registry, and without errors,
the nationality alone can differ.
-/

namespace Questionnaire

namespace Request

/-- The requests describe the same entities, with the same members, and hold the same values
but for variables of the given names. -/
structure Agree (names : EntityKind → List String) (first second : Value) : Prop where
  entities : entities first = entities second
  members : ∀ kind, ∀ field ∈ (EntityLayout.ofKind kind).memberFields, ∃ ids,
    values? first kind (.text field) = some (.list ids) ∧
      values? second kind (.text field) = some (.list ids)
  cells : ∀ kind name, (∀ s ∈ names kind, name ≠ .text s) →
    values? first kind name = values? second kind name

end Request

namespace Entity

/-- Both entities have the members of a third, and its values but for variables of the given
names. -/
theorem toValue_lookup?_congr {names : List String} {e first second : Entity}
    (h : SameBut names e first) (h' : SameBut names e second) {name : Value}
    (apart : ∀ s ∈ names, name ≠ .text s) :
    first.toValue.lookup? name = second.toValue.lookup? name := by
  rw [lookup?_toValue, lookup?_toValue, h.members, h'.members, h.values name apart,
    h'.values name apart]

/-- A value that is written if a condition holds, to a variable with this period at most, is
the only one of its variable if no error is left. -/
theorem run_whenever_of_clean {e : Entity} (total : e.refinements.Total) {name : Value}
    (hk : name.isKey = true) (self : (name == name) = true)
    (free : e.isMemberList name = false) {period : String}
    (one : ∀ cells, Table.get? e.values name = some cells → ∃ v, cells = [(period, v)])
    {condition : Bool} {v : Value} (there : v.isNull = false) {answerKey : String}
    (clean : (e.run (if condition then [.write name v period answerKey] else [])).errors = []) :
    Table.get? (e.run (if condition then [.write name v period answerKey]
      else [])).values name =
      if condition then some [(period, v)] else Table.get? e.values name := by
  cases condition with
  | false => rfl
  | true =>
    have answered :=
      returned_of_clean total (show (e.run ([] ++ .write name v period answerKey ::
        [])).errors = []
      from clean)
    simp only [if_true, run] at answered ⊢
    rcases write_cases total name v period answerKey with
      ⟨member, _⟩ | ⟨_, _, hw⟩ | ⟨_, _, _, hw⟩ | ⟨_, _, probe, _⟩
    · rw [free] at member
      cases member
    · simp only [call, hw, returned] at answered
      cases answered
    · simp only [call, hw, put, Table.get?_put_key _ _ _ hk, self, if_true]
      cases found : Table.get? e.values name with
      | none => rfl
      | some cells =>
        obtain ⟨w, rfl⟩ := one cells found
        simp [Table.put]
    · rw [there] at probe
      cases probe

/-- Errors that are not there at the end of a run were never there. -/
theorem errors_of_run {e : Entity} (total : e.refinements.Total) {calls : List Call}
    (clean : (e.run calls).errors = []) : e.errors = [] := by
  rw [run_errors total] at clean
  exact (List.append_eq_nil_iff.mp clean).1

/-- Of two such writes the last one that is made counts. -/
theorem run_whenever_twice_of_clean {e : Entity} (total : e.refinements.Total)
    {name : Value} (hk : name.isKey = true) (self : (name == name) = true)
    (hm : e.MembersOfLayout) (free : e.layout.hasMembers name = false) {period : String}
    (one : ∀ cells, Table.get? e.values name = some cells → ∃ v, cells = [(period, v)])
    {condition condition' : Bool} {v w : Value} (hv : v.isNull = false)
    (hw : w.isNull = false) {answerKey : String}
    (clean : ((e.run (if condition then [.write name v period answerKey] else [])).run
      (if condition' then [.write name w period answerKey] else [])).errors = []) :
    Table.get? ((e.run (if condition then [.write name v period answerKey] else [])).run
        (if condition' then [.write name w period answerKey] else [])).values name =
      if condition' then some [(period, w)]
      else if condition then some [(period, v)]
      else Table.get? e.values name := by
  have keeps := run_keeps total (if condition then [.write name v period answerKey] else [])
  have total' :
      (e.run (if condition then [.write name v period answerKey] else [])).refinements.Total :=
    keeps.total total
  have member : e.isMemberList name = false := (isMemberList_eq hm name).trans free
  have member' :
      (e.run (if condition then [.write name v period answerKey] else [])).isMemberList
      name = false := by
    rw [isMemberList_eq (keeps.membersOfLayout hm), keeps.layout]
    exact free
  have first :=
    run_whenever_of_clean total hk self member one hv (errors_of_run total' clean)
  have one' : ∀ cells,
      Table.get? (e.run (if condition then [.write name v period answerKey] else [])).values
        name = some cells → ∃ v, cells = [(period, v)] := by
    intro cells found
    rw [first] at found
    cases condition with
    | true => exact ⟨v, (Option.some.inj found).symm⟩
    | false => exact one cells found
  rw [run_whenever_of_clean total' hk self member' one' hw clean, first]

/-- Replacing a variable that is no list of members does not fail. -/
theorem replace_ok {e : Entity} {s : String} (free : e.isMemberList (.text s) = false)
    (v : Value) (period : String) :
    ∃ next, e.replace (.text s) v period = .ok next ∧ SameBut [s] e next ∧
      Table.get? next.values (.text s) = some [(period, v)] := by
  refine ⟨{ e with values := Table.put e.values (.text s) [(period, v)] }, ?_,
    ⟨rfl, rfl, rfl, ?_⟩, ?_⟩
  · simp only [replace, free, Bool.false_eq_true, if_false]
  · intro name apart
    exact Table.get?_put_text_of_ne _ _ (apart s List.mem_cons_self)
  · exact Table.get?_put_text_self _ _ _

end Entity

namespace Builder

/-- Builders that come from one builder by writes to some names have requests that agree on
the others. -/
theorem agree_of_sameBut {names : EntityKind → List String} {b first second : Builder}
    (hf : first.WellFormed) (hs : second.WellFormed)
    (h : ∀ kind, Entity.SameBut (names kind) (b.entities.get kind)
      (first.entities.get kind))
    (h' : ∀ kind, Entity.SameBut (names kind) (b.entities.get kind)
      (second.entities.get kind)) : Request.Agree names first.request second.request := by
  constructor
  · rw [entities_request hf, entities_request hs]
  · intro kind field inside
    have listed : Table.contains (first.entities.get kind).members field = true := by
      rw [(hf kind).2, (hf kind).1]
      simpa using inside
    obtain ⟨ids, found⟩ := Option.isSome_iff_exists.mp listed
    have found' : Table.get? (second.entities.get kind).members field = some ids := by
      rw [(h' kind).members, ← (h kind).members]
      exact found
    refine ⟨ids.map .text, ?_, ?_⟩
    · rw [values?_request hf, Entity.lookup?_toValue, Value.text?, Option.bind_some, found]
      rfl
    · rw [values?_request hs, Entity.lookup?_toValue, Value.text?, Option.bind_some, found']
      rfl
  · intro kind name apart
    rw [values?_request hf, values?_request hs]
    exact Entity.toValue_lookup?_congr (h kind) (h' kind) apart

/-- What forcing changes: if the condition holds, the value becomes the only one of its
variable. -/
structure Forced (condition : Bool) (kind : EntityKind) (name : String) (value : Value)
    (b c : Builder) : Prop where
  setting : c.setting = b.setting
  same : ∀ other, Entity.SameBut (if other = kind then [name]
    else []) (b.entities.get other) (c.entities.get other)
  held : ∀ other s, Table.get? (c.entities.get other).values (.text s) =
    if condition = true ∧ other = kind ∧ s = name then some [(b.periods.month, value)]
    else Table.get? (b.entities.get other).values (.text s)

theorem Forced.wellFormed {condition : Bool} {kind : EntityKind} {name : String}
    {value : Value} {b c : Builder} (h : Forced condition kind name value b c)
    (hb : b.WellFormed) : c.WellFormed := by
  intro other
  have keeps := (h.same other).keeps
  exact ⟨keeps.layout.trans (hb other).1, keeps.membersOfLayout (hb other).2⟩

/-- Forcing a variable does not fail. -/
theorem force_forced {b : Builder} (hb : b.WellFormed) (kind : EntityKind) {name : String}
    (free : (EntityLayout.ofKind kind).hasMembers (.text name) = false) (value : Value) :
    ∃ c, b.force kind name value = .ok c ∧ Forced true kind name value b c := by
  have free' : (b.entities.get kind).isMemberList (.text name) = false := by
    rw [Entity.isMemberList_eq (hb kind).2, (hb kind).1]
    exact free
  obtain ⟨next, replaced, same, held⟩ := Entity.replace_ok free' value b.periods.month
  refine ⟨{ b with entities := b.entities.set kind next }, ?_, rfl, ?_, ?_⟩
  · simp only [force, replaced, bind, Except.bind, pure, Except.pure]
  · intro other
    rw [PerKind.get_set]
    by_cases hk : kind = other
    · subst hk
      rw [if_pos rfl, if_pos rfl]
      exact same
    · rw [if_neg (Ne.symm hk), if_neg hk]
      exact .refl [] _
  · intro other s
    rw [PerKind.get_set]
    by_cases hk : kind = other
    · subst hk
      by_cases hs : s = name
      · subst hs
        simpa using held
      · simp only [hs, and_false, if_false, if_true]
        apply same.values (.text s)
        simpa using hs
    · have hk' : other ≠ kind := Ne.symm hk
      simp only [hk, hk', false_and, and_false, if_false]

theorem forceIf_forced {b : Builder} (hb : b.WellFormed) (condition : Builder → Bool)
    (kind : EntityKind) {name : String}
    (free : (EntityLayout.ofKind kind).hasMembers (.text name) = false) (value : Value) :
    ∃ c, b.forceIf condition kind name value = .ok c ∧
      Forced (condition b) kind name value b c := by
  unfold forceIf
  cases h : condition b with
  | true => exact force_forced hb kind free value
  | false =>
    exact ⟨b, rfl, rfl, fun other => (Entity.SameBut.refl [] _).mono (by simp), by simp⟩

/-- What forcing the values that the engine needs leaves behind. -/
structure Clamped (b c : Builder) : Prop where
  wellFormed : c.WellFormed
  same : ∀ kind, Entity.SameBut (neededNames kind) (b.entities.get kind)
    (c.entities.get kind)
  nationality : Table.get? (c.entities.get .individual).values (.text "nationalite") =
    some [(b.periods.month, .text "FR")]
  movingDate :
      Table.get? (c.entities.get .household).values (.text "date_entree_logement") =
    some [(b.periods.month, .text b.periods.nextMonth)]
  level : Table.get? (c.entities.get .individual).values (.text "annee_etude") =
    if (b.current .individual "sortie_region_academique").truthy then
      some [(b.periods.month, .text "master_1")]
    else if (b.current .individual "sortie_academie").truthy then
      some [(b.periods.month, .text "terminale")]
    else Table.get? (b.entities.get .individual).values (.text "annee_etude")

/-- Forcing the values that the engine needs does not fail. -/
theorem clampDefaults_clamped {b : Builder} (hb : b.WellFormed) :
    ∃ c, b.clampDefaults = .ok c ∧ Clamped b c := by
  have nationality := free_of_needed nationality_needed
  have movingDate := free_of_needed movingDate_needed
  have level := free_of_needed level_needed
  obtain ⟨c1, h1, f1⟩ := force_forced hb .individual nationality (.text "FR")
  have hc1 := f1.wellFormed hb
  obtain ⟨c2, h2, f2⟩ := force_forced hc1 .household movingDate (.text c1.periods.nextMonth)
  have hc2 := f2.wellFormed hc1
  obtain ⟨c3, h3, f3⟩ :=
    forceIf_forced hc2 (fun b => (b.current .individual "sortie_academie").truthy)
    .individual level (.text "terminale")
  have hc3 := f3.wellFormed hc2
  obtain ⟨c4, h4, f4⟩ := forceIf_forced hc3
    (fun b => (b.current .individual "sortie_region_academique").truthy) .individual level
    (.text "master_1")
  have done : b.clampDefaults = .ok c4 := by
    simp only [clampDefaults, h1, h2, h3, h4, bind, Except.bind]
  have month1 : c1.periods = b.periods := congrArg Setting.periods f1.setting
  have month2 : c2.periods = b.periods := (congrArg Setting.periods f2.setting).trans month1
  have month3 : c3.periods = b.periods := (congrArg Setting.periods f3.setting).trans month2
  -- forcing the level does not change whether the student moves
  have academy : c2.current .individual "sortie_academie" =
      b.current .individual "sortie_academie" := by
    simp [current, Entity.value, f2.held, f1.held, month2]
  have region : c3.current .individual "sortie_region_academique" =
      b.current .individual "sortie_region_academique" := by
    simp [current, Entity.value, f3.held, f2.held, f1.held, month3]
  refine ⟨c4, done, f4.wellFormed hc3, ?_, ?_, ?_, ?_⟩
  · intro kind
    have first :
        Entity.SameBut (neededNames kind) (b.entities.get kind) (c1.entities.get kind) :=
      (f1.same kind).mono (by cases kind <;> simp [neededNames])
    have second :
        Entity.SameBut (neededNames kind) (c1.entities.get kind) (c2.entities.get kind) :=
      (f2.same kind).mono (by cases kind <;> simp [neededNames])
    have third :
        Entity.SameBut (neededNames kind) (c2.entities.get kind) (c3.entities.get kind) :=
      (f3.same kind).mono (by cases kind <;> simp [neededNames])
    have fourth :
        Entity.SameBut (neededNames kind) (c3.entities.get kind) (c4.entities.get kind) :=
      (f4.same kind).mono (by cases kind <;> simp [neededNames])
    exact ((first.trans second).trans third).trans fourth
  · simp [f4.held, f3.held, f2.held, f1.held]
  · simp [f4.held, f3.held, f2.held, month1]
  · simp [f4.held, f3.held, f2.held, f1.held, academy, region, month2, month3]

end Builder

namespace Setting

/-- Reports aside, an answer makes a builder do the same under permissive options. -/
theorem answerPlan_permissive (s : Setting) (key : String) (answer : Value) :
    (({ s with options := s.options.permissive } : Setting).answerPlan key answer).filter
      (!·.isReport) =
      (s.answerPlan key answer).filter (!·.isReport) := by
  unfold answerPlan
  by_cases unanswered : answer.isUnanswered = true
  · rw [if_pos unanswered, if_pos unanswered]
    by_cases allowed : s.options.allowUndefined.truthy = true
    · rw [if_pos allowed]
      rfl
    · rw [if_neg allowed]
      rfl
  · rw [if_neg unanswered, if_neg unanswered]
    rfl

theorem plan_permissive (s : Setting) (answers : Answers) (probes : List String) :
    (({ s with options := s.options.permissive } : Setting).plan answers probes).filter
      (!·.isReport) =
      (s.plan answers probes).filter (!·.isReport) := by
  simp only [plan, List.filter_append, List.filter_flatMap, answerPlan_permissive]
  rfl

end Setting

namespace Builder

/-- Under permissive options a builder fills its entities as under others that do not throw. -/
theorem filled_permissive {options : Options} (off : options.throwOnError.truthy = false)
    (resolver : Resolver) (periods : Periods) (answers : Answers) (probes : List String) :
    let strict := (fresh options resolver periods).filled answers probes
    let permissive := (fresh options.permissive resolver periods).filled answers probes
    permissive.halt = strict.halt ∧ permissive.builder.entities =
      strict.builder.entities := by
  intro strict permissive
  have h := perform_eq_store (show (fresh options resolver periods).throws = false from off)
    ((fresh options resolver periods).setting.plan answers probes)
  have h' := perform_eq_store (show (fresh options.permissive resolver periods).throws =
    false from rfl)
    ((fresh options.permissive resolver periods).setting.plan answers probes)
  have same :
      store ((fresh options.permissive resolver periods).setting.plan answers probes)
      (fresh options.permissive resolver periods).entities =
        store ((fresh options resolver periods).setting.plan answers probes)
          (fresh options resolver periods).entities := by
    rw [← store_filter_reports, ← store_filter_reports (Setting.plan _ _ _)]
    congr 1
    exact Setting.plan_permissive ⟨options, resolver, periods⟩ answers probes
  simp only [strict, permissive, filled_eq_perform]
  rw [h.1, h.2, h'.1, h'.2, same]
  exact ⟨rfl, rfl⟩

theorem truthy_of_standardFilled {b : Builder} (h : b.StandardFilled) {name : String}
    (hname : name = "sortie_academie" ∨ name = "sortie_region_academique") :
    (b.current .individual name).truthy = isSet .individual name b := by
  rw [isSet]
  rcases h.mobility name hname with held | ⟨set, held⟩
  · rw [held]
    rfl
  · rw [held]
    cases set <;> rfl

/-- Without errors, the defaults leave the level of study as if it had been forced. -/
theorem level_of_clean {b : Builder} (hb : b.Calm) (filled : b.StandardFilled)
    (clean : ((b.entities.get .individual).run (b.defaultCalls .individual)).errors = []) :
    Table.get? ((b.entities.get .individual).run (b.defaultCalls .individual)).values
      (.text "annee_etude") =
      if isSet .individual "sortie_region_academique" b then
        some [(b.periods.month, .text "master_1")]
      else if isSet .individual "sortie_academie" b then
        some [(b.periods.month, .text "terminale")]
      else Table.get? (b.entities.get .individual).values (.text "annee_etude") := by
  simp only [defaultCalls, Entity.run_append] at clean ⊢
  have total := hb.total .individual
  -- the nationality comes first and leaves the level as it is
  generalize hnat : (if lacks .individual "nationalite" b then
    [.write (.text "nationalite") (.text "FR") b.periods.month "default_nationalite"] else []
      : List Entity.Call) = first at clean ⊢
  have only : Entity.WritesOnly ["nationalite"] first := by
    rw [← hnat]
    exact Entity.writesOnly_whenever (by simp) _ _ _ _
  have same := Entity.run_sameBut (b.entities.get .individual) only
  have apart : ∀ s ∈ ["nationalite"], Value.text "annee_etude" ≠ .text s := by simp
  rw [← same.values _ apart]
  have one : ∀ cells,
      Table.get? ((b.entities.get .individual).run first).values (.text "annee_etude") =
        some cells → ∃ v, cells = [(b.periods.month, v)] := by
    intro cells found
    rw [same.values _ apart] at found
    exact filled.level cells found
  have keeps := same.keeps
  refine Entity.run_whenever_twice_of_clean (keeps.total total) rfl ?_
    (keeps.membersOfLayout (hb.wellFormed _).2) ?_ one rfl rfl clean
  · exact (Value.text_same _ _).mpr rfl
  · rw [keeps.layout, (hb.wellFormed _).1]
    rfl

/-- Without errors, the defaults leave the moving date as if it had been forced. -/
theorem movingDate_of_clean {b : Builder} (hb : b.Calm) (filled : b.StandardFilled)
    (clean : ((b.entities.get .household).run (b.defaultCalls .household)).errors = []) :
    Table.get? ((b.entities.get .household).run (b.defaultCalls .household)).values
      (.text "date_entree_logement") =
        some [(b.periods.month, .text b.periods.nextMonth)] := by
  have missing : lacks .household "date_entree_logement" b = true := by
    rw [lacks, Entity.hasVariable, Table.contains, filled.date]
    rfl
  have free :
      (b.entities.get .household).isMemberList (.text "date_entree_logement") = false := by
    rw [Entity.isMemberList_eq (hb.wellFormed _).2, (hb.wellFormed _).1]
    exact free_of_needed movingDate_needed
  have one :
      ∀ cells, Table.get? (b.entities.get .household).values
        (.text "date_entree_logement") = some cells →
      ∃ v, cells = [(b.periods.month, v)] := by
    intro cells found
    rw [filled.date] at found
    cases found
  have written :=
    Entity.run_whenever_of_clean (hb.total _) rfl ((Value.text_same _ _).mpr rfl) free
      one rfl clean
  exact written.trans (if_pos missing)

/-- Forcing looks at the entities and the periods only. -/
theorem Clamped.congr {b d c : Builder} (h : Clamped b c)
    (entities : b.entities = d.entities) (periods : b.periods = d.periods) :
    Clamped d c := by
  have current (name : String) :
      b.current .individual name = d.current .individual name := by
    rw [current, current, entities, periods]
  obtain ⟨wellFormed, same, nationality, movingDate, level⟩ := h
  rw [current, current, entities, periods] at level
  rw [periods] at nationality movingDate
  rw [entities] at same
  exact ⟨wellFormed, same, nationality, movingDate, level⟩

/-- A variable whose values are held alike is read alike. -/
theorem values?_congr {first second : Builder} (hf : first.WellFormed)
    (hs : second.WellFormed) {kind : EntityKind} {name : Value}
    (free : (EntityLayout.ofKind kind).hasMembers name = false)
    (h : Table.get? (first.entities.get kind).values name =
      Table.get? (second.entities.get kind).values name) :
    Request.values? first.request kind name = Request.values? second.request kind name := by
  rw [values?_request_of_free hf free, values?_request_of_free hs free, h]

/-- If the defaults leave no error under the standard registry, forcing gives the same but
for the nationality. -/
theorem agree_of_clean {b c : Builder} {s : Stepped} (hb : b.Calm)
    (filled : b.StandardFilled) (made : Made b.defaultCalls b s) (clamped : Clamped b c)
    (clean : s.builder.allErrors = []) :
    Request.Agree (fun kind => if kind = .individual then ["nationalite"]
      else []) s.builder.request c.request := by
  have hs := (made.calm hb).wellFormed
  have general := agree_of_sameBut hs clamped.wellFormed
    (fun kind => made.sameBut (defaultCalls_only b kind)) clamped.same
  have level : Request.values? s.builder.request .individual (.text "annee_etude") =
      Request.values? c.request .individual (.text "annee_etude") := by
    refine values?_congr hs clamped.wellFormed (free_of_needed level_needed) ?_
    have cleanIndividual := (allErrors_eq_nil clean).2 .individual
    rw [made.entities] at cleanIndividual ⊢
    rw [level_of_clean hb filled cleanIndividual, clamped.level,
      truthy_of_standardFilled filled (Or.inl rfl),
      truthy_of_standardFilled filled (Or.inr rfl)]
  have movingDate :
      Request.values? s.builder.request .household (.text "date_entree_logement") =
      Request.values? c.request .household (.text "date_entree_logement") := by
    refine values?_congr hs clamped.wellFormed (free_of_needed movingDate_needed) ?_
    have cleanHousehold := (allErrors_eq_nil clean).2 .household
    rw [made.entities] at cleanHousehold ⊢
    rw [movingDate_of_clean hb filled cleanHousehold, clamped.movingDate]
  refine ⟨general.entities, general.members, ?_⟩
  intro kind name apart
  cases kind with
  | individual =>
    by_cases h : name = .text "annee_etude"
    · rw [h]
      exact level
    · apply general.cells .individual name
      simpa [neededNames, h] using apart
  | household =>
    by_cases h : name = .text "date_entree_logement"
    · rw [h]
      exact movingDate
    · apply general.cells .household name
      simpa [neededNames] using h
  | taxHousehold => exact general.cells .taxHousehold name (by simp [neededNames])
  | family => exact general.cells .family name (by simp [neededNames])

end Builder

section Permissive

variable {options : Options} {resolver : Resolver} {periods : Periods} {answers : Answers}
  {probes : List String}

/-- The permissive construction fails where filling stops. -/
theorem permissiveRequest_of_halt (off : options.throwOnError.truthy = false)
    {failure : Failure}
    (halt : ((Builder.fresh options resolver periods).filled answers probes).halt =
      some failure) :
    permissiveRequest options resolver periods answers probes = .error failure := by
  obtain ⟨halts, _⟩ := Builder.filled_permissive off resolver periods answers probes
  simp only [permissiveRequest, halts, halt]

/-- Otherwise it forces the values that the engine needs on what the strict one is filled with. -/
theorem permissiveRequest_of_filled (off : options.throwOnError.truthy = false)
    (on : ((Builder.fresh options resolver periods).filled answers probes).halt = none) :
    ∃ c, permissiveRequest options resolver periods answers probes = .ok c.request ∧
      Builder.Clamped ((Builder.fresh options resolver periods).filled answers
        probes).builder c := by
  obtain ⟨halts, entities⟩ := Builder.filled_permissive off resolver periods answers probes
  have setting := Builder.filled_setting options resolver periods answers probes
  have setting' := Builder.filled_setting options.permissive resolver periods answers probes
  have same :=
    (congrArg Setting.periods setting').trans (congrArg Setting.periods setting).symm
  have wellFormed :
      ((Builder.fresh options.permissive resolver periods).filled answers
        probes).builder.WellFormed := by
    intro kind
    rw [entities]
    exact (Builder.calm_filled off on).wellFormed kind
  obtain ⟨c, forced, clamped⟩ := Builder.clampDefaults_clamped wellFormed
  refine ⟨c, ?_, clamped.congr entities same⟩
  simp only [permissiveRequest, halts, on, forced, bind, Except.bind, pure, Except.pure]

end Permissive

/-- The permissive construction fails where the strict one does, and with the same failure.
Otherwise both requests agree on everything but the values that the engine needs, whatever
the errors; the permissive one has the nationality and the moving date that are forced; and
under the standard registry, without errors, they agree on everything but the nationality.
-/
theorem permissiveRequest_agrees (options : Options) (registry : Registry)
    (periods : Periods) (answers : Answers) (probes : List String)
    (off : options.throwOnError.truthy = false) :
    let strict := strictConstruction options (.ofRegistry registry) periods answers probes
    let permissive :=
      permissiveRequest options (.ofRegistry registry) periods answers probes
    (∀ failure, strict.halt = some failure → permissive = .error failure) ∧
      (strict.halt = none → ∃ request, permissive = .ok request ∧
        Request.Agree Builder.neededNames strict.builder.request request ∧
        Request.values? request .individual (.text "nationalite") =
          some (.map [(.text periods.month, .text "FR")]) ∧
        Request.values? request .household (.text "date_entree_logement") =
          some (.map [(.text periods.month, .text periods.nextMonth)]) ∧
        (registry = .standard → strict.builder.allErrors = [] →
          Request.Agree (fun kind => if kind = .individual then ["nationalite"] else [])
            strict.builder.request request)) := by
  intro strict permissive
  cases on :
      ((Builder.fresh options (.ofRegistry registry) periods).filled answers
        probes).halt with
  | some failure =>
    have halted : strict.halt = some failure := Builder.strictConstruction_halt on
    rw [halted]
    constructor
    · rintro failure' ⟨⟩
      exact permissiveRequest_of_halt off on
    · rintro ⟨⟩
  | none =>
    have calm := Builder.calm_filled off on
    have made := Builder.strictConstruction_made off on
    obtain ⟨c, built, clamped⟩ := permissiveRequest_of_filled off on
    have month :
        ((Builder.fresh options (.ofRegistry registry) periods).filled answers
          probes).builder.periods =
        periods :=
          congrArg Setting.periods (Builder.filled_setting options _ periods answers probes)
    have halted : strict.halt = none := made.halt
    rw [halted]
    constructor
    · rintro failure ⟨⟩
    · rintro -
      refine ⟨c.request, built, ?_, ?_, ?_, ?_⟩
      · apply Builder.agree_of_sameBut (made.calm calm).wellFormed clamped.wellFormed _
          clamped.same
        intro kind
        exact made.sameBut (Builder.defaultCalls_only _ kind)
      · have free := Builder.free_of_needed Builder.nationality_needed
        rw [Builder.values?_request_of_free clamped.wellFormed free,
          clamped.nationality, month]
        rfl
      · have free := Builder.free_of_needed Builder.movingDate_needed
        rw [Builder.values?_request_of_free clamped.wellFormed free,
          clamped.movingDate, month]
        rfl
      · intro standard clean
        subst standard
        exact Builder.agree_of_clean calm (Builder.standardFilled off on) made clamped clean

/-- A foreign student with a scholarship who moves to another region after school. -/
def movingAnswers : Answers :=
  [("nationalite", .text "DE"), ("boursier", .bool true),
    ("etudiant-mobilite", .combobox (.text "Parcoursup")
      (.text "parcoursup-nouvelle-region")),
    ("date-demenagement", .text "2025-11")]

theorem permissiveRequest_agrees_moving :
    ({} : Options).throwOnError.truthy = false ∧
      let periods : Periods := ⟨"2025-10", "2025-11", "2025", "month:2024-10:12"⟩
      let strict :=
        strictConstruction {} (.ofRegistry .standard) periods movingAnswers
          ["aide-mobilite-parcoursup"]
      strict.halt = none ∧ strict.builder.allErrors = [] ∧
      Request.values? strict.builder.request .individual (.text "nationalite") =
        some (.map [(.text "2025-10", .text "DE")]) ∧
      ∃ request,
        permissiveRequest {} (.ofRegistry .standard) periods movingAnswers
          ["aide-mobilite-parcoursup"] = .ok request ∧
        Request.Agree (fun kind => if kind = .individual then ["nationalite"]
          else []) strict.builder.request request ∧
        Request.values? request .individual (.text "nationalite") =
          some (.map [(.text "2025-10", .text "FR")]) := by
  refine ⟨rfl, ?_⟩
  intro periods strict
  have on : strict.halt = none := Option.isNone_iff_eq_none.mp (by decide +kernel)
  have clean : strict.builder.allErrors = [] := List.isEmpty_iff.mp (by decide +kernel)
  have foreign : Request.values? strict.builder.request .individual (.text "nationalite") =
      some (.map [(.text "2025-10", .text "DE")]) := by decide +kernel
  obtain ⟨request, built, _, nationality, _, agree⟩ :=
    (permissiveRequest_agrees {} .standard periods movingAnswers
      ["aide-mobilite-parcoursup"] rfl).2 on
  exact ⟨on, clean, foreign, request, built, agree rfl clean, nationality⟩

end Questionnaire
