import Questionnaire.Proofs.Reading

/-!
# The values that the engine needs

Both constructions end by setting the nationality, the moving date and the level of study.
The strict one writes them, the permissive one forces them. Neither touches another variable
or a list of members.
-/

namespace Questionnaire

namespace Table

/-- A write to a text leaves what is found at any other value. -/
theorem get?_put_text_of_ne {α : Type} (t : Table Value α) {s : String} (a : α)
    {name : Value} (h : name ≠ .text s) : get? (put t (.text s) a) name = get? t name := by
  have apart : ((Value.text s == name) = true) = False := by
    simp only [Value.text_same, h]
  induction t with
  | nil => simp [put, get?, apart]
  | cons entry rest ih =>
    obtain ⟨key, b⟩ := entry
    by_cases hkey : (key == .text s) = true
    · have hs := (Value.same_text key s).mp hkey
      subst hs
      simp [put, get?, hkey, apart]
    · simp only [put, get?, hkey, Bool.false_eq_true, if_false, ih]

theorem get?_put_text_self {α : Type} (t : Table Value α) (s : String) (a : α) :
    get? (put t (.text s) a) (.text s) = some a := by
  rw [get?_put_key t (.text s) a rfl]
  simp [Value.text_same]

end Table

namespace Entity

/-- The entities differ in variables of the given names at most. -/
structure SameBut (names : List String) (e next : Entity) : Prop where
  layout : next.layout = e.layout
  refinements : next.refinements = e.refinements
  members : next.members = e.members
  values : ∀ name, (∀ s ∈ names, name ≠ .text s) →
    Table.get? next.values name = Table.get? e.values name

theorem SameBut.refl (names : List String) (e : Entity) : SameBut names e e :=
  ⟨rfl, rfl, rfl, fun _ _ => rfl⟩

theorem SameBut.trans {names : List String} {e next last : Entity}
    (h : SameBut names e next) (h' : SameBut names next last) : SameBut names e last :=
  ⟨h'.layout.trans h.layout, h'.refinements.trans h.refinements, h'.members.trans h.members,
    fun name apart => (h'.values name apart).trans (h.values name apart)⟩

theorem SameBut.mono {names more : List String} {e next : Entity} (h : SameBut names e next)
    (sub : ∀ s ∈ names, s ∈ more) : SameBut more e next :=
  ⟨h.layout, h.refinements, h.members, fun name apart => h.values name fun s hs =>
    apart s (sub s hs)⟩

theorem SameBut.value {names : List String} {e next : Entity} (h : SameBut names e next)
    {name : Value} (apart : ∀ s ∈ names, name ≠ .text s) (period : String) :
    next.value name period = e.value name period := by
  simp only [Entity.value, h.values name apart]

theorem SameBut.keeps {names : List String} {e next : Entity} (h : SameBut names e next) :
    Keeps e next :=
  ⟨h.layout, h.refinements, fun field => by rw [h.members]⟩

theorem put_sameBut (e : Entity) (s period : String) (v : Value) :
    SameBut [s] e (e.put (.text s) period v) := by
  refine ⟨rfl, rfl, rfl, ?_⟩
  intro name apart
  exact Table.get?_put_text_of_ne _ _ (apart s List.mem_cons_self)

theorem write_sameBut (e : Entity) (s : String) (v : Value) (period answerKey : String) :
    SameBut [s] e (e.call (.write (.text s) v period answerKey)).1 := by
  unfold call
  dsimp only
  split
  · rename_i next refused h
    rcases write_ok h with ⟨rfl, _⟩ | ⟨rfl, _⟩ | ⟨error, rfl, _⟩
    · exact .refl [s] _
    · exact put_sameBut e s period v
    · exact ⟨rfl, rfl, rfl, fun _ _ => rfl⟩
  · exact .refl [s] e

/-- Calls that are writes to the given names. -/
def WritesOnly (names : List String) (calls : List Call) : Prop :=
  ∀ c ∈ calls, ∃ s ∈ names, ∃ v period answerKey, c = .write (.text s) v period answerKey

theorem WritesOnly.append {names : List String} {first rest : List Call}
    (h : WritesOnly names first) (h' : WritesOnly names rest) :
    WritesOnly names (first ++ rest) := by
  intro c hc
  rcases List.mem_append.mp hc with hc | hc
  · exact h c hc
  · exact h' c hc

/-- A write to one of the names, made if a condition holds. -/
theorem writesOnly_whenever {names : List String} {name : String} (inside : name ∈ names)
    (condition : Bool) (v : Value) (period answerKey : String) :
    WritesOnly names (if condition then [.write (.text name) v period answerKey]
      else []) := by
  intro c hc
  split at hc
  · exact ⟨name, inside, v, period, answerKey, List.mem_singleton.mp hc⟩
  · cases hc

theorem run_sameBut {names : List String} (e : Entity) {calls : List Call}
    (only : WritesOnly names calls) : SameBut names e (e.run calls) := by
  induction calls generalizing e with
  | nil => exact .refl names e
  | cons c rest ih =>
    obtain ⟨s, hs, v, period, answerKey, rfl⟩ := only c List.mem_cons_self
    have first := write_sameBut e s v period answerKey
    have sub : ∀ t ∈ [s], t ∈ names := by
      intro t ht
      rw [List.mem_singleton.mp ht]
      exact hs
    exact (first.mono sub).trans (ih _ fun c hc => only c (List.mem_cons_of_mem _ hc))

theorem run_append (e : Entity) (first rest : List Call) :
    e.run (first ++ rest) = (e.run first).run rest := by
  induction first generalizing e with
  | nil => rfl
  | cons c tail ih => exact ih (e.call c).1

end Entity

namespace Builder

/-- A builder that does not throw, its entities as a fresh builder lays them out. -/
structure Calm (b : Builder) : Prop where
  quiet : b.throws = false
  standard : ∀ kind, (b.entities.get kind).refinements = .standard
  wellFormed : b.WellFormed

theorem Calm.total {b : Builder} (h : b.Calm) (kind : EntityKind) :
    (b.entities.get kind).refinements.Total := by
  rw [h.standard]
  exact Refinements.total_standard

theorem calm_fresh {options : Options} (off : options.throwOnError.truthy = false)
    (resolver : Resolver) (periods : Periods) : (fresh options resolver periods).Calm := by
  refine ⟨off, ?_, wellFormed_fresh options resolver periods⟩
  intro kind
  simp only [fresh, PerKind.get_ofFunction]
  rfl

/-- What entities keep, a calm builder keeps with them. -/
theorem Calm.of_keeps {b c : Builder} (h : b.Calm) (setting : c.setting = b.setting)
    (keeps : ∀ kind, Entity.Keeps (b.entities.get kind) (c.entities.get kind)) : c.Calm := by
  constructor
  · exact (throws_of_setting setting).trans h.quiet
  · intro kind
    rw [(keeps kind).refinements, h.standard]
  · intro kind
    obtain ⟨layout, members⟩ := h.wellFormed kind
    constructor
    · rw [(keeps kind).layout, layout]
    · exact (keeps kind).membersOfLayout members

/-- After a plan that did not stop, each entity is the run of the writes to its kind. -/
theorem perform_get {b : Builder} (h : b.Calm) {plan : List Action}
    (on : (perform plan b).halt = none) (kind : EntityKind) :
    (perform plan b).builder.entities.get kind =
      (b.entities.get kind).run (plan.filterMap (Action.callTo kind)) := by
  obtain ⟨entities, halt⟩ := perform_eq_store h.quiet plan
  rw [halt] at on
  rw [entities, store_get h.total on]

theorem calm_perform {b : Builder} (h : b.Calm) {plan : List Action}
    (on : (perform plan b).halt = none) : (perform plan b).builder.Calm := by
  apply h.of_keeps (perform_setting plan b)
  intro kind
  rw [perform_get h on]
  exact Entity.run_keeps (h.total kind) _

theorem filled_setting (options : Options) (resolver : Resolver) (periods : Periods)
    (answers : Answers) (probes : List String) :
    ((fresh options resolver periods).filled answers probes).builder.setting =
      ⟨options, resolver, periods⟩ := by
  rw [filled_eq_perform]
  exact perform_setting _ _

theorem calm_filled {options : Options} (off : options.throwOnError.truthy = false)
    {resolver : Resolver} {periods : Periods} {answers : Answers} {probes : List String}
    (on : ((fresh options resolver periods).filled answers probes).halt = none) :
    ((fresh options resolver periods).filled answers probes).builder.Calm := by
  rw [filled_eq_perform] at on ⊢
  exact calm_perform (calm_fresh off resolver periods) on

theorem filled_get {options : Options} (off : options.throwOnError.truthy = false)
    {resolver : Resolver} {periods : Periods} {answers : Answers} {probes : List String}
    (on : ((fresh options resolver periods).filled answers probes).halt = none)
    (kind : EntityKind) :
    ((fresh options resolver periods).filled answers probes).builder.entities.get kind =
      (Entity.ofKind kind).run
        (((⟨options, resolver, periods⟩ : Setting).plan answers probes).filterMap
          (Action.callTo kind)) := by
  rw [filled_eq_perform] at on ⊢
  rw [perform_get (calm_fresh off resolver periods) on]
  simp only [fresh, PerKind.get_ofFunction]
  rfl

theorem allErrors_eq_nil {b : Builder} (h : b.allErrors = []) :
    b.errors = [] ∧ ∀ kind, (b.entities.get kind).errors = [] := by
  obtain ⟨own, entities⟩ := List.append_eq_nil_iff.mp h
  refine ⟨own, ?_⟩
  intro kind
  rw [List.flatMap_eq_nil_iff] at entities
  exact entities (kind, b.entities.get kind) (List.mem_map.mpr ⟨kind, kind.mem_all, rfl⟩)

theorem build_cases (b : Builder) :
    (b.allErrors = [] ∧ b.build = .ok b.request) ∨
      (b.allErrors ≠ [] ∧ b.build = .error b.allErrors) := by
  unfold build
  by_cases h : b.allErrors = []
  · exact Or.inl ⟨h, by rw [h]; rfl⟩
  · refine Or.inr ⟨h, ?_⟩
    rw [if_neg]
    rwa [List.isEmpty_iff]

/-- The writes that set the values the engine needs, by kind. -/
def defaultCalls (b : Builder) : EntityKind → List Entity.Call
  | .individual =>
      (if lacks .individual "nationalite" b then
          [.write (.text "nationalite") (.text "FR") b.periods.month "default_nationalite"]
          else [])
        ++ (if isSet .individual "sortie_academie" b then
          [.write (.text "annee_etude") (.text "terminale") b.periods.month
            "mobility_annee_etude"] else [])
        ++ (if isSet .individual "sortie_region_academique" b then
          [.write (.text "annee_etude") (.text "master_1") b.periods.month
            "mobility_annee_etude"] else [])
  | .household =>
      if lacks .household "date_entree_logement" b then
        [.write (.text "date_entree_logement") (.text b.periods.nextMonth) b.periods.month
          "default_date_entree_logement"]
      else []
  | _ => []

/-- The names that may be set without an answer. -/
def neededNames : EntityKind → List String
  | .individual => ["nationalite", "annee_etude"]
  | .household => ["date_entree_logement"]
  | _ => []

theorem nationality_needed :
    "nationalite" ∈ neededNames .individual := by simp [neededNames]

theorem level_needed : "annee_etude" ∈ neededNames .individual := by simp [neededNames]

theorem movingDate_needed :
    "date_entree_logement" ∈ neededNames .household := by simp [neededNames]

/-- None of these names is a list of members. -/
theorem free_of_needed {kind : EntityKind} {name : String}
    (needed : name ∈ neededNames kind) :
    (EntityLayout.ofKind kind).hasMembers (.text name) = false := by
  cases kind with
  | individual => rfl
  | household =>
    simp only [neededNames, List.mem_singleton] at needed
    subst needed
    simp [EntityLayout.hasMembers, EntityLayout.ofKind, Value.text?]
  | taxHousehold => cases needed
  | family => cases needed

theorem defaultCalls_only (b : Builder) (kind : EntityKind) :
    Entity.WritesOnly (neededNames kind) (b.defaultCalls kind) := by
  cases kind with
  | individual =>
    have nationality :=
      Entity.writesOnly_whenever nationality_needed (lacks .individual "nationalite" b)
    have school :=
      Entity.writesOnly_whenever level_needed (isSet .individual "sortie_academie" b)
    have university :=
      Entity.writesOnly_whenever level_needed
        (isSet .individual "sortie_region_academique" b)
    exact ((nationality _ _ _).append (school _ _ _)).append (university _ _ _)
  | household => exact Entity.writesOnly_whenever movingDate_needed _ _ _ _
  | taxHousehold =>
    intro c hc
    cases hc
  | family =>
    intro c hc
    cases hc

/-- What a step does that only makes calls to entities and is not stopped. -/
structure Made (calls : EntityKind → List Entity.Call) (b : Builder) (s : Stepped) : Prop where
  halt : s.halt = none
  setting : s.builder.setting = b.setting
  errors : s.builder.errors = b.errors
  entities : ∀ kind, s.builder.entities.get kind = (b.entities.get kind).run (calls kind)

theorem Made.calm {calls : EntityKind → List Entity.Call} {b : Builder} {s : Stepped}
    (h : Made calls b s) (hb : b.Calm) : s.builder.Calm := by
  apply hb.of_keeps h.setting
  intro kind
  rw [h.entities]
  exact Entity.run_keeps (hb.total kind) _

theorem Made.sameBut {calls : EntityKind → List Entity.Call} {b : Builder} {s : Stepped}
    (h : Made calls b s) {kind : EntityKind}
    (only : Entity.WritesOnly (neededNames kind) (calls kind)) :
    Entity.SameBut (neededNames kind) (b.entities.get kind)
      (s.builder.entities.get kind) := by
  rw [h.entities]
  exact Entity.run_sameBut _ only

/-- The write of a text in the current month, if it is needed. -/
def writeIf (b : Builder) (needed : Bool) (kind : EntityKind) (key name text : String) :
    List Action :=
  if needed then [.write kind key ⟨.text name, b.periods.month, .text text⟩] else []

/-- What the defaults make a builder do. -/
def defaultPlan (b : Builder) : List Action :=
  b.writeIf (lacks .individual "nationalite" b) .individual "default_nationalite"
    "nationalite" "FR"
    ++ b.writeIf (lacks .household "date_entree_logement" b) .household
      "default_date_entree_logement"
      "date_entree_logement" b.periods.nextMonth
    ++ b.writeIf (isSet .individual "sortie_academie" b) .individual "mobility_annee_etude"
      "annee_etude" "terminale"
    ++ b.writeIf (isSet .individual "sortie_region_academique" b) .individual
      "mobility_annee_etude" "annee_etude"
      "master_1"

/-- The actions are writes to variables of the given names. -/
def Within (names : EntityKind → List String) (plan : List Action) : Prop :=
  ∀ a ∈ plan, ∃ kind, ∃ s ∈ names kind, ∃ answerKey period v,
    a = .write kind answerKey ⟨.text s, period, v⟩

theorem Within.append {names : EntityKind → List String} {first rest : List Action}
    (h : Within names first) (h' : Within names rest) : Within names (first ++ rest) := by
  intro a ha
  rcases List.mem_append.mp ha with ha | ha
  · exact h a ha
  · exact h' a ha

theorem Within.fail_not_mem {names : EntityKind → List String} {plan : List Action}
    (h : Within names plan) (failure : Failure) : Action.fail failure ∉ plan := by
  intro inside
  obtain ⟨_, _, _, _, _, _, same⟩ := h _ inside
  cases same

theorem within_writeIf {names : EntityKind → List String} {kind : EntityKind}
    {name : String} (inside : name ∈ names kind) (b : Builder) (needed : Bool)
    (key text : String) : Within names (b.writeIf needed kind key name text) := by
  intro a ha
  unfold writeIf at ha
  split at ha
  · exact ⟨kind, name, inside, key, b.periods.month, .text text, List.mem_singleton.mp ha⟩
  · cases ha

theorem within_defaultPlan (b : Builder) : Within neededNames b.defaultPlan :=
  (((within_writeIf nationality_needed b _ _ _).append
    (within_writeIf movingDate_needed b _ _ _)).append
    (within_writeIf level_needed b _ _ _)).append (within_writeIf level_needed b _ _ _)

theorem act_sameBut (b : Builder) (kind : EntityKind) (answerKey s period : String)
    (v : Value) (other : EntityKind) :
    Entity.SameBut (if kind = other then [s] else []) (b.entities.get other)
      ((b.act (.write kind answerKey ⟨.text s, period, v⟩)).builder.entities.get other) := by
  have written := Entity.write_sameBut (b.entities.get kind) s v period answerKey
  cases called : (b.entities.get kind).call (.write (.text s) v period answerKey) with
  | mk next reply =>
    rw [called] at written
    cases reply with
    | error failure =>
      simp only [act, called]
      exact (Entity.SameBut.refl [] _).mono (by simp)
    | ok refused =>
      simp only [act, called, PerKind.get_set]
      by_cases hk : kind = other
      · subst hk
        rw [if_pos rfl, if_pos rfl]
        exact written
      · rw [if_neg hk, if_neg hk]
        exact .refl [] _

/-- Writes to some variables leave all others as they are, whether the builder stops on the
way or not. -/
theorem perform_sameBut {names : EntityKind → List String} {plan : List Action}
    (within : Within names plan) (b : Builder) (kind : EntityKind) :
    Entity.SameBut (names kind) (b.entities.get kind)
      ((perform plan b).builder.entities.get kind) := by
  induction plan generalizing b with
  | nil => exact .refl _ _
  | cons a rest ih =>
    obtain ⟨owner, s, inside, answerKey, period, v, rfl⟩ := within a List.mem_cons_self
    have sub : ∀ t ∈ (if owner = kind then [s] else []), t ∈ names kind := by
      intro t ht
      split at ht
      · rename_i hk
        rw [List.mem_singleton.mp ht, ← hk]
        exact inside
      · cases ht
    have first := (act_sameBut b owner answerKey s period v kind).mono sub
    cases h : (b.act (.write owner answerKey ⟨.text s, period, v⟩)).halt with
    | some failure =>
      rw [perform_cons_of_halt h]
      exact first
    | none =>
      rw [perform_cons_of_halt_none h]
      exact first.trans (ih (fun a ha => within a (List.mem_cons_of_mem _ ha)) _)

theorem lacks_congr {b c : Builder} {kind : EntityKind} {names : List String}
    (same : Entity.SameBut names (b.entities.get kind) (c.entities.get kind))
    {name : String} (apart : name ∉ names) : lacks kind name c = lacks kind name b := by
  have apart' : ∀ s ∈ names, Value.text name ≠ .text s := by
    rintro s hs ⟨⟩
    exact apart hs
  simp only [lacks, Entity.hasVariable, Table.contains, same.values _ apart']

theorem isSet_congr {b c : Builder} (periods : c.periods = b.periods) {kind : EntityKind}
    {names : List String}
    (same : Entity.SameBut names (b.entities.get kind) (c.entities.get kind))
    {name : String} (apart : name ∉ names) : isSet kind name c = isSet kind name b := by
  have apart' : ∀ s ∈ names, Value.text name ≠ .text s := by
    rintro s hs ⟨⟩
    exact apart hs
  simp only [isSet, current, periods, same.value apart']

/-- A value of the current month that is written if a condition holds, as a plan. -/
theorem whenever_eq_perform {b : Builder} (condition : Builder → Bool)
    {step : Builder → Stepped} {kind : EntityKind} {key name text : String}
    (routes : step b = routeCurrent kind key name (.text text) b) :
    whenever condition step b = perform (b.writeIf (condition b) kind key name text) b := by
  unfold whenever writeIf
  split
  · rw [routes, routeCurrent, route_eq_perform]
    rfl
  · rfl

/-- It can be planned with actions that leave the condition as it is. -/
theorem perform_andThen_whenever {b : Builder} {first : List Action}
    {condition : Builder → Bool} {step : Builder → Stepped} {kind : EntityKind}
    {key name text : String}
    (routes : step (perform first b).builder = routeCurrent kind key name (.text text)
      (perform first b).builder)
    (same : condition (perform first b).builder = condition b) :
    (perform first b).andThen (whenever condition step) =
      perform (first ++ b.writeIf (condition b) kind key name text) b := by
  have periods : (perform first b).builder.periods = b.periods :=
    congrArg Setting.periods (perform_setting first b)
  rw [perform_append]
  cases h : (perform first b).halt with
  | some failure => simp only [Stepped.andThen_of_halt h]
  | none =>
    simp only [Stepped.andThen_of_halt_none h]
    rw [whenever_eq_perform condition routes, same]
    simp only [writeIf, periods]

/-- Applying the defaults is performing their plan: none of them changes what the conditions
of the later ones look at. -/
theorem applyDefaults_eq_perform (b : Builder) :
    b.applyDefaults = perform b.defaultPlan b := by
  have periods (plan : List Action) : (perform plan b).builder.periods = b.periods :=
    congrArg Setting.periods (perform_setting plan b)
  -- the writes of the plan in their order; each condition is left as it is by the writes
  -- before it
  let nationality :=
    b.writeIf (lacks .individual "nationalite" b) .individual "default_nationalite"
      "nationalite" "FR"
  let movingDate :=
    b.writeIf (lacks .household "date_entree_logement" b) .household
      "default_date_entree_logement"
    "date_entree_logement" b.periods.nextMonth
  let school :=
    b.writeIf (isSet .individual "sortie_academie" b) .individual "mobility_annee_etude"
      "annee_etude"
    "terminale"
  have within1 :
      Within (fun kind => if kind = .individual then ["nationalite"] else []) nationality :=
    within_writeIf (by simp) b _ _ _
  have within2 : Within neededNames (nationality ++ movingDate) :=
    (within_writeIf nationality_needed b _ _ _).append
    (within_writeIf movingDate_needed b _ _ _)
  have within3 : Within neededNames (nationality ++ movingDate ++ school) :=
    within2.append (within_writeIf level_needed b _ _ _)
  have first : whenever (lacks .individual "nationalite")
      (routeCurrent .individual "default_nationalite" "nationalite" (.text "FR")) b =
      perform nationality b :=
    whenever_eq_perform _ rfl
  have second :
      (perform nationality b).andThen
      (whenever (lacks .household "date_entree_logement") fun b =>
      routeCurrent .household "default_date_entree_logement" "date_entree_logement"
        (.text b.periods.nextMonth) b) =
        perform (nationality ++ movingDate) b :=
    perform_andThen_whenever (by rw [periods])
      (lacks_congr (perform_sameBut within1 b .household) (by simp))
  have third :
      (perform (nationality ++ movingDate) b).andThen
      (whenever (isSet .individual "sortie_academie")
      (routeCurrent .individual "mobility_annee_etude" "annee_etude" (.text "terminale"))) =
        perform (nationality ++ movingDate ++ school) b :=
    perform_andThen_whenever rfl
      (isSet_congr (periods _) (perform_sameBut within2 b .individual)
        (by simp [neededNames]))
  unfold applyDefaults
  rw [first, second, third]
  exact perform_andThen_whenever rfl
    (isSet_congr (periods _) (perform_sameBut within3 b .individual)
      (by simp [neededNames]))

theorem filterMap_callTo_writeIf (b : Builder) (needed : Bool) (kind other : EntityKind)
    (key name text : String) :
    (b.writeIf needed kind key name text).filterMap (Action.callTo other) =
      if needed = true ∧ kind = other then
        [.write (.text name) (.text text) b.periods.month key] else [] := by
  cases needed with
  | false => rfl
  | true =>
    by_cases h : kind = other
    · simp [writeIf, Action.callTo, h]
    · simp [writeIf, Action.callTo, h]

theorem filterMap_callTo_defaultPlan (b : Builder) (kind : EntityKind) :
    b.defaultPlan.filterMap (Action.callTo kind) = b.defaultCalls kind := by
  simp only [defaultPlan, List.filterMap_append, filterMap_callTo_writeIf]
  cases kind <;> simp [defaultCalls]

theorem reported_defaultPlan (b : Builder) :
    b.defaultPlan.filterMap Action.reported = [] := by
  rw [List.filterMap_eq_nil_iff]
  intro a inside
  obtain ⟨_, _, _, _, _, _, rfl⟩ := within_defaultPlan b a inside
  rfl

/-- The defaults of a calm builder are calls to its entities, and nothing stops them. -/
theorem applyDefaults_made {b : Builder} (hb : b.Calm) :
    Made b.defaultCalls b b.applyDefaults := by
  have on : (perform b.defaultPlan b).halt = none :=
    (perform_halt_eq_none_iff hb.quiet hb.total _).mpr (within_defaultPlan b).fail_not_mem
  rw [applyDefaults_eq_perform]
  refine ⟨on, perform_setting _ b, ?_, ?_⟩
  · rw [perform_errors hb.quiet on, reported_defaultPlan, List.append_nil]
  · intro kind
    rw [perform_get hb on, filterMap_callTo_defaultPlan]

section Strict

variable {options : Options} {resolver : Resolver} {periods : Periods} {answers : Answers}
  {probes : List String}

/-- A strict construction stops where filling stops. -/
theorem strictConstruction_halt {failure : Failure}
    (halt : ((fresh options resolver periods).filled answers probes).halt = some failure) :
    (strictConstruction options resolver periods answers probes).halt = some failure := by
  rw [strictConstruction, Stepped.andThen_of_halt halt]
  exact halt

/-- A strict construction that is filled goes on to make the calls of the defaults. -/
theorem strictConstruction_made (off : options.throwOnError.truthy = false)
    (on : ((fresh options resolver periods).filled answers probes).halt = none) :
    Made ((fresh options resolver periods).filled answers probes).builder.defaultCalls
      ((fresh options resolver periods).filled answers probes).builder
      (strictConstruction options resolver periods answers probes) := by
  obtain ⟨halt, setting, errors, entities⟩ := applyDefaults_made (calm_filled off on)
  rw [strictConstruction, Stepped.andThen_of_halt_none on]
  exact ⟨halt, setting, errors, entities⟩

end Strict

end Builder

end Questionnaire
