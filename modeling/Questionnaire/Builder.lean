import Questionnaire.Answer
import Questionnaire.Entity
import Questionnaire.Registry.Basic

/-!
# Building a request

A builder takes answers and probes one after the other and records values in its four
entities. What is wrong with an answer becomes a build error; the builder goes on. Only a
builder that is told to throw stops at its first error, and then the rest of the step is not
done.

Every operation is a step: it gives the next builder, the errors it recorded in their order,
and whether it stopped.
-/

namespace Questionnaire

/-- To whom the value of an answer belongs: a kind of entity, or a name that is none. -/
inductive Owner where
  | kind (kind : EntityKind)
  | unknown (name : String)
  deriving DecidableEq, Repr

structure Resolver where
  mapping? : String → Option Mapping
  owner? : String → Option Owner

namespace Resolver

def ofRegistry (r : Registry) : Resolver where
  mapping? := fun key => r.mapping? (.text key)
  owner? := fun key => (r.kind? (.text key)).map .kind

end Resolver

/-- A request under construction. -/
structure Builder where
  options : Options
  resolver : Resolver
  periods : Periods
  entities : PerKind Entity
  errors : List BuildError

structure Stepped where
  builder : Builder
  recorded : List BuildError
  halt : Option Failure

namespace Stepped

/-- A step that records no error. -/
def quiet (b : Builder) : Stepped := ⟨b, [], none⟩

/-- A second step after the first, unless that stopped. -/
def andThen (s : Stepped) (next : Builder → Stepped) : Stepped :=
  match s.halt with
  | some _ => s
  | none =>
      let t := next s.builder
      { t with recorded := s.recorded ++ t.recorded }

def forEach {α : Type} (step : Builder → α → Stepped) : List α → Builder → Stepped
  | [], b => quiet b
  | a :: rest, b => (step b a).andThen (forEach step rest)

@[simp] theorem andThen_quiet (b : Builder) (next : Builder → Stepped) :
    (quiet b).andThen next = next b := by
  simp [andThen, quiet]

end Stepped

namespace Builder

def fresh (options : Options) (resolver : Resolver) (periods : Periods) : Builder where
  options := options
  resolver := resolver
  periods := periods
  entities := PerKind.ofFunction Entity.ofKind
  errors := []

def throws (b : Builder) : Bool := b.options.throwOnError.truthy

def haltOn (b : Builder) (error : BuildError) : Option Failure :=
  if b.throws then some (.build error) else none

/-- Record an error of the builder's own. -/
def record (b : Builder) (kind : BuildErrorKind) (key message : String) : Stepped :=
  let error : BuildError := ⟨kind, key, message⟩
  ⟨{ b with errors := b.errors ++ [error] }, [error], b.haltOn error⟩

structure Cell where
  name : Value
  period : String
  value : Value

def cells (expansion : Expansion) : List Cell :=
  expansion.flatMap fun (name, values) => values.map fun (period, value) =>
    ⟨name, period, value⟩

/-- Write a cell of an entity. Values other than scalars are refused here. -/
def writeCell (kind : EntityKind) (key : String) (b : Builder) (cell : Cell) : Stepped :=
  if !cell.value.isNull && !cell.value.isScalar then
    b.record .mappingError key ("Mapping produced a non-scalar value for '" ++
      cell.name.display ++ "'")
  else
    match (b.entities.get kind).write cell.name cell.value cell.period key with
    | .error failure => ⟨b, [], some failure⟩
    | .ok (entity, refused) =>
        let b := { b with entities := b.entities.set kind entity }
        match refused with
        | none => .quiet b
        | some error => ⟨b, [error], b.haltOn error⟩

def route (b : Builder) (owner : Owner) (key : String) (expansion : Expansion) : Stepped :=
  match owner with
  | .kind kind => Stepped.forEach (writeCell kind key) (cells expansion) b
  | .unknown name =>
      b.record .unknownEntity key ("No entity manager found for entity: " ++ name)

/-- What a value means under a mapping. -/
def expand (periods : Periods) (key : String) (value : Value) :
    Mapping → Option (Except Failure Expansion)
  | .direct name type => some do
      let period ← periods.resolve type
      if name.isKey then return [(name, [(period, value)])] else .error (.misuse .kind)
  | .dispatch dispatcher type => some (dispatcher.run key value type periods)
  | _ => none

/-- Write the values of an expansion, or record why there is none. -/
def settle (b : Builder) (owner : Owner) (key : String) :
    Option (Except Failure Expansion) → Stepped
  | none => b.record .mappingError key ("Invalid mapping for answer key: " ++ key)
  | some (.ok expansion) => b.route owner key expansion
  | some (.error (.period value)) => b.record .mappingError key (periodMessage value)
  | some (.error (.dispatch k message)) =>
      b.record .unexpectedValue key ((Failure.dispatch k message).message?.getD "")
  | some (.error (.unexpectedValue k value)) =>
      b.record .unexpectedValue key ((Failure.unexpectedValue k value).message?.getD "")
  | some (.error failure) => ⟨b, [], some failure⟩

def addScalar (b : Builder) (key : String) (value : Value) : Stepped :=
  match b.resolver.mapping? key with
  | none => b.record .unknownVariable key ("No mapping found for answer key: " ++ key)
  | some .excluded => .quiet b
  | some mapping =>
      match b.resolver.owner? key with
      | none => b.record .unknownEntity key ("No entity found for answer key: " ++ key)
      | some owner => b.settle owner key (expand b.periods key value mapping)

/-- Take an answer. A missing one is skipped if that is allowed; a selection counts by its
value. -/
def addAnswer (b : Builder) (key : String) (answer : Value) : Stepped :=
  if answer.isUnanswered then
    if b.options.allowUndefined.truthy then .quiet b
    else b.record .undefinedValue key ("Undefined value for answer key: " ++ key)
  else
    let value := answer.unwrap
    if value.isScalar then b.addScalar key value
    else if (b.resolver.mapping? key).any Mapping.isExcluded then .quiet b
    else
      b.record .unexpectedValue key
        ("Unexpected value type for answer key: " ++ key ++ " (" ++ value.kindName ++ ")")

def addAnswers (b : Builder) (answers : Answers) : Stepped :=
  Stepped.forEach (fun b (key, answer) => b.addAnswer key answer) answers b

/-- Ask the engine for the variable behind a key. -/
def addProbe (b : Builder) (key : String) : Stepped :=
  match b.resolver.mapping? key with
  | none => b.record .unknownVariable key ("No mapping found for question key: " ++ key)
  | some (.direct name type) =>
      match b.resolver.owner? key with
      | none => b.record .unknownEntity key ("No entity found for question key: " ++ key)
      | some owner => b.settle owner key (expand b.periods key .null (.direct name type))
  | some _ => b.record .mappingError key ("Question key must have direct mapping: " ++ key)

def addProbes (b : Builder) (keys : List String) : Stepped :=
  Stepped.forEach addProbe keys b

/-- The value of a variable in the current month. -/
def current (b : Builder) (kind : EntityKind) (name : String) : Value :=
  (b.entities.get kind).value (.text name) b.periods.month

def routeCurrent (kind : EntityKind) (key name : String) (value : Value) (b : Builder) :
    Stepped :=
  b.route (.kind kind) key [(.text name, [(b.periods.month, value)])]

def whenever (condition : Builder → Bool) (step : Builder → Stepped) (b : Builder) : Stepped :=
  if condition b then step b else .quiet b

def lacks (kind : EntityKind) (name : String) (b : Builder) : Bool :=
  !(b.entities.get kind).hasVariable (.text name)

def isSet (kind : EntityKind) (name : String) (b : Builder) : Bool :=
  match b.current kind name with
  | .bool true => true
  | _ => false

/-- The values that the engine needs and the survey does not ask for: a nationality, a
moving date, and the level of a student who moves to another region. -/
def applyDefaults (b : Builder) : Stepped :=
  (((whenever (lacks .individual "nationalite")
      (routeCurrent .individual "default_nationalite" "nationalite" (.text "FR")) b).andThen
    (whenever (lacks .household "date_entree_logement") fun b =>
      routeCurrent .household "default_date_entree_logement" "date_entree_logement"
        (.text b.periods.nextMonth) b)).andThen
    (whenever (isSet .individual "sortie_academie")
      (routeCurrent .individual "mobility_annee_etude" "annee_etude"
        (.text "terminale")))).andThen
    (whenever (isSet .individual "sortie_region_academique")
      (routeCurrent .individual "mobility_annee_etude" "annee_etude" (.text "master_1")))

/-- The request as it is, whatever the errors. -/
def request (b : Builder) : Value :=
  .map (b.entities.toList.map fun (kind, entity) =>
    (.text kind.name, .map [(.text entity.layout.id, entity.toValue)]))

/-- All errors: the builder's own, then those of each entity. -/
def allErrors (b : Builder) : List BuildError :=
  b.errors ++ b.entities.toList.flatMap fun (_, entity) => entity.errors

def clearErrors (b : Builder) : Builder :=
  { b with errors := [], entities := b.entities.map Entity.clearErrors }

def build (b : Builder) : Except (List BuildError) Value :=
  if b.allErrors.isEmpty then .ok b.request else .error b.allErrors

end Builder

end Questionnaire
