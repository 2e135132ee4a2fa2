import Questionnaire.Failure
import Questionnaire.Table

/-!
# Entities

An entity has lists of members and variables; a variable has at most one value in a period.
A value that is recorded is not lost: a later write to its cell is refused with a build
error, unless the variable has a refinement that lets the new value take the place of the
old one. `null` in a cell asks the engine for the value and gives way to any value. Lists of
members are never written as variables.
-/

namespace Questionnaire

/-- Which lists of members an entity has, and which of them start with the individual. -/
structure EntityLayout where
  kind : EntityKind
  id : String
  memberFields : List String := []
  seededFields : List String := []
  deriving DecidableEq, Repr

namespace EntityLayout

def individualId : String := "usager"

def ofKind : EntityKind → EntityLayout
  | .individual => { kind := .individual, id := individualId }
  | .household =>
      { kind := .household, id := "menage_usager"
        memberFields := ["personne_de_reference", "conjoint", "enfants"]
        seededFields := ["personne_de_reference"] }
  | .taxHousehold =>
      { kind := .taxHousehold, id := "foyer_fiscal_usager"
        memberFields := ["declarants", "personnes_a_charge"]
        seededFields := ["declarants"] }
  | .family =>
      { kind := .family, id := "famille_usager"
        memberFields := ["parents", "enfants"]
        seededFields := ["parents"] }

end EntityLayout

/-- By variable, the rule that says whether a new value may take the place of the old one; a
rule may fail on values that it cannot compare. -/
abbrev Refinements : Type := Table String (Value → Value → Except Failure Bool)

namespace Refinements

/-- Someone who rents is taken to rent unfurnished until the kind of housing is known. -/
def standard : Refinements :=
  [("statut_occupation_logement", fun old _ => .ok (old == .text "locataire_vide"))]

/-- May the new value of a variable take the place of the old one? -/
def allows (rules : Refinements) (name old new : Value) : Except Failure Bool :=
  match name with
  | .text s =>
      match Table.get? rules s with
      | some rule => rule old new
      | none => .ok false
  | _ => .ok false

end Refinements

abbrev ByPeriod : Type := Table String Value

structure Entity where
  layout : EntityLayout
  individual : String
  refinements : Refinements
  members : Table String (List String)
  values : Table Value ByPeriod
  errors : List BuildError

namespace Entity

/-- An entity without variables, its seeded lists holding the individual. -/
def fresh (layout : EntityLayout) (individual : String) (refinements : Refinements) : Entity where
  layout := layout
  individual := individual
  refinements := refinements
  members := layout.memberFields.map fun field =>
    (field, if layout.seededFields.contains field then [individual] else [])
  values := []
  errors := []

def ofKind (kind : EntityKind) : Entity :=
  fresh (.ofKind kind) EntityLayout.individualId .standard

def reset (e : Entity) : Entity := fresh e.layout e.individual e.refinements

def isMemberList (e : Entity) : Value → Bool
  | .text s => Table.contains e.members s
  | _ => false

def hasVariable (e : Entity) (name : Value) : Bool := Table.contains e.values name

/-- The value of a variable in a period; `null` if none is recorded. -/
def value (e : Entity) (name : Value) (period : String) : Value :=
  ((Table.get? e.values name).bind fun cells => Table.get? cells period).getD .null

/-- Record a value, whatever was there. -/
def put (e : Entity) (name : Value) (period : String) (value : Value) : Entity :=
  let cells := (Table.get? e.values name).getD []
  { e with values := Table.put e.values name (Table.put cells period value) }

def refusal (name old new : Value) (period answerKey : String) : BuildError where
  kind := .mappingError
  answerKey := answerKey
  message :=
    "Variable '" ++ name.display ++ "' already has value " ++ old.inspect ++ " at period "
    ++ period ++ "; refused new value " ++ new.inspect

/-- Record a value for a variable in a period, or the error of a refusal. -/
def write (e : Entity) (name value : Value) (period answerKey : String) :
    Except Failure (Entity × Option BuildError) :=
  if e.isMemberList name then .ok (e, none)
  else
    let old := e.value name period
    if old.isNull then .ok (e.put name period value, none)
    else if value.isNull then .ok (e, none)
    else
      match e.refinements.allows name old value with
      | .error failure => .error failure
      | .ok true => .ok (e.put name period value, none)
      | .ok false =>
          let error := refusal name old value period answerKey
          .ok ({ e with errors := e.errors ++ [error] }, some error)

/-- Record a value as the only one of its variable. -/
def replace (e : Entity) (name value : Value) (period : String) : Except Failure Entity :=
  if e.isMemberList name then .error (.memberList name e.layout.kind)
  else .ok { e with values := Table.put e.values name [(period, value)] }

/-- Add a member to a list, unless it is in it. -/
def addMember (e : Entity) (field id : String) : Except Failure Entity :=
  match Table.get? e.members field with
  | none => .error (.notMemberList (.text field) e.layout.kind)
  | some ids =>
      .ok (if ids.contains id then e
        else { e with members := Table.put e.members field (ids ++ [id]) })

/-- The entity in a request: its lists of members, then its variables. -/
def toValue (e : Entity) : Value :=
  .map (e.members.map (fun (field, ids) => (.text field, .list (ids.map .text)))
    ++ e.values.map fun (name, cells) =>
      (name, .map (cells.map fun (period, value) => (.text period, value))))

def clearErrors (e : Entity) : Entity := { e with errors := [] }

end Entity

end Questionnaire
