/-!
# Kinds of entities

A request describes one entity of each kind. Names and ids are those of the request.
-/

namespace Questionnaire

/-- A person, the household the person lives in, the household the person is taxed in, the
family. -/
inductive EntityKind where
  | individual
  | household
  | taxHousehold
  | family
  deriving DecidableEq, Repr

namespace EntityKind

/-- The kinds in the order in which a request lists them. -/
def all : List EntityKind := [.individual, .household, .taxHousehold, .family]

/-- The key of a kind in a request. -/
def name : EntityKind → String
  | .individual => "individus"
  | .household => "menages"
  | .taxHousehold => "foyers_fiscaux"
  | .family => "familles"

def ofName? (s : String) : Option EntityKind := all.find? (·.name == s)

theorem mem_all (kind : EntityKind) : kind ∈ all := by cases kind <;> simp [all]

end EntityKind

structure PerKind (α : Type) where
  individual : α
  household : α
  taxHousehold : α
  family : α
  deriving DecidableEq, Repr

namespace PerKind

variable {α β : Type}

def ofFunction (f : EntityKind → α) : PerKind α :=
  ⟨f .individual, f .household, f .taxHousehold, f .family⟩

def get (p : PerKind α) : EntityKind → α
  | .individual => p.individual
  | .household => p.household
  | .taxHousehold => p.taxHousehold
  | .family => p.family

def set (p : PerKind α) (kind : EntityKind) (a : α) : PerKind α :=
  match kind with
  | .individual => { p with individual := a }
  | .household => { p with household := a }
  | .taxHousehold => { p with taxHousehold := a }
  | .family => { p with family := a }

def map (f : α → β) (p : PerKind α) : PerKind β :=
  ⟨f p.individual, f p.household, f p.taxHousehold, f p.family⟩

/-- The things with their kinds, in the order of the kinds. -/
def toList (p : PerKind α) : List (EntityKind × α) :=
  EntityKind.all.map fun kind => (kind, p.get kind)

@[simp] theorem get_ofFunction (f : EntityKind → α) (kind : EntityKind) :
    (ofFunction f).get kind = f kind := by
  cases kind <;> rfl

@[simp] theorem get_map (f : α → β) (p : PerKind α) (kind : EntityKind) :
    (p.map f).get kind = f (p.get kind) := by
  cases kind <;> rfl

@[simp] theorem get_set_self (p : PerKind α) (kind : EntityKind) (a : α) :
    (p.set kind a).get kind = a := by
  cases kind <;> rfl

theorem get_set_of_ne (p : PerKind α) {kind other : EntityKind} (a : α) (h : kind ≠ other) :
    (p.set kind a).get other = p.get other := by
  cases kind <;> cases other <;> first | rfl | exact absurd rfl h

theorem get_set (p : PerKind α) (kind other : EntityKind) (a : α) :
    (p.set kind a).get other = if kind = other then a else p.get other := by
  by_cases h : kind = other
  · subst h
    rw [get_set_self, if_pos rfl]
  · rw [get_set_of_ne p a h, if_neg h]

end PerKind

end Questionnaire
