import CallContracts.Construction

set_option autoImplicit false

namespace CallContracts

-- Handles with the same identity share one registry.
structure Scope where
  id : Nat
  name : String
deriving DecidableEq

-- What all registries hold now, the latest definition first.
structure Bindings where
  scopes : Nat
  types : List ((Nat × String) × Ty)

namespace Bindings

def empty : Bindings := ⟨0, []⟩

def newScope (bindings : Bindings) (name : String) : Scope × Bindings :=
  (⟨bindings.scopes, name⟩, { bindings with scopes := bindings.scopes + 1 })

def defineAs (bindings : Bindings) (scope : Scope) (name : String) (t : Ty) : Bindings :=
  { bindings with types := ((scope.id, name), t) :: bindings.types }

def define (bindings : Bindings) (scope : Scope) (t : Ty) : Bindings := bindings.defineAs scope t.name t

def find? (bindings : Bindings) (scope : Scope) (name : String) : Option Ty := bindings.types.lookup (scope.id, name)

def contains (bindings : Bindings) (scope : Scope) (name : String) : Bool := (bindings.find? scope name).isSome

def lookup (bindings : Bindings) (scope : Scope) (name : String) : Except Violation Ty :=
  match bindings.find? scope name with
  | some t => .ok t
  | none => .error (Violation.unresolved name scope.name)

theorem find_define (bindings : Bindings) (scope other : Scope) (name query : String) (t : Ty) :
    (bindings.defineAs scope name t).find? other query =
      if other.id = scope.id ∧ query = name then some t else bindings.find? other query := by
  unfold find? defineAs
  by_cases same : other.id = scope.id ∧ query = name
  · simp [same]
  · have different : ((other.id, query) == (scope.id, name)) = false := by simpa using same
    simp [List.lookup_cons, different, same]

end Bindings

structure Reference where
  name : String
  scope : Scope
deriving DecidableEq

namespace Reference

def resolve (bindings : Bindings) (r : Reference) : Except Violation Ty := bindings.lookup r.scope r.name

def isInstance (bindings : Bindings) (r : Reference) (v : Value) : Except Violation Bool :=
  (r.resolve bindings).map v.isInstance

def hasSubtype (bindings : Bindings) (r : Reference) (t : Ty) : Except Violation Bool :=
  (r.resolve bindings).map t.isSubtypeOf

def instantiate (bindings : Bindings) (r : Reference) (args : Arguments) : Except Violation Value :=
  match r.resolve bindings with
  | .ok t => t.instantiate args
  | .error v => .error v

end Reference

end CallContracts
