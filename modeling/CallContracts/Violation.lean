import CallContracts.Text.Quoted

set_option autoImplicit false

namespace CallContracts

inductive ViolationKind where
  | parameterTypeMismatch
  | returnTypeMismatch
  | absenceMismatch
  | conditionFailed
  | collectionContainerMismatch
  | collectionElementMismatch
  | unresolvedReference (name scope : String)
  | constructionFailed (typeName reason : String)
deriving DecidableEq

def ViolationKind.name : ViolationKind → String
  | .parameterTypeMismatch => "ParameterTypeMismatch"
  | .returnTypeMismatch => "ReturnTypeMismatch"
  | .absenceMismatch => "AbsenceMismatch"
  | .conditionFailed => "ConditionFailed"
  | .collectionContainerMismatch => "CollectionContainerMismatch"
  | .collectionElementMismatch => "CollectionElementMismatch"
  | .unresolvedReference _ _ => "UnresolvedForwardReference"
  | .constructionFailed _ _ => "ConstructionFailed"

def ViolationKind.description : ViolationKind → String
  | .parameterTypeMismatch => "declared parameter type does not match the argument"
  | .returnTypeMismatch => "declared return type does not match the result"
  | .absenceMismatch => "absence value where a concrete value was declared, or the reverse"
  | .conditionFailed => "value fails condition check"
  | .collectionContainerMismatch => "container type is not among the declared container types"
  | .collectionElementMismatch => "container holds elements of an undeclared type"
  | .unresolvedReference name scope =>
      "name " ++ Text.quoted name ++ " is not defined in scope " ++ Text.quoted scope
  | .constructionFailed typeName reason => "cannot construct " ++ typeName ++ ": " ++ reason

-- A broken contract, with the checks it passed through on its way out, innermost first.
structure Violation where
  kind : ViolationKind
  message : String
  trace : List String
deriving DecidableEq

namespace Violation

def ofKind (kind : ViolationKind) : Violation := ⟨kind, kind.description, []⟩

def within (v : Violation) (frame : String) : Violation := { v with trace := v.trace ++ [frame] }

def reraised (v : Violation) : Violation := { v with trace := [] }

def unresolved (name scope : String) : Violation := ofKind (.unresolvedReference name scope)

def construction (typeName reason : String) : Violation := ofKind (.constructionFailed typeName reason)

end Violation

end CallContracts
