import CallContracts.Value.Render
import CallContracts.Violation

set_option autoImplicit false

namespace CallContracts

-- Where in a call a checked value stands. Positions count from one.
inductive Site where
  | positional (position : Nat) (name : String)
  | keyword (name : String)
  | result
deriving DecidableEq

def Site.label : Site → String
  | .positional position name => "Parameter number " ++ toString position ++ ", " ++ name
  | .keyword name => name
  | .result => "return value"

def shownLength : Nat := 32

def Value.shown (v : Value) : String :=
  if v.display.length ≤ shownLength then v.display
  else String.ofList (v.display.toList.take shownLength) ++ "..."

structure Blame where
  function : String
  site : Site
deriving DecidableEq

namespace Blame

def declaredActual (blame : Blame) (shown : String) (declared actual : List String) : String :=
  blame.function ++ "(): " ++ blame.site.label ++ "=" ++ shown ++ ": Declared type=<" ++ Text.joined declared ++
    ">, actual type=<" ++ Text.joined actual ++ ">."

def raise (kind : ViolationKind) (message : String) : Violation := ⟨kind, message, []⟩

def typeMismatch (blame : Blame) (v : Value) (declared : List String) : Violation :=
  if v.isAbsent then
    raise .absenceMismatch (blame.declaredActual v.shown declared [v.type.name])
  else
    match blame.site with
    | .result =>
        raise .returnTypeMismatch
          (blame.function ++ "() -> <" ++ Text.joined declared ++ ">: Actual type of return value, <" ++ v.shown ++
            ">, is <" ++ v.type.name ++ ">")
    | _ => raise .parameterTypeMismatch (blame.declaredActual v.shown declared [v.type.name])

def absenceExpected (blame : Blame) (v : Value) : Violation :=
  raise .absenceMismatch (blame.declaredActual v.shown ["None"] [v.type.name])

def conditionFailed (blame : Blame) (v : Value) : Violation :=
  raise .conditionFailed
    (blame.function ++ "(): " ++ blame.site.label ++ "=" ++ v.shown ++ ":  Fails condition check.")

def containerMismatch (blame : Blame) (v : Value) (containers : List String) : Violation :=
  raise .collectionContainerMismatch (blame.declaredActual v.shown containers [v.type.name])

def elementMismatch (blame : Blame) (offending : List Value) (declared types : List String) : Violation :=
  raise .collectionElementMismatch (blame.declaredActual (Value.setOf offending).shown declared types)

def notIterable (blame : Blame) (v : Value) (declared : List String) : Violation :=
  raise .collectionElementMismatch (blame.declaredActual v.shown declared [v.type.name])

end Blame

end CallContracts
