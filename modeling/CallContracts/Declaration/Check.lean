import CallContracts.Blame
import CallContracts.Declaration.Basic

set_option autoImplicit false

namespace CallContracts

namespace Declaration

def allAdmitted (admits : Value → Except Violation Bool) : List Value → Except Violation Bool
  | [] => .ok true
  | v :: vs =>
      match admits v with
      | .ok true => allAdmitted admits vs
      | .ok false => .ok false
      | .error e => .error e

mutual

def accepts (bindings : Bindings) : Declaration → Value → Except Violation Bool
  | .exact type, v => .ok (v.isInstance type)
  | .union members, v => acceptsMember bindings members v
  | .absent, v => .ok v.isAbsent
  | .collection entries, v => acceptsEntry bindings entries v
  | .condition c, v => .ok (c.test v)
  | .reference r, v => r.isInstance bindings v

def acceptsMember (bindings : Bindings) : List (Option Declaration) → Value → Except Violation Bool
  | [], _ => .ok false
  | none :: rest, v => if v.isAbsent then .ok true else acceptsMember bindings rest v
  | some d :: rest, v =>
      match d.accepts bindings v with
      | .ok true => .ok true
      | .ok false => acceptsMember bindings rest v
      | .error e => .error e

def acceptsEntry (bindings : Bindings) : List (Ty × Declaration) → Value → Except Violation Bool
  | [], _ => .ok false
  | (container, d) :: rest, v =>
      if container = v.type then
        match v.elements with
        | some items => allAdmitted (d.accepts bindings) items
        | none => .ok false
      else acceptsEntry bindings rest v

end

def offenders (bindings : Bindings) (d : Declaration) : List Value → Except Violation (List Value)
  | [] => .ok []
  | v :: vs =>
      match d.accepts bindings v with
      | .ok true => offenders bindings d vs
      | .ok false => (offenders bindings d vs).map (v :: ·)
      | .error e => .error e

def distinctTypeNames (vs : List Value) : List String := (vs.map fun v => v.type.name).eraseDups

def checkCollection (bindings : Bindings) (blame : Blame) (entries : List (Ty × Declaration)) (v : Value) :
    Except Violation Unit :=
  match entries.find? fun entry => entry.1 = v.type with
  | none =>
      .error ((blame.containerMismatch v (entries.map fun entry => entry.1.name)).within "check_collection")
  | some (container, element) =>
      let declared := container.name ++ "[" ++ Text.joined element.describe ++ "]"
      match v.elements with
      | none => .error ((blame.notIterable v [declared]).within "check_collection")
      | some items =>
          match element.offenders bindings items with
          | .error e => .error e
          | .ok [] => .ok ()
          | .ok offending =>
              .error ((blame.elementMismatch offending [declared] (distinctTypeNames offending)).within
                "check_collection")

def checkStripped (bindings : Bindings) (blame : Blame) (d : Declaration) (v : Value) : Except Violation Unit :=
  let failing (violation : Violation) : Except Violation Unit := .error (violation.within "check")
  match d with
  | .collection entries =>
      if v.isAbsent then failing (blame.typeMismatch v d.describe)
      else (checkCollection bindings blame entries v).mapError (·.within "check")
  | .condition c => if c.test v then .ok () else failing (blame.conditionFailed v)
  | .absent => if v.isAbsent then .ok () else failing (blame.absenceExpected v)
  | d =>
      match d.accepts bindings v with
      | .ok true => .ok ()
      | .ok false => failing (blame.typeMismatch v d.describe)
      | .error e => .error e

-- Absence members are served before all else.
def check (bindings : Bindings) (blame : Blame) (d : Declaration) (v : Value) : Except Violation Unit :=
  match d.stripAbsence with
  | (stripped, absence) => if absence && v.isAbsent then .ok () else checkStripped bindings blame stripped v

end Declaration

end CallContracts
