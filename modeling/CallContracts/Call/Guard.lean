import CallContracts.Call.Sequence
import CallContracts.Contract
import CallContracts.Enforcement

set_option autoImplicit false

namespace CallContracts

inductive Outcome (σ ε : Type) where
  | value (v : Value)
  | lazy (sequence : Sequence σ ε)

namespace Outcome

def value? {σ ε : Type} : Outcome σ ε → Option Value
  | .value v => some v
  | .lazy _ => none

def sequence? {σ ε : Type} : Outcome σ ε → Option (Sequence σ ε)
  | .value _ => none
  | .lazy sequence => some sequence

end Outcome

structure Callable (σ ε : Type) where
  name : String
  doc : Option String
  signature : Signature
  call : Arguments → World σ → Except ε (Outcome σ ε) × World σ

variable {σ ε : Type} [OfViolation ε]

def Contract.checkOutcome (bindings : Bindings) (function : String) (contract : Contract) (outcome : Outcome σ ε) :
    Except ε (Outcome σ ε) :=
  match contract.returns, outcome with
  | none, outcome => .ok outcome
  | some d, .value v =>
      match d.check bindings ⟨function, .result⟩ v with
      | .ok () => .ok (.value v)
      | .error violation => .error (OfViolation.ofViolation violation.reraised)
  | some d, .lazy sequence => .ok (.lazy (.checked function d sequence false))

namespace Callable

def guarded (f : Callable σ ε) : Callable σ ε :=
  { f with
    call := fun args world =>
      let contract := Contract.ofSignature f.signature
      match contract.checkArguments world.bindings f.name args with
      | .error violation => (.error (OfViolation.ofViolation violation.reraised), world)
      | .ok () =>
          match f.call args world with
          | (.error e, after) => (.error e, after)
          | (.ok outcome, after) => (contract.checkOutcome after.bindings f.name outcome, after) }

def enforced (f : Callable σ ε) : Enforcement → Callable σ ε
  | .enabled => f.guarded
  | .disabled => f

end Callable

end CallContracts
