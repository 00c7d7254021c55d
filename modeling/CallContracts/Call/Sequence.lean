import CallContracts.Declaration.Check

set_option autoImplicit false

namespace CallContracts

structure World (σ : Type) where
  bindings : Bindings
  state : σ

class OfViolation (ε : Type) where
  ofViolation : Violation → ε

-- A source answers its pull number `taken`, counted from zero; it may end and go on later.
inductive Sequence (σ ε : Type) where
  | source (pull : Nat → World σ → Option (Except ε Value) × World σ) (taken : Nat)
  | checked (function : String) (d : Declaration) (inner : Sequence σ ε) (finished : Bool)

namespace Sequence

variable {σ ε : Type} [OfViolation ε]

def next : Sequence σ ε → World σ → Option (Except ε Value) × Sequence σ ε × World σ
  | .source pull taken, world =>
      let (item, after) := pull taken world
      (item, .source pull (taken + 1), after)
  | .checked function d inner true, world => (none, .checked function d inner true, world)
  | .checked function d inner false, world =>
      match inner.next world with
      | (some (.ok v), rest, after) =>
          match d.check after.bindings ⟨function, .result⟩ v with
          | .ok () => (some (.ok v), .checked function d rest false, after)
          | .error violation =>
              (some (.error (OfViolation.ofViolation violation.reraised)), .checked function d rest true, after)
      | (item, rest, after) => (item, .checked function d rest false, after)

def pulls : Nat → Sequence σ ε → World σ → List (Option (Except ε Value)) × Sequence σ ε × World σ
  | 0, sequence, world => ([], sequence, world)
  | n + 1, sequence, world =>
      let (item, rest, after) := sequence.next world
      let (items, last, final) := pulls n rest after
      (item :: items, last, final)

end Sequence

end CallContracts
