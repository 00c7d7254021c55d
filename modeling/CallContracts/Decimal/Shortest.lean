import CallContracts.Binary64

set_option autoImplicit false

namespace CallContracts.Decimal

structure Numeral where
  digits : Nat
  exponent : Int

def digitCount (n : Nat) : Nat := (Nat.toDigits 10 n).length

-- Decimals strictly between `lower / unit` and `upper / unit` read back as the value, the two ends when `closed`.
structure Interval where
  lower : Nat
  middle : Nat
  upper : Nat
  unit : Nat
  closed : Bool

-- Half a gap lies on each side; below a power of two the gap is half as wide.
def Interval.around (x : Binary64) : Interval :=
  let m := 4 * x.significand
  let below := if x.fractionField = 0 ∧ 1 < x.exponentField then 1 else 2
  let up := Nat.pow 2 (x.scale - 2).toNat
  ⟨(m - below) * up, m * up, (m + 2) * up, Nat.pow 2 (2 - x.scale).toNat, x.significand % 2 == 0⟩

def Interval.leading (i : Interval) : Int :=
  if i.unit ≤ i.middle then digitCount (i.middle / i.unit) - 1 else - digitCount ((i.unit - 1) / i.middle)

def Interval.onGrid (i : Interval) (exponent : Int) : Option Numeral :=
  let fine := Nat.pow 10 (-exponent).toNat
  let step := i.unit * Nat.pow 10 exponent.toNat
  let middle := i.middle * fine
  let inside (c : Nat) : Bool :=
    if i.closed then i.lower * fine ≤ c * step && c * step ≤ i.upper * fine
    else i.lower * fine < c * step && c * step < i.upper * fine
  let down := middle / step
  let roundsDown := middle - down * step < (down + 1) * step - middle
  if inside down && (roundsDown || !inside (down + 1)) then some ⟨down, exponent⟩
  else if inside (down + 1) then some ⟨down + 1, exponent⟩
  else none

-- The decimal with the fewest digits that reads back as the number. Seventeen digits always do.
def shortest (x : Binary64) : Numeral :=
  let i := Interval.around x
  ((List.range 17).findSome? fun places : Nat => i.onGrid (i.leading - places)).getD ⟨0, 0⟩

end CallContracts.Decimal
