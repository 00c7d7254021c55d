set_option autoImplicit false

namespace CallContracts

structure Binary64 where
  bits : UInt64

namespace Binary64

def signBit : Nat := 0x8000000000000000

def fractionSize : Nat := 0x10000000000000

def isNegative (x : Binary64) : Bool := signBit ≤ x.bits.toNat

def exponentField (x : Binary64) : Nat := x.bits.toNat / fractionSize % 0x800

def fractionField (x : Binary64) : Nat := x.bits.toNat % fractionSize

def isNaN (x : Binary64) : Bool := x.exponentField == 2047 && x.fractionField != 0

def isInfinite (x : Binary64) : Bool := x.exponentField == 2047 && x.fractionField == 0

def isZero (x : Binary64) : Bool := x.exponentField == 0 && x.fractionField == 0

protected def beq (x y : Binary64) : Bool :=
  !x.isNaN && !y.isNaN && (x.bits == y.bits || (x.isZero && y.isZero))

instance : BEq Binary64 := ⟨Binary64.beq⟩

def isPositive (x : Binary64) : Bool := !x.isNaN && !x.isNegative && !x.isZero

def isNonNegative (x : Binary64) : Bool := !x.isNaN && (!x.isNegative || x.isZero)

-- A finite number is `significand * 2 ^ scale` up to its sign.
def significand (x : Binary64) : Nat :=
  if x.exponentField = 0 then x.fractionField else fractionSize + x.fractionField

def scale (x : Binary64) : Int := (max x.exponentField 1 : Nat) - 1075

-- Of two numbers equally near it is the one with an even significand. Rounding up may carry into the exponent.
def nearestBits (n : Nat) : Nat :=
  let top := n.log2
  if n = 0 then 0
  else if top ≤ 52 then (top + 1023) * fractionSize + (n * Nat.pow 2 (52 - top) - fractionSize)
  else
    let unit := Nat.pow 2 (top - 52)
    let kept := n / unit
    let lost := n % unit
    let up := unit < 2 * lost || (2 * lost == unit && kept % 2 == 1)
    (top + 1023) * fractionSize + (kept - fractionSize) + (if up then 1 else 0)

def ofInt64 (n : Int64) : Binary64 :=
  ⟨UInt64.ofNat ((if n < 0 then signBit else 0) + nearestBits n.toInt.natAbs)⟩

end Binary64

end CallContracts
