import CallContracts.Decimal.Shortest

set_option autoImplicit false

namespace CallContracts.Decimal

structure Layout where
  leastPositional : Int
  firstScientific : Int
  plusInExponent : Bool
  exponentWidth : Nat
  nan : String

def dropTrailingZeros (digits : List Char) : List Char := (digits.reverse.dropWhile (· == '0')).reverse

def padLeft (width : Nat) (digits : List Char) : List Char := List.replicate (width - digits.length) '0' ++ digits

def positional (digits : List Char) (leading : Int) : List Char :=
  if leading < 0 then ['0', '.'] ++ List.replicate (-leading - 1).toNat '0' ++ digits
  else
    let whole := digits.take (leading.toNat + 1)
    let rest := digits.drop (leading.toNat + 1)
    whole ++ List.replicate (leading.toNat + 1 - whole.length) '0' ++ ['.'] ++ (if rest.isEmpty then ['0'] else rest)

def scientific (layout : Layout) (digits : List Char) (leading : Int) : List Char :=
  let rest := digits.drop 1
  let sign := if leading < 0 then ['-'] else if layout.plusInExponent then ['+'] else []
  digits.take 1 ++ (if rest.isEmpty then [] else '.' :: rest) ++ ['e'] ++ sign ++
    padLeft layout.exponentWidth (Nat.toDigits 10 leading.natAbs)

def magnitude (layout : Layout) (x : Binary64) : List Char :=
  if x.isZero then ['0', '.', '0']
  else
    let decimal := shortest x
    let all := Nat.toDigits 10 decimal.digits
    let leading := decimal.exponent + all.length - 1
    let digits := dropTrailingZeros all
    if layout.leastPositional ≤ leading ∧ leading < layout.firstScientific then positional digits leading
    else scientific layout digits leading

def write (layout : Layout) (x : Binary64) : String :=
  if x.isNaN then layout.nan
  else
    let sign := if x.isNegative then "-" else ""
    sign ++ (if x.isInfinite then "inf" else String.ofList (magnitude layout x))

end CallContracts.Decimal
