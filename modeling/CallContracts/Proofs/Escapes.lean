import CallContracts.Value.Render

set_option autoImplicit false

namespace CallContracts

namespace Value

theorem quoted_cancel {α : Type} (code : α → List Char) (read : List Char → Option (α × List Char))
    (reads : ∀ x rest, read (code x ++ rest) = some (x, rest)) (ends : ∀ rest, read ('\'' :: rest) = none)
    (xs ys : List α) (r s : List Char)
    (same : xs.flatMap code ++ '\'' :: r = ys.flatMap code ++ '\'' :: s) : xs = ys ∧ r = s := by
  have first := congrArg read same
  induction xs generalizing ys with
  | nil =>
      cases ys with
      | nil => exact ⟨rfl, List.tail_eq_of_cons_eq same⟩
      | cons y ys => simp [ends, reads] at first
  | cons x xs ih =>
      cases ys with
      | nil => simp [ends, reads] at first
      | cons y ys =>
          simp only [List.flatMap_cons, List.append_assoc, reads, Option.some.injEq, Prod.mk.injEq] at first
          obtain ⟨rfl, rest⟩ := first
          obtain ⟨rfl, sameEnd⟩ := ih ys rest (congrArg read rest)
          exact ⟨rfl, sameEnd⟩

def readCharacter : List Char → Option (Char × List Char)
  | '\\' :: c :: rest => some (c, rest)
  | '\'' :: _ => none
  | c :: rest => some (c, rest)
  | [] => none

theorem read_character (c : Char) (rest : List Char) : readCharacter (escapeText c ++ rest) = some (c, rest) := by
  by_cases backslash : c = '\\'
  · subst backslash
    rfl
  · by_cases quote : c = '\''
    · subst quote
      rfl
    · rw [escapeText, if_neg backslash, if_neg quote]
      simp [readCharacter, backslash]

def hexValue (c : Char) : Nat := if c.toNat < 58 then c.toNat - 48 else c.toNat - 87

theorem hex_value : ∀ n < 16, hexValue (hexDigit n) = n := by
  decide

def readOctet : List Char → Option (UInt8 × List Char)
  | '\\' :: 'x' :: high :: low :: rest => some (UInt8.ofNat (16 * hexValue high + hexValue low), rest)
  | '\\' :: 'n' :: rest => some (0x0A, rest)
  | '\\' :: 't' :: rest => some (0x09, rest)
  | '\\' :: 'r' :: rest => some (0x0D, rest)
  | '\\' :: c :: rest => some (UInt8.ofNat c.toNat, rest)
  | '\'' :: _ => none
  | c :: rest => some (UInt8.ofNat c.toNat, rest)
  | [] => none

theorem printable_code : ∀ n < 0x7F, (Char.ofNat n).toNat = n := by
  decide

theorem read_printable (n : Nat) (bound : n < 0x7F) (notBackslash : n ≠ 0x5C) (notQuote : n ≠ 0x27) (rest : List Char) :
    readOctet (Char.ofNat n :: rest) = some (UInt8.ofNat n, rest) := by
  have code := printable_code n bound
  have backslash : Char.ofNat n ≠ '\\' := by
    intro same
    rw [same] at code
    exact notBackslash code.symm
  have quote : Char.ofNat n ≠ '\'' := by
    intro same
    rw [same] at code
    exact notQuote code.symm
  simp [readOctet, backslash, code]

theorem read_hexadecimal (n : Nat) (bound : n < 256) (rest : List Char) :
    readOctet ('\\' :: 'x' :: hexDigit (n / 16) :: hexDigit (n % 16) :: rest) = some (UInt8.ofNat n, rest) := by
  have high := hex_value (n / 16) (by omega)
  have low := hex_value (n % 16) (by omega)
  rw [readOctet, high, low, Nat.div_add_mod]

theorem read_octet (octet : UInt8) (rest : List Char) : readOctet (escapeOctet octet ++ rest) = some (octet, rest) := by
  have bound : octet.toNat < 256 := octet.toNat_lt
  have whole : UInt8.ofNat octet.toNat = octet := UInt8.ofNat_toNat
  rw [escapeOctet]
  generalize octet.toNat = n at *
  subst whole
  by_cases named : n = 0x5C ∨ n = 0x27 ∨ n = 0x0A ∨ n = 0x09 ∨ n = 0x0D
  · rcases named with rfl | rfl | rfl | rfl | rfl <;> rfl
  · simp only [not_or] at named
    obtain ⟨backslash, quote, newline, tab, feed⟩ := named
    rw [if_neg backslash, if_neg quote, if_neg newline, if_neg tab, if_neg feed]
    by_cases printable : 0x20 ≤ n ∧ n ≤ 0x7E
    · rw [if_pos printable]
      exact read_printable n (by omega) backslash quote rest
    · rw [if_neg printable]
      exact read_hexadecimal n bound rest

end Value

end CallContracts
