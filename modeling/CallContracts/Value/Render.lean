import CallContracts.Decimal.Layout
import CallContracts.Text.Joined
import CallContracts.Value.Basic

set_option autoImplicit false

namespace CallContracts

namespace Value

def floatLayout : Decimal.Layout := ⟨-4, 16, true, 2, "nan"⟩

def escapeText (c : Char) : List Char :=
  if c = '\\' then ['\\', '\\'] else if c = '\'' then ['\\', '\''] else [c]

def hexDigit (n : Nat) : Char := if n < 10 then Char.ofNat (48 + n) else Char.ofNat (87 + n)

def escapeOctet (octet : UInt8) : List Char :=
  let n := octet.toNat
  if n = 0x5C then ['\\', '\\']
  else if n = 0x27 then ['\\', '\'']
  else if n = 0x0A then ['\\', 'n']
  else if n = 0x09 then ['\\', 't']
  else if n = 0x0D then ['\\', 'r']
  else if 0x20 ≤ n ∧ n ≤ 0x7E then [Char.ofNat n]
  else ['\\', 'x', hexDigit (n / 16), hexDigit (n % 16)]

def renderTuple : List String → String
  | [item] => "(" ++ item ++ ",)"
  | items => "(" ++ Text.joined items ++ ")"

def renderSet : List String → String
  | [] => "set()"
  | items => "\x7b" ++ Text.joined items ++ "\x7d"

mutual

def render : Value → String
  | .absent => "None"
  | .bool b => if b then "True" else "False"
  | .int n => toString n.toInt
  | .float x => Decimal.write floatLayout x
  | .str text => String.ofList ('\'' :: text.toList.flatMap escapeText ++ ['\''])
  | .bytes octets => String.ofList ('b' :: '\'' :: octets.flatMap escapeOctet ++ ['\''])
  | .list items => "[" ++ Text.joined (renderItems items) ++ "]"
  | .tuple items => renderTuple (renderItems items)
  | .set items => renderSet (renderItems items)
  | .dict entries => "\x7b" ++ Text.joined (renderEntries entries) ++ "\x7d"
  | .object type fields => type.name ++ "(" ++ Text.joined (renderFields fields) ++ ")"

def renderItems : List Value → List String
  | [] => []
  | v :: vs => v.render :: renderItems vs

def renderEntries : List (Value × Value) → List String
  | [] => []
  | (k, v) :: vs => (k.render ++ ": " ++ v.render) :: renderEntries vs

def renderFields : List (String × Value) → List String
  | [] => []
  | (name, v) :: vs => (name ++ "=" ++ v.render) :: renderFields vs

end

def display : Value → String
  | .str text => text
  | v => v.render

theorem render_items_map (vs : List Value) : renderItems vs = vs.map render := by
  induction vs with
  | nil => simp [renderItems]
  | cons v vs ih => simp [renderItems, ih]

end Value

end CallContracts
