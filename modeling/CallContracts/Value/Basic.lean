import CallContracts.Binary64
import CallContracts.Ty

set_option autoImplicit false

namespace CallContracts

-- A set keeps its elements in order of arrival, a dictionary its pairs as given.
inductive Value where
  | absent
  | bool (b : Bool)
  | int (n : Int64)
  | float (x : Binary64)
  | str (text : String)
  | bytes (octets : List UInt8)
  | list (items : List Value)
  | tuple (items : List Value)
  | set (items : List Value)
  | dict (entries : List (Value × Value))
  | object (type : Ty) (fields : List (String × Value))

namespace Value

def type : Value → Ty
  | .absent => .builtin .noneType
  | .bool _ => .builtin .bool
  | .int _ => .builtin .int
  | .float _ => .builtin .float
  | .str _ => .builtin .str
  | .bytes _ => .builtin .bytes
  | .list _ => .builtin .list
  | .tuple _ => .builtin .tuple
  | .set _ => .builtin .set
  | .dict _ => .builtin .dict
  | .object type _ => type

def isInstance (v : Value) (t : Ty) : Bool := v.type.isSubtypeOf t

def isAbsent : Value → Bool
  | .absent => true
  | _ => false

def elements : Value → Option (List Value)
  | .list items => some items
  | .tuple items => some items
  | .set items => some items
  | .dict entries => some (entries.map Prod.fst)
  | .str text => some (text.toList.map fun c => .str (String.singleton c))
  | .bytes octets => some (octets.map fun octet => .int (Int64.ofNat octet.toNat))
  | _ => none

def asInt : Value → Option Int64
  | .int n => some n
  | .bool b => some (if b then 1 else 0)
  | _ => none

def asFloat : Value → Option Binary64
  | .float x => some x
  | _ => none

def asStr : Value → Option String
  | .str text => some text
  | _ => none

def asNumber (v : Value) : Option Binary64 := v.asFloat <|> v.asInt.map Binary64.ofInt64

def field (v : Value) (name : String) : Option Value :=
  match v with
  | .object _ fields => fields.lookup name
  | _ => none

mutual

protected def beq : Value → Value → Bool
  | .absent, .absent => true
  | .bool a, .bool b => a == b
  | .int a, .int b => a == b
  | .float a, .float b => a == b
  | .str a, .str b => a == b
  | .bytes a, .bytes b => a == b
  | .list a, .list b => beqItems a b
  | .tuple a, .tuple b => beqItems a b
  | .set a, .set b => beqItems a b
  | .dict a, .dict b => beqEntries a b
  | .object s a, .object t b => s == t && beqFields a b
  | _, _ => false

def beqItems : List Value → List Value → Bool
  | [], [] => true
  | v :: vs, w :: ws => v.beq w && beqItems vs ws
  | _, _ => false

def beqEntries : List (Value × Value) → List (Value × Value) → Bool
  | [], [] => true
  | (k, v) :: vs, (l, w) :: ws => k.beq l && v.beq w && beqEntries vs ws
  | _, _ => false

def beqFields : List (String × Value) → List (String × Value) → Bool
  | [], [] => true
  | (m, v) :: vs, (n, w) :: ws => m == n && v.beq w && beqFields vs ws
  | _, _ => false

end

instance : BEq Value := ⟨Value.beq⟩

def distinctAfter (seen : List Value) : List Value → List Value
  | [] => []
  | v :: vs => if seen.any (· == v) then distinctAfter seen vs else v :: distinctAfter (seen ++ [v]) vs

def distinct (vs : List Value) : List Value := distinctAfter [] vs

def setOf (vs : List Value) : Value := .set (distinct vs)

end Value

end CallContracts
