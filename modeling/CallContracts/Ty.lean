set_option autoImplicit false

namespace CallContracts

inductive Builtin where
  | object
  | noneType
  | bool
  | int
  | float
  | str
  | bytes
  | list
  | tuple
  | set
  | dict
deriving DecidableEq

namespace Builtin

def name : Builtin → String
  | .object => "object"
  | .noneType => "NoneType"
  | .bool => "bool"
  | .int => "int"
  | .float => "float"
  | .str => "str"
  | .bytes => "bytes"
  | .list => "list"
  | .tuple => "tuple"
  | .set => "set"
  | .dict => "dict"

def all : List Builtin := [.object, .noneType, .bool, .int, .float, .str, .bytes, .list, .tuple, .set, .dict]

def ofName? (name : String) : Option Builtin := all.find? fun b => b.name == name

def base : Builtin → Option Builtin
  | .object => none
  | .bool => some .int
  | _ => some .object

def lineage : Builtin → List Builtin
  | .object => [.object]
  | .bool => [.bool, .int, .object]
  | b => [b, .object]

theorem all_complete (b : Builtin) : b ∈ all := by cases b <;> decide

theorem of_name_name (b : Builtin) : ofName? b.name = some b := by cases b <;> rfl

theorem lineage_cons (b : Builtin) : b.lineage = b :: (b.base.map lineage).getD [] := by cases b <;> rfl

end Builtin

-- Classes are told apart by their serial number, so two classes may share a name.
inductive Ty where
  | builtin (b : Builtin)
  | declared (serial : Nat) (name : String) (base : Ty) (ownFields : List String)
deriving DecidableEq

namespace Ty

def object : Ty := .builtin .object

def name : Ty → String
  | .builtin b => b.name
  | .declared _ name _ _ => name

def base : Ty → Option Ty
  | .builtin b => b.base.map .builtin
  | .declared _ _ base _ => some base

def fields : Ty → List String
  | .builtin _ => []
  | .declared _ _ base own => base.fields ++ own

def lineage : Ty → List Ty
  | .builtin b => b.lineage.map .builtin
  | .declared serial name base own => .declared serial name base own :: base.lineage

def isSubtypeOf (t u : Ty) : Bool := t.lineage.contains u

end Ty

structure Classes where
  count : Nat

namespace Classes

def empty : Classes := ⟨0⟩

def declare (classes : Classes) (name : String) (base : Ty) (fields : List String) : Ty × Classes :=
  (.declared classes.count name base fields, ⟨classes.count + 1⟩)

end Classes

end CallContracts
