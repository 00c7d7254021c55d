import CallContracts.Arguments
import CallContracts.Violation

set_option autoImplicit false

namespace CallContracts

inductive ConstructionFault where
  | keywordsNotAccepted
  | tooManyArguments (given : Nat)
  | noOwnValue
  | notIterable (typeName : String)
  | wrongArgument (expected received : String)
  | tooManyPositionals (fields given : Nat)
  | unexpectedKeyword (name : String)
  | multipleValues (name : String)
  | missingField (name : String)
deriving DecidableEq

def ConstructionFault.reason : ConstructionFault → String
  | .keywordsNotAccepted => "keyword arguments are not accepted"
  | .tooManyArguments given => "takes at most 1 argument (" ++ toString given ++ " given)"
  | .noOwnValue => "has no value of its own"
  | .notIterable typeName => "`" ++ typeName ++ "` object is not iterable"
  | .wrongArgument expected received => "expected `" ++ expected ++ "` argument, received `" ++ received ++ "`"
  | .tooManyPositionals fields given =>
      "takes " ++ toString fields ++ " positional arguments but " ++ toString given ++ " were given"
  | .unexpectedKeyword name => "unexpected keyword argument `" ++ name ++ "`"
  | .multipleValues name => "multiple values for field `" ++ name ++ "`"
  | .missingField name => "missing field `" ++ name ++ "`"

def Builtin.zero : Builtin → Option Value
  | .object => none
  | .noneType => some .absent
  | .bool => some (.bool false)
  | .int => some (.int 0)
  | .float => some (.float ⟨0⟩)
  | .str => some (.str "")
  | .bytes => some (.bytes [])
  | .list => some (.list [])
  | .tuple => some (.tuple [])
  | .set => some (.set [])
  | .dict => some (.dict [])

def Value.iterated (source : Value) : Except ConstructionFault (List Value) :=
  match source.elements with
  | some items => .ok items
  | none => .error (.notIterable source.type.name)

def Builtin.convert (source : Value) : Builtin → Except ConstructionFault Value
  | .list => source.iterated.map .list
  | .tuple => source.iterated.map .tuple
  | .set => source.iterated.map Value.setOf
  | b => if source.isInstance (.builtin b) then .ok source else .error (.wrongArgument b.name source.type.name)

def Builtin.construct (b : Builtin) (args : Arguments) : Except ConstructionFault Value :=
  if args.keyword.isEmpty then
    match args.positional with
    | [] =>
        match b.zero with
        | some v => .ok v
        | none => .error .noOwnValue
    | [source] => b.convert source
    | given => .error (.tooManyArguments given.length)
  else .error .keywordsNotAccepted

abbrev Slots := List (String × Option Value)

namespace Slots

def ofPositional : List String → List Value → Slots
  | [], _ => []
  | name :: names, [] => (name, none) :: ofPositional names []
  | name :: names, v :: vs => (name, some v) :: ofPositional names vs

def fill (name : String) (v : Value) : Slots → Except ConstructionFault Slots
  | [] => .error (.unexpectedKeyword name)
  | (field, held) :: rest =>
      if field = name then
        match held with
        | none => .ok ((field, some v) :: rest)
        | some _ => .error (.multipleValues name)
      else (fill name v rest).map ((field, held) :: ·)

def fillAll (slots : Slots) : List (String × Value) → Except ConstructionFault Slots
  | [] => .ok slots
  | (name, v) :: rest =>
      match fill name v slots with
      | .ok filled => fillAll filled rest
      | .error fault => .error fault

def complete : Slots → Except ConstructionFault (List (String × Value))
  | [] => .ok []
  | (name, none) :: _ => .error (.missingField name)
  | (name, some v) :: rest => (complete rest).map ((name, v) :: ·)

end Slots

def Ty.constructObject (t : Ty) (args : Arguments) : Except ConstructionFault Value :=
  let fields := t.fields
  if fields.length < args.positional.length then
    .error (.tooManyPositionals fields.length args.positional.length)
  else
    match (Slots.ofPositional fields args.positional).fillAll args.keyword with
    | .error fault => .error fault
    | .ok slots => slots.complete.map (.object t)

def Ty.construct (t : Ty) (args : Arguments) : Except ConstructionFault Value :=
  match t with
  | .builtin b => b.construct args
  | .declared .. => t.constructObject args

def Ty.instantiate (t : Ty) (args : Arguments) : Except Violation Value :=
  (t.construct args).mapError fun fault => Violation.construction t.name fault.reason

end CallContracts
