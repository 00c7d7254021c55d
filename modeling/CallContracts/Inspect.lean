import CallContracts.Signature
import CallContracts.Text.Quoted

set_option autoImplicit false

namespace CallContracts

def applied (constructor : String) (arguments : List String) : String :=
  constructor ++ "(" ++ Text.joined arguments ++ ")"

def bracketed (items : List String) : String := "[" ++ Text.joined items ++ "]"

def braced (items : List String) : String :=
  if items.isEmpty then "\x7b\x7d" else "\x7b" ++ Text.joined items ++ "\x7d"

def fielded (constructor : String) (fields : List (String × String)) : String :=
  constructor ++ " \x7b " ++ Text.joined (fields.map fun (name, text) => name ++ ": " ++ text) ++ " \x7d"

def inspectOption : Option String → String
  | none => "None"
  | some text => applied "Some" [text]

def Ty.inspect (t : Ty) : String := applied "Type" [t.name]

def Reference.inspect (r : Reference) : String :=
  applied "Forward" [Text.quoted r.name ++ " in " ++ Text.quoted r.scope.name]

def Condition.inspect (c : Condition) : String := applied "Predicate" [c.label]

namespace Value

def inspectLayout : Decimal.Layout := ⟨-4, 16, false, 1, "NaN"⟩

mutual

def inspect : Value → String
  | .absent => "None"
  | .bool b => applied "Bool" [if b then "true" else "false"]
  | .int n => applied "Int" [toString n.toInt]
  | .float x => applied "Float" [Decimal.write inspectLayout x]
  | .str text => applied "Str" [Text.quoted text]
  | .bytes octets => applied "Bytes" [bracketed (octets.map fun octet => toString octet.toNat)]
  | .list items => applied "List" [bracketed (inspectItems items)]
  | .tuple items => applied "Tuple" [bracketed (inspectItems items)]
  | .set items => applied "Set" [bracketed (inspectItems items)]
  | .dict entries => applied "Dict" [bracketed (inspectEntries entries)]
  | .object type fields =>
      applied "Object"
        [fielded "Instance" [("class", type.inspect), ("fields", bracketed (inspectFields fields))]]

def inspectItems : List Value → List String
  | [] => []
  | v :: vs => v.inspect :: inspectItems vs

def inspectEntries : List (Value × Value) → List String
  | [] => []
  | (k, v) :: vs => applied "" [k.inspect, v.inspect] :: inspectEntries vs

def inspectFields : List (String × Value) → List String
  | [] => []
  | (name, v) :: vs => applied "" [Text.quoted name, v.inspect] :: inspectFields vs

end

end Value

namespace Declaration

mutual

def inspect : Declaration → String
  | .exact type => applied "Exact" [type.inspect]
  | .union members => applied "Union" [bracketed (inspectMembers members)]
  | .absent => "NoneOnly"
  | .collection entries => applied "Collection" [bracketed (inspectEntries entries)]
  | .condition c => applied "Predicate" [c.inspect]
  | .reference r => applied "Forward" [r.inspect]

def inspectMembers : List (Option Declaration) → List String
  | [] => []
  | none :: rest => inspectOption none :: inspectMembers rest
  | some d :: rest => inspectOption (some d.inspect) :: inspectMembers rest

def inspectEntries : List (Ty × Declaration) → List String
  | [] => []
  | (container, d) :: rest => applied "" [container.inspect, d.inspect] :: inspectEntries rest

end

end Declaration

def ParameterKind.inspect : ParameterKind → String
  | .positional => "Positional"
  | .defaulted v => applied "Defaulted" [v.inspect]
  | .keywordOnly v => applied "KeywordOnly" [inspectOption (v.map Value.inspect)]
  | .extraPositional => "ExtraPositional"
  | .extraKeyword => "ExtraKeyword"

def Parameter.inspect (p : Parameter) : String :=
  fielded "Parameter" [("name", Text.quoted p.name), ("kind", p.kind.inspect)]

def Signature.inspect (signature : Signature) : String :=
  fielded "Signature"
    [("parameters", bracketed (signature.parameters.map Parameter.inspect)),
      ("annotations", braced (signature.declarations.map fun (name, d) => Text.quoted name ++ ": " ++ d.inspect)),
      ("returns", inspectOption (signature.returns.map Declaration.inspect))]

def inspectFunction (name : String) (signature : Signature) : String :=
  "Function \x7b name: " ++ Text.quoted name ++ ", signature: " ++ signature.inspect ++ ", .. \x7d"

end CallContracts
