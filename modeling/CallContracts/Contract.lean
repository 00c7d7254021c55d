import CallContracts.Declaration.Check
import CallContracts.Signature

set_option autoImplicit false

namespace CallContracts

structure Contract where
  parameters : List String
  keywordOnly : List String
  extraPositional : Option String
  extraKeyword : Option String
  declarations : List (String × Declaration)
  returns : Option Declaration

structure Obligation where
  site : Site
  value : Value
  declaration : Declaration

namespace Parameter

def takesPosition (p : Parameter) : Bool :=
  match p.kind with
  | .positional => true
  | .defaulted _ => true
  | _ => false

def isKeywordOnly (p : Parameter) : Bool :=
  match p.kind with
  | .keywordOnly _ => true
  | _ => false

def collectsPositional (p : Parameter) : Bool :=
  match p.kind with
  | .extraPositional => true
  | _ => false

def collectsKeyword (p : Parameter) : Bool :=
  match p.kind with
  | .extraKeyword => true
  | _ => false

end Parameter

namespace Contract

def ofSignature (signature : Signature) : Contract where
  parameters := (signature.parameters.filter Parameter.takesPosition).map Parameter.name
  keywordOnly := (signature.parameters.filter Parameter.isKeywordOnly).map Parameter.name
  extraPositional := (signature.parameters.find? Parameter.collectsPositional).map Parameter.name
  extraKeyword := (signature.parameters.find? Parameter.collectsKeyword).map Parameter.name
  declarations := signature.declarations
  returns := signature.returns

def declaration? (contract : Contract) (name : String) : Option Declaration := contract.declarations.lookup name

def positionalName? (contract : Contract) (index : Nat) : Option String :=
  contract.parameters[index]? <|> contract.extraPositional

def positionalObligation (contract : Contract) (index : Nat) (v : Value) : Option Obligation := do
  let name ← contract.positionalName? index
  let d ← contract.declaration? name
  return ⟨.positional (index + 1) name, v, d⟩

def keywordDeclaration? (contract : Contract) (name : String) : Option Declaration :=
  if name ∈ contract.parameters ∨ name ∈ contract.keywordOnly then contract.declaration? name
  else contract.extraKeyword.bind contract.declaration?

def keywordObligation (contract : Contract) (name : String) (v : Value) : Option Obligation :=
  (contract.keywordDeclaration? name).map fun d => ⟨.keyword name, v, d⟩

def bind (contract : Contract) (args : Arguments) : List Obligation :=
  (args.positional.zipIdx.filterMap fun (v, index) => contract.positionalObligation index v) ++
    args.keyword.filterMap fun (name, v) => contract.keywordObligation name v

def checkObligations (bindings : Bindings) (function : String) : List Obligation → Except Violation Unit
  | [] => .ok ()
  | o :: rest =>
      match o.declaration.check bindings ⟨function, o.site⟩ o.value with
      | .ok () => checkObligations bindings function rest
      | .error violation => .error (violation.within "check_arguments")

def checkArguments (bindings : Bindings) (function : String) (contract : Contract) (args : Arguments) :
    Except Violation Unit :=
  checkObligations bindings function (contract.bind args)

end Contract

end CallContracts
