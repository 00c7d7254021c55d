import CallContracts.Declaration.Basic

set_option autoImplicit false

namespace CallContracts

inductive ParameterKind where
  | positional
  | defaulted (default : Value)
  | keywordOnly (default : Option Value)
  | extraPositional
  | extraKeyword

structure Parameter where
  name : String
  kind : ParameterKind

structure Signature where
  parameters : List Parameter
  declarations : List (String × Declaration)
  returns : Option Declaration

namespace Signature

def empty : Signature := ⟨[], [], none⟩

def parameter (signature : Signature) (name : String) (kind : ParameterKind) : Signature :=
  { signature with parameters := signature.parameters ++ [⟨name, kind⟩] }

def declare (signature : Signature) (name : String) (d : Declaration) : Signature :=
  { signature with declarations := (name, d) :: signature.declarations.filter fun entry => entry.1 != name }

def returning (signature : Signature) (d : Declaration) : Signature := { signature with returns := some d }

def find? (signature : Signature) (name : String) : Option Parameter :=
  signature.parameters.find? fun parameter => parameter.name == name

def declaration? (signature : Signature) (name : String) : Option Declaration := signature.declarations.lookup name

def default? (signature : Signature) (name : String) : Option Value :=
  match (signature.find? name).map Parameter.kind with
  | some (.defaulted v) => some v
  | some (.keywordOnly v) => v
  | _ => none

theorem declaration_declare (signature : Signature) (name query : String) (d : Declaration) :
    (signature.declare name d).declaration? query =
      if query = name then some d else signature.declaration? query := by
  unfold declaration? declare
  by_cases same : query = name
  · simp [same]
  · have different : (query == name) = false := by simpa using same
    simp only [List.lookup_cons, different, same, if_false]
    induction signature.declarations with
    | nil => rfl
    | cons entry rest ih =>
        obtain ⟨key, held⟩ := entry
        by_cases kept : key = name
        · simp [kept, List.lookup_cons, different, ih]
        · by_cases found : query = key <;> simp [kept, found, List.lookup_cons, ih]

end Signature

end CallContracts
