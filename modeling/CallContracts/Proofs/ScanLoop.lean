import CallContracts.Proofs.Spelling

set_option autoImplicit false

namespace CallContracts

namespace Token

-- A rule takes a piece off the front of a text, the empty piece where it does not apply.
structure Rule where
  takes : List Char → List Char
  kind : List Char → Option TokenKind

namespace Rule

def takeWord : List Char → List Char
  | [] => []
  | c :: rest => if startsWord c then c :: rest.takeWhile continuesWord else []

def word : Rule := ⟨takeWord, fun piece => some (.ofWord (String.ofList piece))⟩

def space : Rule := ⟨List.takeWhile Text.isBlank, fun _ => none⟩

def token (rule : Rule) (piece : List Char) (offset : Nat) : List Token :=
  (rule.kind piece).toList.map fun kind => ⟨kind, String.ofList piece, offset⟩

end Rule

structure Scanner where
  cursor : Text.Cursor
  found : List Token

namespace Scanner

def start (text : String) : Scanner := ⟨.start text, []⟩

def takes (s : Scanner) (ahead : List Char) (rule : Rule) : Scanner :=
  ⟨s.cursor.advance (Text.byteSize (rule.takes ahead)), s.found ++ rule.token (rule.takes ahead) s.cursor.position⟩

end Scanner

namespace Scanner

variable (text : String)

end Scanner

end Token

end CallContracts
