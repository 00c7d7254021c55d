import CallContracts.Text.Blank
import CallContracts.Text.Offset
import CallContracts.Text.Quoted

set_option autoImplicit false

namespace CallContracts

-- Offsets count bytes.
inductive ParseError where
  | unrecognisedToken (token : String) (offset : Nat)
  | unexpectedToken (token : String) (offset : Nat) (expected : String)
  | unknownContainer (name : String)
deriving DecidableEq

def ParseError.message : ParseError → String
  | .unrecognisedToken token offset =>
      "unrecognised token " ++ Text.quoted token ++ " at offset " ++ toString offset
  | .unexpectedToken token offset expected =>
      "unexpected token " ++ Text.quoted token ++ " at offset " ++ toString offset ++ ", expected " ++ expected
  | .unknownContainer name => "unknown container type " ++ Text.quoted name

inductive TokenKind where
  | eof
  | identifier
  | openParen
  | closeParen
  | openCurly
  | closeCurly
  | colon
  | comma
  | absence
deriving DecidableEq

namespace TokenKind

def name : TokenKind → String
  | .eof => "EOF"
  | .identifier => "Identifier"
  | .openParen => "OpenParen"
  | .closeParen => "CloseParen"
  | .openCurly => "OpenCurly"
  | .closeCurly => "CloseCurly"
  | .colon => "Colon"
  | .comma => "Comma"
  | .absence => "None"

def ofPunctuation? (c : Char) : Option TokenKind :=
  if c = '(' then some .openParen
  else if c = ')' then some .closeParen
  else if c = '\x7b' then some .openCurly
  else if c = '\x7d' then some .closeCurly
  else if c = ':' then some .colon
  else if c = ',' then some .comma
  else none

def ofWord (word : String) : TokenKind := if word = "None" then .absence else .identifier

end TokenKind

structure Token where
  kind : TokenKind
  value : String
  offset : Nat
deriving DecidableEq

namespace Token

def display (token : Token) : String := token.kind.name ++ " (" ++ token.value ++ ")"

def eof (offset : Nat) : Token := ⟨.eof, "EOF", offset⟩

def unexpected (token : Token) (expected : String) : ParseError :=
  .unexpectedToken token.value token.offset expected

def startsWord (c : Char) : Bool := c.isAlpha || c == '_'

def continuesWord (c : Char) : Bool := c.isAlphanum || c == '_' || c == '.'

def scan (offset : Nat) : List Char → Except ParseError (List Token)
  | [] => .ok []
  | c :: rest =>
      if startsWord c then
        let word := c :: rest.takeWhile continuesWord
        let value := String.ofList word
        (scan (offset + Text.byteSize word) (rest.dropWhile continuesWord)).map (⟨.ofWord value, value, offset⟩ :: ·)
      else if Text.isBlank c then scan (offset + c.utf8Size) rest
      else
        match TokenKind.ofPunctuation? c with
        | some kind => (scan (offset + c.utf8Size) rest).map (⟨kind, String.singleton c, offset⟩ :: ·)
        | none => .error (.unrecognisedToken (String.singleton c) offset)
termination_by text => text.length
decreasing_by
  · exact Nat.lt_succ_of_le (List.dropWhile_sublist _).length_le
  · exact Nat.lt_succ_self _
  · exact Nat.lt_succ_self _

def tokenize (text : String) : Except ParseError (List Token) :=
  (scan 0 text.toList).map (· ++ [eof (Text.byteSize text.toList)])

end Token

-- The last token is never passed.
structure TokenStream where
  current : Token
  following : List Token

namespace TokenStream

def ofText (text : String) : Except ParseError TokenStream :=
  match Token.tokenize text with
  | .ok [] => .ok ⟨.eof 0, []⟩
  | .ok (token :: following) => .ok ⟨token, following⟩
  | .error e => .error e

def advance (stream : TokenStream) : TokenStream :=
  match stream.following with
  | [] => stream
  | token :: following => ⟨token, following⟩

def expect (stream : TokenStream) (kind : TokenKind) (expected : String) : Except ParseError (Token × TokenStream) :=
  if stream.current.kind = kind then .ok (stream.current, stream.advance)
  else .error (stream.current.unexpected expected)

end TokenStream

end CallContracts
