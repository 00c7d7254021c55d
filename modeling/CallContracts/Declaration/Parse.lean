import CallContracts.Declaration.Basic
import CallContracts.Declaration.Token

set_option autoImplicit false

namespace CallContracts

inductive Frame where
  | union (members : List (Option Declaration))
  | entry (entries : List (Ty × Declaration)) (container : Ty)

-- What has to come next, with what has been read. The innermost frame is first.
inductive Expectation where
  | declaration (frames : List Frame)
  | member (members : List (Option Declaration)) (frames : List Frame)
  | memberEnd (members : List (Option Declaration)) (frames : List Frame)
  | container (entries : List (Ty × Declaration)) (frames : List Frame)
  | colon (entries : List (Ty × Declaration)) (container : Ty) (frames : List Frame)
  | entryEnd (entries : List (Ty × Declaration)) (frames : List Frame)
  | finished (result : Declaration)

namespace Expectation

def wanted : Expectation → String
  | .declaration _ => "a declaration"
  | .member _ _ => "a declaration"
  | .memberEnd _ _ => "`,` or `)`"
  | .container _ _ => "a container type"
  | .colon _ _ _ => "`:`"
  | .entryEnd _ _ => "`,` or `\x7d`"
  | .finished _ => "end of declaration"

def complete (d : Declaration) : List Frame → Expectation
  | [] => .finished d
  | .union members :: frames => .memberEnd (members ++ [some d]) frames
  | .entry entries key :: frames => .entryEnd (entries ++ [(key, d)]) frames

end Expectation

namespace Declaration

def ofName (scope : Scope) (name : String) : Declaration :=
  match Builtin.ofName? name with
  | some b => .exact (.builtin b)
  | none => .reference ⟨name, scope⟩

def containerOfName (bindings : Bindings) (scope : Scope) (name : String) : Except ParseError Ty :=
  match Builtin.ofName? name with
  | some b => .ok (.builtin b)
  | none =>
      match bindings.find? scope name with
      | some t => .ok t
      | none => .error (.unknownContainer name)

def start (scope : Scope) (frames : List Frame) (token : Token) : Except ParseError Expectation :=
  match token.kind with
  | .absence => .ok (.complete .absent frames)
  | .identifier => .ok (.complete (ofName scope token.value) frames)
  | .openParen => .ok (.member [] frames)
  | .openCurly => .ok (.container [] frames)
  | _ => .error (token.unexpected (Expectation.wanted (.declaration frames)))

def step (bindings : Bindings) (scope : Scope) (state : Expectation) (token : Token) : Except ParseError Expectation :=
  match state, token.kind with
  | .declaration frames, _ => start scope frames token
  | .member members frames, .closeParen => .ok (.complete (.union members) frames)
  | .member members frames, .absence => .ok (.memberEnd (members ++ [none]) frames)
  | .member members frames, _ => start scope (.union members :: frames) token
  | .memberEnd members frames, .comma => .ok (.member members frames)
  | .memberEnd members frames, .closeParen => .ok (.complete (.union members) frames)
  | .container entries frames, .closeCurly => .ok (.complete (.collection entries) frames)
  | .container entries frames, .identifier =>
      (containerOfName bindings scope token.value).map fun container => .colon entries container frames
  | .colon entries container frames, .colon => .ok (.declaration (.entry entries container :: frames))
  | .entryEnd entries frames, .comma => .ok (.container entries frames)
  | .entryEnd entries frames, .closeCurly => .ok (.complete (.collection entries) frames)
  | state, _ => .error (token.unexpected state.wanted)

def readFrom (bindings : Bindings) (scope : Scope) (size : Nat) :
    Expectation → List Token → Except ParseError Declaration
  | .finished d, [] => .ok d
  | state, [] => .error ((Token.eof size).unexpected state.wanted)
  | state, token :: tokens =>
      match step bindings scope state token with
      | .ok next => readFrom bindings scope size next tokens
      | .error e => .error e

def parse (bindings : Bindings) (scope : Scope) (text : String) : Except ParseError Declaration :=
  match Token.scan 0 text.toList with
  | .ok tokens => readFrom bindings scope (Text.byteSize text.toList) (.declaration []) tokens
  | .error e => .error e

end Declaration

end CallContracts
