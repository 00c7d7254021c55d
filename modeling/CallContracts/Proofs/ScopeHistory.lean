import CallContracts.Declaration.Parse

set_option autoImplicit false

namespace CallContracts

-- Handles are numbered in the order in which they are made. A number that no handle has stands for none.
inductive ScopeAction where
  | create (name : String)
  | share (handle : Nat)
  | define (handle : Nat) (t : Ty)
  | defineAs (handle : Nat) (name : String) (t : Ty)
  | refer (handle : Nat) (name : String)
  | parse (handle : Nat) (text : String)

structure ScopeState where
  bindings : Bindings
  handles : List Scope
  references : List Reference
  declarations : List Declaration

namespace ScopeState

def initial : ScopeState := ⟨.empty, [], [], []⟩

def act (state : ScopeState) : ScopeAction → ScopeState
  | .create name =>
      { state with
        bindings := (state.bindings.newScope name).2
        handles := state.handles ++ [(state.bindings.newScope name).1] }
  | .share handle =>
      match state.handles[handle]? with
      | some scope => { state with handles := state.handles ++ [scope] }
      | none => state
  | .define handle t =>
      match state.handles[handle]? with
      | some scope => { state with bindings := state.bindings.define scope t }
      | none => state
  | .defineAs handle name t =>
      match state.handles[handle]? with
      | some scope => { state with bindings := state.bindings.defineAs scope name t }
      | none => state
  | .refer handle name =>
      match state.handles[handle]? with
      | some scope => { state with references := state.references ++ [⟨name, scope⟩] }
      | none => state
  | .parse handle text =>
      match state.handles[handle]? with
      | some scope =>
          match Declaration.parse state.bindings scope text with
          | .ok d => { state with declarations := state.declarations ++ [d] }
          | .error _ => state
      | none => state

def run (history : List ScopeAction) : ScopeState := history.foldl act initial

theorem run_append (before after : List ScopeAction) : run (before ++ after) = after.foldl act (run before) :=
  List.foldl_append

end ScopeState

namespace Ledger

end Ledger

namespace ScopeAction

end ScopeAction

end CallContracts
