import CallContracts.Call.Guard

set_option autoImplicit false

namespace CallContracts

inductive Fault where
  | violation (v : Violation)
  | domain (message : String)

instance : OfViolation Fault := ⟨.violation⟩

-- A routine calls only routines older than itself, by number.
inductive Script where
  | give (v : Value)
  | lookup (index : Nat) (name : String) (fallback : Value)
  | count
  | pack
  | raise (message : String)
  | violate (v : Violation)
  | construct (type : Ty)
  | lazyArguments
  | lazyItems (items : List (Except String Value))
  | call (routine : Nat)

structure Routine where
  name : String
  doc : Option String
  signature : Signature
  script : Script
  enforcement : Enforcement
  runs : Nat

structure Routines where
  table : List Routine
  produced : Nat

namespace Routines

def empty : Routines := ⟨[], 0⟩

def add (routines : Routines) (routine : Routine) : Routines :=
  { routines with table := routines.table ++ [routine] }

def modify (routines : Routines) (index : Nat) (change : Routine → Routine) : Routines :=
  { routines with table := routines.table.modify index change }

end Routines

abbrev Action (α : Type) := World Routines → Except Fault α × World Routines

namespace World

def countRun (world : World Routines) (index : Nat) : World Routines :=
  { world with state := world.state.modify index fun routine => { routine with runs := routine.runs + 1 } }

def countItem (world : World Routines) : World Routines :=
  { world with state := { world.state with produced := world.state.produced + 1 } }

end World

namespace Script

def argumentSource (args : Arguments) : Sequence Routines Fault :=
  .source (fun taken world => (args.positional[taken]?.map .ok, world)) 0

def itemSource (items : List (Except String Value)) : Sequence Routines Fault :=
  .source
    (fun taken world =>
      match items[taken]? with
      | some item => (some (item.mapError .domain), world.countItem)
      | none => (none, world))
    0

def run (callee : Nat → Arguments → Action (Outcome Routines Fault)) (script : Script) (args : Arguments) :
    Action (Outcome Routines Fault) := fun world =>
  match script with
  | .give v => (.ok (.value v), world)
  | .lookup index name fallback => (.ok (.value ((args.lookup index name).getD fallback)), world)
  | .count => (.ok (.value (.int (Int64.ofNat args.size))), world)
  | .pack =>
      (.ok (.value (.tuple [.list args.positional, .dict (args.keyword.map fun (name, v) => (.str name, v))])), world)
  | .raise message => (.error (.domain message), world)
  | .violate v => (.error (.violation v), world)
  | .construct type =>
      match type.instantiate args with
      | .ok v => (.ok (.value v), world)
      | .error v => (.error (.violation v), world)
  | .lazyArguments => (.ok (.lazy (argumentSource args)), world)
  | .lazyItems items => (.ok (.lazy (itemSource items)), world)
  | .call routine => callee routine args world

end Script

namespace Routine

def toCallable (callee : Nat → Arguments → Action (Outcome Routines Fault)) (index : Nat) (routine : Routine) :
    Callable Routines Fault where
  name := routine.name
  doc := routine.doc
  signature := routine.signature
  call := fun args world => routine.script.run callee args (world.countRun index)

def invokeBelow : Nat → Nat → Arguments → Action (Outcome Routines Fault)
  | 0, _, _, world => (.error (.domain "no such routine"), world)
  | bound + 1, index, args, world =>
      if index = bound then
        match world.state.table[index]? with
        | some routine =>
            ((routine.toCallable (invokeBelow bound) index).enforced routine.enforcement).call args world
        | none => (.error (.domain "no such routine"), world)
      else invokeBelow bound index args world

def invoke (index : Nat) (args : Arguments) : Action (Outcome Routines Fault) := invokeBelow (index + 1) index args

end Routine

end CallContracts
