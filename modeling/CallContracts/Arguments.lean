import CallContracts.Value.Basic

set_option autoImplicit false

namespace CallContracts

structure Arguments where
  positional : List Value
  keyword : List (String × Value)

namespace Arguments

def empty : Arguments := ⟨[], []⟩

def size (args : Arguments) : Nat := args.positional.length + args.keyword.length

def isEmpty (args : Arguments) : Bool := args.positional.isEmpty && args.keyword.isEmpty

def atPosition (args : Arguments) (index : Nat) : Option Value := args.positional[index]?

def named (args : Arguments) (name : String) : Option Value := args.keyword.lookup name

def lookup (args : Arguments) (index : Nat) (name : String) : Option Value :=
  args.atPosition index <|> args.named name

end Arguments

end CallContracts
