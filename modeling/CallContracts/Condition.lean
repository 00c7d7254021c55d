import CallContracts.Value.Render

set_option autoImplicit false

namespace CallContracts

structure Condition where
  label : String
  test : Value → Bool

namespace Condition

def unlabelled (test : Value → Bool) : Condition := ⟨"<condition>", test⟩

def isPositive (v : Value) : Bool := v.asNumber.any Binary64.isPositive

def isNonNegative (v : Value) : Bool := v.asNumber.any Binary64.isNonNegative

def isFloat (v : Value) : Bool := v.asFloat.isSome

def isEven (v : Value) : Bool := v.asInt.any fun n => n % 2 == 0

def isNonemptyText (v : Value) : Bool := v.asStr.any fun text => !text.isEmpty

def hasAtMost (bound : Int) (v : Value) : Bool := v.elements.any fun items => (items.length : Int) ≤ bound

def rendersWithin (bound : Int) (v : Value) : Bool := (v.render.length : Int) ≤ bound

end Condition

end CallContracts
