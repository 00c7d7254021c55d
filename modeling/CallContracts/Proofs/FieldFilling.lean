import CallContracts.Construction
import CallContracts.Proofs.ExceptMap

set_option autoImplicit false

namespace CallContracts

namespace Slots

variable (fields : List String) (positional : List Value)

end Slots

section Completion

variable (args : Arguments) (fields : List String)

end Completion

namespace Slots

end Slots

namespace Ty

variable (t : Ty) (args : Arguments)

end Ty

end CallContracts
