import CallContracts.Proofs.Agreement
import CallContracts.Proofs.SuppliedArguments

set_option autoImplicit false

namespace CallContracts

namespace Signature

variable (bindings : Bindings) (function : String) (signature : Signature)

end Signature

namespace Contract

variable (bindings : Bindings) (function : String) (signature : Signature)

end Contract

end CallContracts
