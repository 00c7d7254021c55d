import CallContracts.Proofs.Acceptance
import CallContracts.Proofs.ContainerKeys
import CallContracts.Proofs.ScopeHistory

set_option autoImplicit false

namespace CallContracts

namespace ScopeState

open ScopeAction

end ScopeState

end CallContracts
