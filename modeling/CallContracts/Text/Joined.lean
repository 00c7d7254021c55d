set_option autoImplicit false

namespace CallContracts.Text

def joined (parts : List String) : String := ", ".intercalate parts

end CallContracts.Text
