import CallContracts.Text.Blank
import CallContracts.Text.Quoted

set_option autoImplicit false

namespace CallContracts

inductive Enforcement where
  | enabled
  | disabled
deriving DecidableEq

structure SettingError where
  text : String
deriving DecidableEq

def SettingError.message (e : SettingError) : String :=
  "unrecognised contract mode " ++ Text.quoted e.text ++
    ", expected one of on, off, enabled, disabled, true, false, 1, 0"

namespace Enforcement

def ofSetting (text : String) : Except SettingError Enforcement :=
  let word := (Text.trim text).map Char.toLower
  if word ∈ ["on", "enabled", "true", "1"] then .ok .enabled
  else if word ∈ ["off", "disabled", "false", "0"] then .ok .disabled
  else .error ⟨text⟩

def ofEnvironment (fallback : Enforcement) : Option String → Enforcement
  | none => fallback
  | some text =>
      match ofSetting text with
      | .ok enforcement => enforcement
      | .error _ => fallback

end Enforcement

end CallContracts
