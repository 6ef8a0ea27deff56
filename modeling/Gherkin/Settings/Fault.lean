/-
  Gherkin.Settings.Fault

  What can be wrong with a setting. A fault names the setting it was found in.
-/

namespace Gherkin

/-- A setting that cannot be used. Texts are kept without the blanks around them. -/
inductive SettingFault where
  /-- A tag expression with an empty or a blank-holding name. -/
  | tagExpression (key text : String)
  /-- A text that is no truth value. -/
  | notBoolean (key text : String)
  deriving DecidableEq, Repr

namespace SettingFault

/-- The setting at fault. -/
def key : SettingFault → String
  | tagExpression key _ => key
  | notBoolean key _ => key

/-- What is wrong. -/
def detail : SettingFault → String
  | tagExpression _ text => s!"`{text}` is not a valid tag expression"
  | notBoolean _ text => s!"expected a boolean, found `{text}`"

/-- The wording of a fault. -/
def message (fault : SettingFault) : String :=
  s!"invalid configuration for {fault.key}: {fault.detail}"

/-- The same fault, found in the setting `key`. -/
def inSetting (key : String) : SettingFault → SettingFault
  | tagExpression _ text => tagExpression key text
  | notBoolean _ text => notBoolean key text

end SettingFault

end Gherkin
