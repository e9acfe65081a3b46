import DeviceBus.Text.Blank

/-! # How much is logged -/

namespace DeviceBus

inductive Severity where
  | error
  | warn
  | info
  | debug
  | trace
  deriving DecidableEq

/-- The severity of a name, in any case and with blanks around it. An unknown
name stands for `info`. Only ASCII letters have one of these names in lower
case. -/
def Severity.ofName (name : String) : Severity :=
  let name := String.ofList ((Text.trim name.toList).map Char.toLower)
  if name = "error" then .error
  else if name = "warn" ∨ name = "warning" then .warn
  else if name = "debug" then .debug
  else if name = "trace" then .trace
  else .info

end DeviceBus
