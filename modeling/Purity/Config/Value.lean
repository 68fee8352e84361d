/-
Values of configuration files, before anything is asked of them. Which
form a value has decides how it is read: the validation of settings
accepts some forms in place of others. Consumed by the reader of
configuration files, which makes values, and by the validation.
-/
import Purity.Decimal.Binary64

namespace Purity

/-- A value of any form. -/
inductive Value where
  | null
  | bool (b : Bool)
  | int (n : Int)
  | float (negative : Bool) (magnitude : Binary64)
  /-- The result of an undefined operation on numbers. -/
  | notANumber
  | text (s : String)
  /-- A date, a time, or both. -/
  | moment
  | list (items : List Value)
  /-- Keys and values, without a repeated key. -/
  | table (entries : List (String × Value))
  deriving Inhabited

/-- The value under a key of a table. Other values have no keys. -/
def Value.get? (key : String) : Value → Option Value
  | table entries => entries.lookup key
  | _ => none

end Purity
