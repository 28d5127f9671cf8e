import Mathlib.Data.List.Basic

/-!
# The database's locale

Text order, `lower` and `ILIKE` depend on the collation the database was created with,
which is not the repository's to say.
-/

namespace Woodgate.Postgres

structure DbLocale where
  /-- `ORDER BY` on a text column -/
  le : String → String → Bool
  lower : String → String
  /-- `value ILIKE pattern` -/
  ilike : (value pattern : String) → Bool

/-- `LIKE`, by recursion on the pattern. -/
def like : List Char → List Char → Bool
  | [], value => value.isEmpty
  | '%' :: pattern, value => value.tails.any (like pattern)
  | '_' :: pattern, _ :: value => like pattern value
  | '\\' :: c :: pattern, x :: value => decide (c = x) && like pattern value
  | c :: pattern, x :: value => decide (c = x) && like pattern value
  | _ :: _, [] => false

def leCodePoints : List Char → List Char → Bool
  | [], _ => true
  | _ :: _, [] => false
  | a :: as, b :: bs => if a = b then leCodePoints as bs else decide (a.toNat < b.toNat)

/-- The C locale: order by code points, letters are those of ASCII. -/
def DbLocale.c : DbLocale where
  le a b := leCodePoints a.toList b.toList
  lower a := String.ofList (a.toList.map Char.toLower)
  ilike value pattern := like (pattern.toList.map Char.toLower) (value.toList.map Char.toLower)

example : DbLocale.c.ilike "Front desk" "%DESK%" = true := by decide

end Woodgate.Postgres
