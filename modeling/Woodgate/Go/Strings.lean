import Mathlib.Data.List.Basic

/-!
# Go's string functions

`strings.TrimSpace` cuts every leading and trailing code point with Unicode's White_Space
property; `url.QueryEscape` works on the bytes of the UTF-8 encoding.
-/

namespace Woodgate.Go

/-- `unicode.IsSpace`. -/
def isSpace (c : Char) : Bool :=
  let n := c.toNat
  (0x09 ≤ n && n ≤ 0x0D) || n = 0x20 || n = 0x85 || n = 0xA0 || n = 0x1680 ||
    (0x2000 ≤ n && n ≤ 0x200A) || n = 0x2028 || n = 0x2029 || n = 0x202F || n = 0x205F || n = 0x3000

/-- `strings.TrimSpace`. -/
def trimSpace (s : String) : String :=
  String.ofList ((s.toList.dropWhile isSpace).reverse.dropWhile isSpace).reverse

example : trimSpace "\t a b \n" = "a b" := by decide

/-- `postgres.NullString`: the empty text is stored as `NULL`. -/
def nullString (value : String) : Option String :=
  if value = "" then none else some value

/-- One character of `strconv.Quote`, which is taken to be printable beyond ASCII. -/
def quoteChar (c : Char) : List Char :=
  let hex (n : Nat) : List Char := ['\\', 'x', Nat.digitChar (n / 16), Nat.digitChar (n % 16)]
  match c.toNat with
  | 0x07 => ['\\', 'a']
  | 0x08 => ['\\', 'b']
  | 0x09 => ['\\', 't']
  | 0x0A => ['\\', 'n']
  | 0x0B => ['\\', 'v']
  | 0x0C => ['\\', 'f']
  | 0x0D => ['\\', 'r']
  | 0x22 => ['\\', c]
  | 0x5C => ['\\', c]
  | n => if n < 0x20 ∨ n = 0x7F then hex n else [c]

/-- The verb `%q` for a string. -/
def quote (s : String) : String := "\"" ++ String.ofList (s.toList.flatMap quoteChar) ++ "\""

/-- The byte stands for itself in a query. -/
def isUnreserved (c : Char) : Bool := c.isAlphanum || ['-', '_', '.', '~'].contains c

/-- One byte of `url.QueryEscape`. -/
def escapeByte (b : UInt8) : List Char :=
  let c := Char.ofNat b.toNat
  if c = ' ' then ['+']
  else if isUnreserved c then [c]
  else ['%', (Nat.digitChar (b.toNat / 16)).toUpper, (Nat.digitChar (b.toNat % 16)).toUpper]

/-- `url.QueryEscape` -/
def queryEscape (s : String) : String := String.ofList (s.toUTF8.toList.flatMap escapeByte)

end Woodgate.Go
