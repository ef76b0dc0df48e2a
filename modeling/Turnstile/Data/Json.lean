import Turnstile.Data.Value

/-!
# JSON Text

Data values as JSON. The compact form has no white space; the pretty form puts
every item and member on a line of its own, indented by two spaces a level.
Only the quote, the backslash and the control characters below U+0020 are
escaped, with a short escape where there is one.

## Main definitions

* `Json.quote`: A text as a JSON string.
* `Json.compact`: The compact form of a value.
* `Json.pretty`: The pretty form of a value.
-/

namespace Turnstile

namespace Json

/-- A hexadecimal digit. -/
def hexDigit (n : Nat) : Char :=
  (Nat.digitChar (n % 16))

/-- A character within a JSON string. -/
def escape (c : Char) : List Char :=
  match c with
  | '"' => ['\\', '"']
  | '\\' => ['\\', '\\']
  | '\x08' => ['\\', 'b']
  | '\x0c' => ['\\', 'f']
  | '\n' => ['\\', 'n']
  | '\r' => ['\\', 'r']
  | '\t' => ['\\', 't']
  | c =>
    if c.toNat < 0x20 then
      ['\\', 'u', '0', '0', hexDigit (c.toNat / 16), hexDigit c.toNat]
    else [c]

/-- A text as a JSON string. -/
def quote (s : String) : String :=
  String.ofList ('"' :: s.toList.flatMap escape ++ ['"'])

/-- A boolean in JSON. -/
def boolText (b : Bool) : String :=
  if b then "true" else "false"

mutual

/-- The compact form of a value. -/
def compact : Value → String
  | .null => "null"
  | .bool b => boolText b
  | .int n => toString n
  | .real written => written
  | .text s => quote s
  | .list items => "[" ++ ",".intercalate (compactItems items) ++ "]"
  | .object members => "\x7b" ++ ",".intercalate (compactMembers members) ++ "\x7d"

/-- The compact forms of the items of a list. -/
def compactItems : List Value → List String
  | [] => []
  | v :: rest => compact v :: compactItems rest

/-- The compact forms of the members of an object. -/
def compactMembers : List (String × Value) → List String
  | [] => []
  | (name, v) :: rest => (quote name ++ ":" ++ compact v) :: compactMembers rest

end

/-- A line break and the indentation of a level. -/
def newline (level : Nat) : String :=
  String.ofList ('\n' :: List.replicate (2 * level) ' ')

/-- Items between brackets, each on a line of its own. -/
def block (left right : String) (level : Nat) (items : List String) : String :=
  if items.isEmpty then left ++ right
  else
    left ++ ",".intercalate (items.map (newline (level + 1) ++ ·)) ++ newline level ++ right

mutual

/-- The pretty form of a value at a level of indentation. -/
def prettyAt (level : Nat) : Value → String
  | .list items => block "[" "]" level (prettyItems (level + 1) items)
  | .object members => block "\x7b" "\x7d" level (prettyMembers (level + 1) members)
  | .null => "null"
  | .bool b => boolText b
  | .int n => toString n
  | .real written => written
  | .text s => quote s

/-- The pretty forms of the items of a list. -/
def prettyItems (level : Nat) : List Value → List String
  | [] => []
  | v :: rest => prettyAt level v :: prettyItems level rest

/-- The pretty forms of the members of an object. -/
def prettyMembers (level : Nat) : List (String × Value) → List String
  | [] => []
  | (name, v) :: rest => (quote name ++ ": " ++ prettyAt level v) :: prettyMembers level rest

end

/-- The pretty form of a value. -/
def pretty (v : Value) : String :=
  prettyAt 0 v

end Json

end Turnstile
