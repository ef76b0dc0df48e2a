import Turnstile.Toml.Number
import Turnstile.Toml.Quoted
import Turnstile.Toml.Tree

/-!
# TOML Documents

Configurations are written in TOML 1.0. A document is a sequence of sections: one
without a heading, and one for each heading. A section defines keys, one on each
line.

Values nest less than eighty levels deep, and a key has fewer than eighty names.
So values are read by recursion on the levels that are left.

## Main definitions

* `Toml.key`: A key, perhaps dotted.
* `Toml.value`: A value.
* `Toml.Section`: A heading with the keys below it.
* `Toml.parse?`: The object that a document says, if it is one.
-/

namespace Turnstile

namespace Toml

open Reader

/-- Whether a character may stand in a key that is not quoted. -/
def isBare (c : Char) : Bool :=
  c.isAlphanum || c == '_' || c == '-'

/-- The number of levels and of names that is too many. -/
def levelLimit : Nat := 80

/-- A key without dots. -/
def simpleKey : Reader String :=
  basicString <|> literalString <|> (do return String.ofList (← someRun isBare))

/-- A key, perhaps dotted. -/
def key : Reader (List String) := do
  let path ← separated (blanks *> simpleKey <* blanks) (word ".")
  if levelLimit ≤ path.length then failure
  return path

/-- A list, given a reader for its items. The last item may have a comma. -/
def list (item : Reader Value) : Reader Value := do
  word "["
  let items ← maybe (separated (gap *> item <* gap) (word ","))
  if items.isSome then
    let _ ← maybe (word ",")
  gap
  word "]"
  return .list (items.getD [])

/-- A key with its value, given a reader for the value. -/
def pair (item : Reader Value) : Reader (List String × Value) := do
  let path ← key
  word "="
  blanks
  return (path, ← item)

/-- A table on one line, given a reader for its values. The last key has no
    comma. -/
def inlineTable (item : Reader Value) : Reader Value := do
  word "\x7b"
  let pairs ← maybe (separated (pair item <* blanks) (word ","))
  blanks
  word "\x7d"
  let ms : Members ← (Members.putAll (pairs.getD []) [] : Option Members)
  return Members.toValue ms

/-- A value that holds no others. -/
def scalar : Reader Value :=
  (do return .text (← anyString)) <|>
    (do word "true"; return .bool true) <|>
    (do word "false"; return .bool false) <|>
    dateTime <|> float <|> integer

/-- A value, with so many levels left. -/
def value : Nat → Reader Value
  | 0 => failure
  | 1 => scalar
  | levels + 1 => list (value levels) <|> inlineTable (value levels) <|> scalar

/-- What a section stands under. -/
inductive Heading where
  /-- No heading. -/
  | none
  /-- The heading of a table. -/
  | table (path : List String)
  /-- The heading of one more table of a list. -/
  | item (path : List String)

/-- A heading with the keys below it. -/
structure Section where
  /-- The heading. -/
  heading : Heading
  /-- The keys in order, with their values. -/
  pairs : List (List String × Value)

/-- Lines that say nothing: blank lines and comments. -/
def silence : Reader Unit := do
  let _ ← many (blanks *> maybe comment *> newline)
  blanks
  let _ ← maybe (comment *> done)

/-- A line with a heading. -/
def heading : Reader Heading := do
  let h ← (do word "[["; let path ← key; word "]]"; return .item path) <|>
    (do word "["; let path ← key; word "]"; return .table path)
  lineEnd
  return h

/-- A line with a key and its value. -/
def line : Reader (List String × Value) :=
  pair (value levelLimit) <* lineEnd

/-- The keys of a section, and all that says nothing after each. -/
def lines : Reader (List (List String × Value)) := do
  silence
  many (line <* silence)

/-- A section with a heading. -/
def headedSection : Reader Section := do
  return { heading := ← heading, pairs := ← lines }

/-- The sections of a document, which may begin with a byte order mark. -/
def sections : Reader (List Section) := do
  let _ ← maybe (word "\ufeff")
  let first ← lines
  let others ← many headedSection
  done
  return { heading := .none, pairs := first } :: others

/-- Add what a section defines. -/
def Section.addTo (s : Section) (ms : Members) : Option Members :=
  match s.heading with
  | .none => ms.putAll s.pairs
  | .table path => ms.head path s.pairs
  | .item path => ms.headItem path s.pairs

/-- The object that a document says, if it is one. -/
def parse? (text : String) : Option Value := do
  let (found, _) ← sections text.toList
  let ms ← found.foldlM (fun ms s => s.addTo ms) ([] : Members)
  return Members.toValue ms

end Toml

end Turnstile
