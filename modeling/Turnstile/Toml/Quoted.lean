import Turnstile.Text.Digits
import Turnstile.Toml.Layout

/-!
# Strings

The four ways to write a string in TOML: between quotes, with escapes, or
between apostrophes, as it stands; and both on one line or between threefold
marks on several.

A string of several lines drops a line break at its very beginning, and writes
all other line breaks as line feeds. It may hold its mark once or twice in a
row; up to two marks may also stand directly before the three that end it.

## Main definitions

* `Toml.escape`: An escaped character.
* `Toml.basicString`, `Toml.literalString`: Strings on one line.
* `Toml.anyString`: A string in any of the four ways.
-/

namespace Turnstile

namespace Toml

open Reader

/-- Whether a character stands for itself between quotes. -/
def isBasic (c : Char) : Bool :=
  isPlain c && c != '"' && c != '\\'

/-- Whether a character stands for itself between apostrophes. -/
def isLiteral (c : Char) : Bool :=
  isPlain c && c != '\''

/-- A code point in so many hexadecimal digits. -/
def codePoint (digits : Nat) : Reader Char := do
  let ds ← (List.replicate digits ()).mapM fun _ =>
    take fun c => (Text.digitValue? 16 c).isSome
  Text.scalar? (Text.numberIn 16 ds)

/-- An escaped character. -/
def escape : Reader Char := do
  word "\\"
  match ← take fun _ => true with
  | 'b' => return '\x08'
  | 'f' => return '\x0c'
  | 'n' => return '\n'
  | 'r' => return '\r'
  | 't' => return '\t'
  | '"' => return '"'
  | '\\' => return '\\'
  | 'u' => codePoint 4
  | 'U' => codePoint 8
  | _ => failure

/-- A part of a string between quotes. -/
def basicPart : Reader (List Char) :=
  someRun isBasic <|> (do return [← escape])

/-- A string between quotes. -/
def basicString : Reader String := do
  word "\""
  let parts ← many basicPart
  word "\""
  return String.ofList parts.flatten

/-- A string between apostrophes. -/
def literalString : Reader String := do
  word "'"
  let cs ← run isLiteral
  word "'"
  return String.ofList cs

/-- A backslash at the end of a line, which joins the line to the next one that
    is not blank. -/
def lineJoin : Reader (List Char) := do
  word "\\"
  blanks
  newline
  let _ ← many ((do let _ ← someRun isBlank) <|> newline)
  return []

/-- One or two marks within a string of several lines. -/
def innerMarks (mark : Char) : Reader (List Char) := do
  let marks ← someRun (· == mark)
  if 2 < marks.length || (← atEnd) then failure
  return marks

/-- The marks that end a string of several lines: three, and up to two before
    them that belong to the string. -/
def closingMarks (mark : Char) : Reader (List Char) := do
  let marks ← run (· == mark)
  if marks.length < 3 || 5 < marks.length then failure
  return marks.drop 3

/-- A string of several lines, of parts of a kind. -/
def longString (mark : Char) (part : Reader (List Char)) : Reader String := do
  word (String.ofList [mark, mark, mark])
  let _ ← maybe newline
  let parts ← many (part <|> (do newline; return ['\n']) <|> innerMarks mark)
  let last ← closingMarks mark
  return String.ofList (parts.flatten ++ last)

/-- A string in any of the four ways. -/
def anyString : Reader String :=
  longString '"' (someRun isBasic <|> lineJoin <|> (do return [← escape])) <|>
    longString '\'' (someRun isLiteral) <|> basicString <|> literalString

end Toml

end Turnstile
