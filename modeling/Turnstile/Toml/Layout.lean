import Turnstile.Reader

/-!
# Blanks, Line Ends and Comments

What may stand between the parts of a TOML document. A line ends with a line
feed, perhaps behind a carriage return, or with the document. A comment goes up
to the end of its line and holds no control characters other than tabs.

Within a list the parts may stand on different lines, elsewhere only blanks are
allowed between them.

## Main definitions

* `Toml.isBlank`, `Toml.isPlain`: Blanks, and what may stand in a comment.
* `Toml.blanks`, `Toml.newline`, `Toml.lineEnd`: The ends of parts and lines.
* `Toml.gap`: What may stand between the items of a list.
-/

namespace Turnstile

namespace Toml

open Reader

/-- Whether a character is a blank within a line. -/
def isBlank (c : Char) : Bool :=
  c == ' ' || c == '\t'

/-- Whether a character is no control character, or a tab. -/
def isPlain (c : Char) : Bool :=
  c == '\t' || (0x20 ≤ c.toNat && c.toNat != 0x7f)

/-- Any number of blanks. -/
def blanks : Reader Unit := do
  let _ ← run isBlank

/-- A line break. -/
def newline : Reader Unit :=
  word "\n" <|> word "\r\n"

/-- A comment, without the end of its line. -/
def comment : Reader Unit := do
  word "#"
  let _ ← run isPlain

/-- The end of a line, behind blanks and a comment. -/
def lineEnd : Reader Unit := do
  blanks
  let _ ← maybe comment
  newline <|> done

/-- Blanks, line breaks and whole comments. -/
def gap : Reader Unit := do
  let _ ← many ((do let _ ← someRun isBlank) <|> newline <|> (comment *> newline))

end Toml

end Turnstile
