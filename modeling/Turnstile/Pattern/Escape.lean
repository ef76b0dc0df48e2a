import Turnstile.Reader
import Turnstile.Text.Blank
import Turnstile.Text.Digits

/-!
# Flags and Escapes of Patterns

The flags of a regular expression decide how the letters after them are read.
Of the seven flags three decide what can be read at all: whether the case of
letters matters, whether characters are all of Unicode or only bytes, and
whether blanks and remarks may stand between the parts.

There are no tables of Unicode properties to match by. So what needs one is not
supported: letters of either case, classes of digits, blanks or word characters,
and the borders of words, all unless Unicode is switched off. And what is
matched are texts, so bytes beyond ASCII are not supported either.

## Main definitions

* `Pattern.Flags`: The flags in force.
* `Pattern.Flags.change?`: The flags after a list of flags.
* `Pattern.Escape`, `Pattern.escape`: What stands behind a backslash.
-/

namespace Turnstile

namespace Pattern

open Reader

/-- The flags in force. -/
structure Flags where
  /-- Whether letters match in either case. -/
  ignoreCase : Bool := false
  /-- Whether characters are all of Unicode. -/
  unicode : Bool := true
  /-- Whether blanks and remarks may stand between the parts. -/
  spaced : Bool := false
deriving DecidableEq

namespace Flags

/-- The letters of all flags. -/
def letters : List Char := ['i', 'm', 's', 'U', 'u', 'R', 'x']

/-- The flags after one of them is set. -/
def set (f : Flags) (value : Bool) (letter : Char) : Flags :=
  match letter with
  | 'i' => { f with ignoreCase := value }
  | 'u' => { f with unicode := value }
  | 'x' => { f with spaced := value }
  | _ => f

/-- The flags after a list of flags: those before a minus sign are set, those behind
    it are not. No flag is listed twice, and something stands behind the sign. -/
def change? (f : Flags) (cs : List Char) : Option Flags :=
  let on := cs.takeWhile (· != '-')
  let behind := cs.dropWhile (· != '-')
  let off := behind.drop 1
  if behind.length = 1 then none
  else if (on ++ off).all letters.contains ∧ (on ++ off).Nodup then
    some (off.foldl (·.set false ·) (on.foldl (·.set true ·) f))
  else none

/-- A text without the blanks and remarks it begins with. A remark reaches from a
    hash to the end of the line; `inRemark` tells whether one has begun. -/
def withoutRemarks (inRemark : Bool) : List Char → List Char
  | [] => []
  | c :: cs =>
    if inRemark then withoutRemarks (c != '\n') cs
    else if c = '#' then withoutRemarks true cs
    else if Text.isBlank c then withoutRemarks false cs
    else c :: cs

/-- Blanks and remarks, where they may stand. -/
def gap (f : Flags) : Reader Unit := fun cs =>
  some ((), if f.spaced then withoutRemarks false cs else cs)

/-- Whether a character can be matched; in either case only with Unicode off. -/
def matchesChar (f : Flags) : Bool :=
  !(f.ignoreCase && f.unicode)

/-- Whether a class of digits, blanks or word characters can be matched. Without
    Unicode the characters outside of it are bytes, so it must not be turned around. -/
def matchesClass (f : Flags) (negated : Bool) : Bool :=
  !f.unicode && !negated

end Flags

/-- What stands behind a backslash. -/
inductive Escape where
  /-- A character, perhaps written as a byte. -/
  | char (c : Char) (byte : Bool)
  /-- A class of digits, blanks or word characters, or all others. -/
  | class (negated : Bool)
  /-- The beginning or the end of the text. -/
  | textEnd
  /-- A border of a word, or no border. -/
  | wordBorder

/-- A character by so many hexadecimal digits. -/
def hexadecimal (f : Flags) (digits : Nat) : Reader Char := do
  let ds ← (List.replicate digits ()).mapM fun _ => do
    f.gap
    take fun c => (Text.digitValue? 16 c).isSome
  Text.scalar? (Text.numberIn 16 ds)

/-- What stands behind a backslash. Signs stand for themselves; letters and digits
    without a meaning are reserved. -/
def escape (f : Flags) : Reader Escape := do
  let c ← next
  match c with
  | 'x' => return .char (← hexadecimal f 2) true
  | 'u' => return .char (← hexadecimal f 4) false
  | 'U' => return .char (← hexadecimal f 8) false
  | 'd' | 's' | 'w' => return .class false
  | 'D' | 'S' | 'W' => return .class true
  | 'a' => return .char '\x07' false
  | 'f' => return .char '\x0c' false
  | 't' => return .char '\t' false
  | 'n' => return .char '\n' false
  | 'r' => return .char '\r' false
  | 'v' => return .char '\x0b' false
  | 'A' | 'z' => return .textEnd
  | 'b' | 'B' | '<' | '>' => return .wordBorder
  | _ => if c.toNat < 0x80 && !c.isAlphanum then return .char c false else failure

end Pattern

end Turnstile
