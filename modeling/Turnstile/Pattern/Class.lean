import Turnstile.Pattern.Escape

/-!
# Classes of Characters

Classes in brackets, as regular expressions have them: characters, ranges, named
classes and classes within classes, and between them the operators for what is
in both, in the first only, or in one of the two.

A bracket that closes and dashes stand for themselves where a class begins, and
a dash also where it ends. A class is read for how deep its parts are nested,
and for whether it can be matched.

## Main definitions

* `Pattern.Side`: One side of an operator while it is read.
* `Pattern.classDepth`: A class, and how deep it is nested.
-/

namespace Turnstile

namespace Pattern

open Reader

/-- How deep a list of parts is nested: several parts are one level deeper than the
    deepest of them. -/
def listDepth : List Nat → Nat
  | [] => 0
  | [d] => d
  | ds => ds.foldl max 0 + 1

/-- What was read since the last operator. -/
structure Side where
  /-- How deep what stands before the operator is nested, if there was one. -/
  left : Option Nat := none
  /-- How deep the parts are nested. -/
  parts : List Nat := []

/-- How deep a class is nested up to here. -/
def Side.depth (s : Side) : Nat :=
  match s.left with
  | none => listDepth s.parts
  | some d => max d (listDepth s.parts) + 1

/-- A part more. -/
def Side.add (s : Side) (depth : Nat) : Side :=
  { s with parts := depth :: s.parts }

/-- Where reading a class stands. -/
inductive ClassScan where
  /-- Within classes, the inner ones first. -/
  | inside (side : Side) (outer : List Side)
  /-- Behind the class. -/
  | closed (depth : Nat)

/-- The names of the named classes. -/
def classNames : List String :=
  ["alnum", "alpha", "ascii", "blank", "cntrl", "digit", "graph", "lower", "print",
    "punct", "space", "upper", "word", "xdigit"]

/-- A named class behind its first bracket; whether it is turned around. -/
def namedClass : Reader Bool := do
  word ":"
  let negated ← accept "^"
  let name ← run (· != ':')
  word ":]"
  if classNames.contains (String.ofList name) then return negated else failure

/-- Whether a class may contain a character. -/
def Flags.holds (f : Flags) (c : Char) : Bool :=
  f.matchesChar && (f.unicode || c.toNat < 0x80)

/-- A character or a class of digits, blanks or word characters, which is none. -/
def member (f : Flags) : Reader (Option Char) := do
  let c ← next
  let content ← if c = '\\' then escape f else pure (.char c false)
  match content with
  | .char c _ => if f.holds c then return some c else failure
  | .class negated => if f.matchesClass negated then return none else failure
  | _ => failure

/-- The character that is seen behind blanks and the hash of a remark. -/
def Flags.glimpse (f : Flags) (cs : List Char) : Option Char :=
  if f.spaced then
    match Text.skipBlank cs with
    | '#' :: cs => (Text.skipBlank cs).head?
    | cs => cs.head?
  else cs.head?

/-- Whether a dash stands here that makes a range. -/
def atRange (f : Flags) : Reader Bool := fun cs =>
  match cs with
  | '-' :: rest =>
    let behind := f.glimpse rest
    some (behind != some ']' && behind != some '-', cs)
  | _ => some (false, cs)

/-- A member or a range of characters, which ascends. -/
def members (f : Flags) : Reader Unit := do
  let first ← member f
  f.gap
  if ← atRange f then
    word "-"
    f.gap
    match first, ← member f with
    | some first, some last => if last < first then failure
    | _, _ => failure

/-- The beginning of a class behind its bracket. -/
def opening (f : Flags) : Reader Side := do
  f.gap
  let negated ← accept "^"
  f.gap
  let dashes ← many (word "-" <* f.gap)
  let bracket ← if dashes.isEmpty then accept "]" else pure false
  let parts := if bracket then [0] else dashes.map fun _ => 0
  if negated && !f.unicode then failure
  if !parts.isEmpty && !f.matchesChar then failure
  return { parts }

/-- The next part of a class. -/
def classStep (f : Flags) : ClassScan → Reader ClassScan
  | .closed _ => failure
  | .inside side outer => do
    f.gap
    if ← accept "[" then
      match ← maybe namedClass with
      | some negated =>
        if f.matchesChar && (f.unicode || !negated) then return .inside (side.add 0) outer
        else failure
      | none => return .inside (← opening f) (side :: outer)
    else if ← accept "]" then
      match outer with
      | [] => return .closed (side.depth + 1)
      | around :: outer => return .inside (around.add (side.depth + 1)) outer
    else if (← accept "&&") || (← accept "--") || (← accept "~~") then
      return .inside { left := some side.depth } outer
    else
      members f
      return .inside (side.add 0) outer

/-- A class behind its bracket, and how deep it is nested. -/
def classDepth (f : Flags) : Reader Nat := do
  let side ← opening f
  match ← iterate (classStep f) (.inside side []) with
  | .closed depth => return depth
  | .inside .. => failure

end Pattern

end Turnstile
