import Turnstile.Pattern.Class
import Turnstile.Text.Letters

/-!
# Patterns

Regular expressions, as far as it takes to tell whether a text is one. A pattern
is a sequence of parts: characters, classes, positions and groups, each perhaps
repeated; or several such sequences to choose from. Flags hold from where they
are set to the end of the group.

Parts must not be nested too deep, and what cannot be matched is no pattern. How
often a part is repeated cannot be counted, because a pattern never contains the
brace that would close the count.

## Main definitions

* `Pattern.Group`: A group while it is read.
* `Pattern.depth?`: How deep the parts of a pattern are nested.
* `Pattern.isPattern`: Whether a text is a pattern.
-/

namespace Turnstile

namespace Pattern

open Reader

/-- How deep the parts of a pattern may be nested. -/
def deepest : Nat := 250

/-- A member of a sequence. -/
inductive Part where
  /-- A setting of flags. -/
  | setting
  /-- Something that matches, and how deep it is nested. -/
  | matching (depth : Nat)

/-- How deep a part is nested. -/
def Part.depth : Part → Nat
  | setting => 0
  | matching depth => depth

/-- A group, or the whole pattern, while it is read. -/
structure Group where
  /-- The flags in force. -/
  flags : Flags
  /-- The parts of the present sequence, the last one first. -/
  parts : List Part := []
  /-- How deep the other sequences to choose from are nested. -/
  choices : List Nat := []

namespace Group

/-- How deep the present sequence is nested. -/
def sequenceDepth (g : Group) : Nat :=
  listDepth (g.parts.map Part.depth)

/-- How deep the group is nested. -/
def depth (g : Group) : Nat :=
  listDepth (g.sequenceDepth :: g.choices)

/-- A part more. -/
def add (g : Group) (p : Part) : Group :=
  { g with parts := p :: g.parts }

end Group

/-- Where reading a pattern stands. -/
structure Scan where
  /-- The innermost group. -/
  group : Group := { flags := {} }
  /-- The groups around it, the inner ones first. -/
  outer : List Group := []
  /-- The names of groups. -/
  names : List (List Char) := []

namespace Scan

/-- A part more, not nested. -/
def single (s : Scan) : Scan :=
  { s with group := s.group.add (.matching 0) }

/-- A group more, with these flags. -/
def enter (s : Scan) (flags : Flags) : Scan :=
  { s with group := { flags }, outer := s.group :: s.outer }

/-- Whether a text is the name of a group. -/
def isName (cs : List Char) : Bool :=
  match cs with
  | [] => false
  | c :: rest =>
    (c == '_' || Text.isLetter c) &&
      rest.all fun c => ['_', '.', '[', ']'].contains c || Text.isLetterOrNumeral c

/-- The name of a group behind its bracket. -/
def named (s : Scan) : Reader Scan := do
  let name ← run (· != '>')
  word ">"
  if isName name && !s.names.contains name then
    return { s.enter s.group.flags with names := name :: s.names }
  else failure

/-- Flags, for a group or for what follows. -/
def flagged (s : Scan) : Reader Scan := do
  let letters ← run fun c => c != ':' && c != ')'
  let mark ← next
  match s.group.flags.change? letters with
  | none => failure
  | some flags =>
    if mark = ':' then return s.enter flags
    else if letters.isEmpty then failure
    else return { s with group := { s.group.add .setting with flags } }

/-- What follows a bracket that opens. -/
def opened (s : Scan) : Reader Scan := do
  s.group.flags.gap
  if (← accept "?P<") || (← accept "?<") then s.named
  else if ← accept "?" then s.flagged
  else return s.enter s.group.flags

/-- The group ends here. -/
def close? (s : Scan) : Option Scan :=
  match s.outer with
  | [] => none
  | around :: outer =>
    some { s with group := around.add (.matching (s.group.depth + 1)), outer }

/-- The next sequence to choose from begins here. -/
def choice (s : Scan) : Scan :=
  { s with
    group := { s.group with parts := [], choices := s.group.sequenceDepth :: s.group.choices } }

/-- The last part may be repeated. -/
def repeated? (s : Scan) : Option Scan :=
  match s.group.parts with
  | .matching depth :: parts =>
    some { s with group := { s.group with parts := .matching (depth + 1) :: parts } }
  | _ => none

/-- What follows a backslash. -/
def escaped (s : Scan) : Reader Scan := do
  let f := s.group.flags
  let supported :=
    match ← escape f with
    | .char c byte => f.matchesChar && (f.unicode || !byte || c.toNat < 0x80)
    | .class negated => f.matchesClass negated
    | .textEnd => true
    | .wordBorder => !f.unicode
  if supported then return s.single else failure

/-- The next part of a pattern. -/
def step (s : Scan) : Reader Scan := do
  let f := s.group.flags
  f.gap
  match ← next with
  | '(' => s.opened
  | ')' => s.close?
  | '|' => return s.choice
  | '[' => return { s with group := s.group.add (.matching (← classDepth f)) }
  | '?' | '*' | '+' =>
    let s ← s.repeated?
    let _ ← accept "?"
    return s
  | '\x7b' => failure
  | '\\' => s.escaped
  | '.' => if f.unicode then return s.single else failure
  | '^' | '$' => return s.single
  | _ => if f.matchesChar then return s.single else failure

end Scan

/-- How deep the parts of a pattern are nested. -/
def depth? (s : String) : Option Nat := do
  let (scan, rest) ← iterate Scan.step {} s.toList
  let (_, rest) ← scan.group.flags.gap rest
  if scan.outer.isEmpty && rest.isEmpty then return scan.group.depth else none

/-- Whether a text is a pattern. -/
def isPattern (s : String) : Bool :=
  match depth? s with
  | some depth => depth ≤ deepest
  | none => false

end Pattern

end Turnstile
