import Turnstile.Log.Basic
import Turnstile.Log.Field

/-!
# Log Directives

A directive sets the least severe level that is logged, for all lines or for
those of a target, of a span, or with a field: `warn`, `store=debug`,
`store[load{user=7}]=trace`. A directive that names a span or a field is
dynamic, since it can only be decided while the program runs. One that names a
field but neither a span nor a value also has a static part.

Blanks around a directive are not skipped but shift what is read: the shape of
a directive is found without them, while its parts are cut out of the whole, at
the same distance in bytes from its beginning. Where such a cut falls within a
character, there is nothing that could be read.

## Main definitions

* `Log.Threshold`: The least severe level that is logged, or none at all.
* `Log.Directive`: A directive.
* `Log.Directive.parse`: Reading a directive.
* `Log.Directive.Defect`: Why there is nothing to read.
* `Log.Directive.order`: The order of directives, the most specific first.
-/

namespace Turnstile

namespace Log

/-- The least severe level that is logged; none if nothing is. -/
abbrev Threshold := Option Level

namespace Threshold

/-- The number of a threshold; zero logs nothing. -/
def number : Threshold → Nat
  | none => 0
  | some l => l.number

/-- The name of a threshold. -/
def name : Threshold → String
  | none => "off"
  | some l => l.name

/-- Every line is logged. -/
def most : Threshold := some .trace

/-- The threshold that logs more. -/
def max (t u : Threshold) : Threshold :=
  if t.number < u.number then u else t

/-- The threshold of a number or of a name, in which the case of ASCII letters
    does not matter. -/
def ofText? (s : String) : Option Threshold :=
  let all : List Threshold := none :: Level.all.map some
  match Text.signedNatural? s.toList with
  | some n => all.find? fun t => t.number == n
  | none => all.find? fun t => t.name == s.map Char.toLower

end Threshold

/-- A directive: the least severe level for the lines it is about. -/
structure Directive where
  /-- The target of the lines. -/
  target : Option String := none
  /-- The span around the lines. -/
  span : Option String := none
  /-- A field of the span. -/
  field : Option Field := none
  /-- The least severe level that is logged. -/
  level : Threshold := Threshold.most
deriving DecidableEq

namespace Directive

/-- Why a text is not read as a directive. -/
inductive Defect where
  /-- The text makes no sense. -/
  | senseless
  /-- A part would begin or end within a character. -/
  | torn
deriving DecidableEq

/-- Where reading a directive stands. Positions count bytes. -/
inductive Scan where
  /-- Nothing is read yet. -/
  | start
  /-- A level or a target is being read. -/
  | levelOrTarget
  /-- The name of a span is being read. -/
  | span (first : Nat)
  /-- A field is being read. -/
  | field (first : Nat)
  /-- The fields are closed and the span is not. -/
  | fields
  /-- The span is closed. -/
  | target
  /-- A level is being read. -/
  | level (first : Nat)

/-- A text split after so many bytes, unless that is within a character. -/
def splitBytes? : Nat → List Char → Option (List Char × List Char)
  | 0, cs => some ([], cs)
  | _ + 1, [] => none
  | n + 1, c :: cs =>
    if c.utf8Size ≤ n + 1 then do
      let (front, rest) ← splitBytes? (n + 1 - c.utf8Size) cs
      return (c :: front, rest)
    else none
termination_by _ cs => cs.length

/-- The text from one byte up to another. -/
def cut (cs : List Char) (start stop : Nat) : Except Defect String :=
  let part := do
    let (_, rest) ← splitBytes? start cs
    let (part, _) ← splitBytes? (stop - start) rest
    return String.ofList part
  match part with
  | some s => .ok s
  | none => .error .torn

/-- What makes sense, or nothing. -/
def orSenseless {α : Type} : Option α → Except Defect α
  | some a => .ok a
  | none => .error .senseless

/-- Whether a directive may begin with a character. -/
def mayStart (c : Char) : Bool :=
  c == '-' || c == ':' || c == '_' || Text.isLetterOrNumeral c

/-- Read the character at a position of the text `whole`. -/
def scan (whole : List Char) (d : Directive) (position : Nat) (c : Char) :
    Scan → Except Defect (Directive × Scan)
  | .start =>
    if c = '[' then .ok (d, .span (position + 1))
    else if mayStart c then .ok (d, .levelOrTarget)
    else .error .senseless
  | .levelOrTarget =>
    if c = '=' then do
      return ({ d with target := ← cut whole 0 position }, .level (position + 1))
    else if c = '[' then do
      return ({ d with target := ← cut whole 0 position }, .span (position + 1))
    else .ok (d, .levelOrTarget)
  | .span first =>
    if c = ']' then do
      return ({ d with span := ← cut whole first position }, .target)
    else if c = '\x7b' then do
      let name ← cut whole first position
      return ({ d with span := if name.isEmpty then none else name }, .field (position + 1))
    else .ok (d, .span first)
  | .field first =>
    if c = '\x7d' then do
      let field ← orSenseless (Field.parse? (← cut whole first position))
      return ({ d with field }, .fields)
    else .ok (d, .field first)
  | .fields => if c = ']' then .ok (d, .target) else .error .senseless
  | .target => if c = '=' then .ok (d, .level (position + 1)) else .error .senseless
  | .level first => .ok (d, .level first)

/-- Read characters from a position on. -/
def scanAll (whole : List Char) :
    Directive → Scan → Nat → List Char → Except Defect (Directive × Scan)
  | d, state, _, [] => .ok (d, state)
  | d, state, position, c :: cs => do
    let (d, state) ← scan whole d position c state
    scanAll whole d state (position + c.utf8Size) cs

/-- Read a directive. A name alone is a level if there is one of this name, and
    else a target of which everything is logged. -/
def parse (s : String) : Except Defect Directive := do
  let whole := s.toList
  let inner := (Text.skipBlank (Text.skipBlank whole).reverse).reverse
  let (d, state) ← scanAll whole {} .start 0 inner
  match state with
  | .levelOrTarget =>
    match Threshold.ofText? s with
    | some level => return { level }
    | none => return { target := some s }
  | .level first =>
    let name ← cut whole first s.utf8ByteSize
    if name.isEmpty then return d
    else return { d with level := ← orSenseless (Threshold.ofText? name) }
  | .target => return d
  | _ => .error .senseless

/-- Whether a directive can only be decided while the program runs. -/
def isDynamic (d : Directive) : Bool :=
  d.span.isSome || d.field.isSome

/-- The static part of a directive, if it asks for no span and no value. -/
def static? (d : Directive) : Option Directive :=
  if d.span.isSome || d.field.any (·.value.isSome) then none else some d

/-- The order of two directives, the most specific first: those with the longer
    target, then those with a span, then those with a field, and last by what the
    parts say. -/
def order (d e : Directive) : Ordering :=
  (compareLex (compareOn fun d : Directive => d.target.map String.utf8ByteSize) <|
    compareLex (compareOn (·.span.isSome)) <|
    compareLex (compareOn (·.field.isSome)) <|
    compareLex (compareOn (·.target)) <|
    compareLex (compareOn (·.span)) (compareOn (·.field))) e d

/-- The text of a directive. -/
def text (d : Directive) : String :=
  let fields :=
    match d.field with
    | some f => "\x7b" ++ f.text ++ "\x7d"
    | none => ""
  let span := if d.isDynamic then "[" ++ d.span.getD "" ++ fields ++ "]" else ""
  let scope := d.target.getD "" ++ span
  if d.target.isSome || d.isDynamic then scope ++ "=" ++ d.level.name else d.level.name

end Directive

end Log

end Turnstile
