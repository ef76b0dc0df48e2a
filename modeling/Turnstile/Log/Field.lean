import Turnstile.Binary64.Text
import Turnstile.Pattern.Basic

/-!
# Fields of Log Lines

A filter may ask for lines whose span has a field, perhaps with a value. What is
written as the value of a field is a boolean, a number or a pattern: what can be
read as a boolean is one, else what can be read as a number, and everything else
has to be a pattern.

Numbers keep what they were read as. An integer is unsigned where that is
possible, and signed else; an integer that is too large for both, and whatever
has a point or an exponent, is a floating-point number. Values are shown as they
were understood, not as they were written.

## Main definitions

* `Log.FieldValue`: What the value of a field is compared with.
* `Log.FieldValue.parse?`, `Log.FieldValue.text`: Reading and writing it.
* `Log.Field`: A field.
* `Log.Field.parse?`, `Log.Field.text`: Reading and writing it.
-/

namespace Turnstile

namespace Log

/-- What the value of a field is compared with. -/
inductive FieldValue where
  /-- A boolean. -/
  | bool (b : Bool)
  /-- A floating-point number. -/
  | real (x : Binary64)
  /-- What is not a number. -/
  | notANumber
  /-- An integer of sixty-four bits without a sign. -/
  | unsigned (n : Nat)
  /-- An integer of sixty-four bits with a minus sign. -/
  | signed (n : Int)
  /-- A pattern. -/
  | pattern (s : String)
deriving DecidableEq

namespace FieldValue

/-- An integer without a sign, or behind a plus sign. -/
def unsigned? (s : String) : Option FieldValue := do
  let n ← Text.signedNatural? s.toList
  if n < UInt64.size then some (.unsigned n) else none

/-- An integer behind a minus sign. -/
def signed? (s : String) : Option FieldValue := do
  match s.toList with
  | '-' :: cs =>
    let n ← Text.natural? cs
    if n ≤ 0x8000000000000000 then some (.signed (-n)) else none
  | _ => none

/-- A floating-point number. -/
def real? (s : String) : Option FieldValue :=
  match Binary64.parse? s with
  | some (.number x) => some (.real x)
  | some .notANumber => some .notANumber
  | none => none

/-- A pattern. -/
def pattern? (s : String) : Option FieldValue :=
  if Pattern.isPattern s then some (.pattern s) else none

/-- Read what stands behind the equality sign. -/
def parse? (s : String) : Option FieldValue :=
  if s = "true" then some (.bool true)
  else if s = "false" then some (.bool false)
  else unsigned? s <|> signed? s <|> real? s <|> pattern? s

/-- The text of a value. -/
def text : FieldValue → String
  | bool b => if b then "true" else "false"
  | real x => x.text
  | notANumber => "NaN"
  | unsigned n => toString n
  | signed n => toString n
  | pattern s => s

/-- The kinds of values in their order. -/
def kind : FieldValue → Nat
  | bool _ => 0
  | real _ => 1
  | notANumber => 2
  | unsigned _ => 3
  | signed _ => 4
  | pattern _ => 5

/-- The number that a value of its kind is ordered by. -/
def number : FieldValue → Int
  | bool b => b.toNat
  | real x => x.rank
  | notANumber => 0
  | unsigned n => n
  | signed n => n
  | pattern _ => 0

/-- The text that a value of its kind is ordered by. -/
def letters : FieldValue → String
  | pattern s => s
  | _ => ""

instance : Ord FieldValue :=
  ⟨compareLex (compareOn (·.kind)) (compareLex (compareOn (·.number)) (compareOn (·.letters)))⟩

end FieldValue

/-- A field that a span must have, perhaps with a value. -/
structure Field where
  /-- The name of the field. -/
  name : String
  /-- What its value is compared with. -/
  value : Option FieldValue
deriving DecidableEq

namespace Field

/-- Fields without a value come first. -/
instance : Ord Field :=
  ⟨compareLex (compareOn (·.value.isSome))
    (compareLex (compareOn (·.name)) (compareOn (·.value)))⟩

/-- Read a field. What follows a second equality sign is passed over. -/
def parse? (s : String) : Option Field :=
  if s.isEmpty then none
  else
    match s.splitOn "=" with
    | name :: value :: _ => do return { name, value := some (← FieldValue.parse? value) }
    | _ => some { name := s, value := none }

/-- The text of a field. -/
def text (f : Field) : String :=
  match f.value with
  | some v => f.name ++ "=" ++ v.text
  | none => f.name

end Field

end Log

end Turnstile
