/-!
# Headers

Names and values of HTTP headers, and lists of them. A name is a nonempty run
of token characters and does not distinguish upper from lower case. A value may
hold any character but controls; the tab is allowed. It counts as text if it is
plain ASCII.

Of several headers with one name only the first is looked at.

## Main definitions

* `HeaderName.parse?`: A header name, in lower case.
* `HeaderValue.parse?`: A header value.
* `HeaderValue.text?`: The text of a value, if it is text.
* `Headers.first?`: The value of the first header with a name.
-/

namespace Turnstile

/-- Whether a character may stand in a token, as HTTP defines it. -/
def isTokenChar (c : Char) : Bool :=
  c.isAlphanum || "!#$%&'*+-.^_\x60|~".toList.contains c

/-- The longest header name there may be. -/
def HeaderName.longest : Nat := 65535

/-- The name of a header, in lower case. -/
structure HeaderName where
  /-- The name as text. -/
  text : String
deriving DecidableEq

/-- Read a header name. -/
def HeaderName.parse? (s : String) : Option HeaderName :=
  if s ≠ "" ∧ s.length ≤ longest ∧ s.toList.all isTokenChar then some ⟨s.toLower⟩ else none

/-- The value of a header. -/
structure HeaderValue where
  /-- The value as it was sent. -/
  raw : String
deriving DecidableEq

/-- Read a header value. -/
def HeaderValue.parse? (s : String) : Option HeaderValue :=
  if s.toList.all fun c => c == '\t' || (0x20 ≤ c.toNat && c.toNat != 0x7f) then some ⟨s⟩
  else none

/-- The text of a value, if it is plain ASCII. -/
def HeaderValue.text? (v : HeaderValue) : Option String :=
  if v.raw.toList.all fun c => c == '\t' || (0x20 ≤ c.toNat && c.toNat < 0x7f) then some v.raw
  else none

/-- The headers of a message in the order in which they were sent. -/
abbrev Headers := List (HeaderName × HeaderValue)

/-- Read a list of headers. -/
def Headers.parse? (fields : List (String × String)) : Option Headers :=
  fields.mapM fun (name, value) => do
    return (← HeaderName.parse? name, ← HeaderValue.parse? value)

/-- The value of the first header with a name. What is no header name is the name
    of no header. -/
def Headers.first? (headers : Headers) (name : String) : Option HeaderValue := do
  let name ← HeaderName.parse? name
  (headers.find? fun h => h.1 == name).map (·.2)

end Turnstile
