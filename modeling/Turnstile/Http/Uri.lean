import Turnstile.Text.Digits

/-!
# Request Targets

The target of a request, as far as routing looks at it. A target is a path, a
single star, an authority alone, or a scheme with an authority and a path.
Queries and fragments are checked for forbidden characters where the target is
read, and then left aside; so is the authority.

Percent escapes are decoded in a part of a path after it was taken out, so an
escaped slash does not separate. What does not look like an escape stays as it
is.

## Main definitions

* `Uri.path?`: The path of a request target.
* `Uri.decodePercent`: The bytes of a text with its escapes decoded.
* `Uri.decode?`: The same as a text, if the bytes are UTF-8.
-/

namespace Turnstile

namespace Uri

/-- The longest target in bytes. -/
def longest : Nat := 65534

/-- The longest scheme. -/
def schemeLongest : Nat := 64

/-- Whether a character may stand in a path as it is. -/
def isPathChar (c : Char) : Bool :=
  let n := c.toNat
  n == 0x21 || n == 0x22 || (0x24 ≤ n && n ≤ 0x3b) || n == 0x3d || (0x40 ≤ n && n ≤ 0x5f) ||
    (0x61 ≤ n && n ≤ 0x7e) || 0x80 ≤ n

/-- Whether a character may stand in a query as it is. -/
def isQueryChar (c : Char) : Bool :=
  let n := c.toNat
  n == 0x21 || (0x24 ≤ n && n ≤ 0x3b) || n == 0x3d || (0x3f ≤ n && n ≤ 0x7e) || 0x80 ≤ n

/-- Whether a character may stand in a scheme. -/
def isSchemeChar (c : Char) : Bool :=
  c.isAlphanum || c == '+' || c == '-' || c == '.' || c == '~'

/-- Whether a character may stand in an authority. -/
def isAuthorityChar (c : Char) : Bool :=
  c.isAlphanum || "!$&'()*+,-.:;=@[]_~%".toList.contains c

/-- The path in front of a query and a fragment, where both are well formed. -/
def pathOf? (cs : List Char) : Option String :=
  let path := cs.takeWhile fun c => c != '?' && c != '#'
  let rest := cs.dropWhile fun c => c != '?' && c != '#'
  let query :=
    match rest with
    | '?' :: rest => rest.takeWhile (· != '#')
    | _ => []
  if path.all isPathChar && query.all isQueryChar then
    some (if path.isEmpty then "/" else String.ofList path)
  else none

/-- What is known of an authority from its start up to some point. -/
structure AuthorityScan where
  /-- The colons since the last `@` or `]`. -/
  colons : Nat := 0
  /-- Whether a bracket was opened. -/
  opened : Bool := false
  /-- Whether a bracket was closed. -/
  closed : Bool := false
  /-- Whether there was a percent sign since the last `@` or `]`. -/
  percent : Bool := false
  /-- Whether the last character was `@`. -/
  atEnd : Bool := false

/-- One more character of an authority. -/
def AuthorityScan.next? (s : AuthorityScan) (c : Char) : Option AuthorityScan :=
  match c with
  | ':' => if 8 ≤ s.colons then none else some { s with colons := s.colons + 1, atEnd := false }
  | '[' => if s.percent || s.opened then none else some { s with opened := true, atEnd := false }
  | ']' =>
    if !s.opened || s.closed then none
    else some { s with closed := true, colons := 0, percent := false, atEnd := false }
  | '@' => some { s with colons := 0, percent := false, atEnd := true }
  | '%' => some { s with percent := true, atEnd := false }
  | c => if isAuthorityChar c then some { s with atEnd := false } else none

/-- Whether an authority may end here. -/
def AuthorityScan.isComplete (s : AuthorityScan) : Bool :=
  s.opened == s.closed && s.colons ≤ 1 && !s.atEnd && !s.percent

/-- Whether a text is an authority. -/
def isAuthority (cs : List Char) : Bool :=
  match cs.foldlM AuthorityScan.next? {} with
  | some s => s.isComplete
  | none => false

/-- What follows the scheme of a target, if it has one; `none` if the scheme is
    too long. A target of up to three characters has no scheme. -/
def afterScheme? (cs : List Char) : Option (Option (List Char)) :=
  let scheme := cs.takeWhile isSchemeChar
  match cs.dropWhile isSchemeChar with
  | ':' :: '/' :: '/' :: rest =>
    if cs.length ≤ 3 then some none
    else if schemeLongest < scheme.length then none
    else some (some rest)
  | _ => some none

/-- The path of a target that does not begin with a slash. -/
def fullPath? (cs : List Char) : Option String := do
  match ← afterScheme? cs with
  | none =>
    -- An authority alone has no path.
    if isAuthority cs then some "" else none
  | some rest =>
    let isEnd := fun c : Char => c == '/' || c == '?' || c == '#'
    let authority := rest.takeWhile (!isEnd ·)
    if authority.isEmpty || !isAuthority authority then none
    else pathOf? (rest.dropWhile (!isEnd ·))

/-- The path of a request target; `none` if it is no target. -/
def path? (target : String) : Option String :=
  if longest < target.utf8ByteSize then none
  else
    match target.toList with
    | [] => none
    | ['*'] => some "*"
    | '/' :: rest => pathOf? ('/' :: rest)
    | cs => fullPath? cs

/-- A byte as a character of ASCII. -/
def asciiOf (b : UInt8) : Char := Char.ofNat b.toNat

/-- Decode the percent escapes in a list of bytes. -/
def decodePercent : List UInt8 → List UInt8
  | 0x25 :: a :: b :: rest =>
    match Text.digitValue? 16 (asciiOf a), Text.digitValue? 16 (asciiOf b) with
    | some high, some low => UInt8.ofNat (high * 16 + low) :: decodePercent rest
    | _, _ => 0x25 :: decodePercent (a :: b :: rest)
  | b :: rest => b :: decodePercent rest
  | [] => []

/-- Decode the percent escapes in a text, if the bytes are UTF-8 then. -/
def decode? (s : String) : Option String :=
  String.fromUTF8? ⟨(decodePercent s.toUTF8.toList).toArray⟩

end Uri

end Turnstile
