/-!
# Paths

Paths of files: joining them, and how messages show them. A shown path stands
between quotes, with escapes for quotes, backslashes and control characters.

## Main definitions

* `Path.join`: A path behind a directory.
* `Path.quoted`: A path between quotes.
-/

namespace Turnstile

namespace Path

/-- A path behind a directory. Nothing is put behind a directory that ends in a
    slash, or in front of a path without directory. -/
def join (directory path : String) : String :=
  if directory.isEmpty || directory.endsWith "/" then directory ++ path
  else directory ++ "/" ++ path

/-- A character within a quoted path. -/
def quotedChar (c : Char) : List Char :=
  match c with
  | '"' => ['\\', '"']
  | '\\' => ['\\', '\\']
  | '\n' => ['\\', 'n']
  | '\r' => ['\\', 'r']
  | '\t' => ['\\', 't']
  | '\x00' => ['\\', '0']
  | c =>
    if c.toNat < 0x20 ∨ (0x7f ≤ c.toNat ∧ c.toNat < 0xa0) then
      '\\' :: 'u' :: '\x7b' :: Nat.toDigits 16 c.toNat ++ ['\x7d']
    else [c]

/-- A path between quotes. -/
def quoted (path : String) : String :=
  String.ofList ('"' :: path.toList.flatMap quotedChar ++ ['"'])

end Path

end Turnstile
