/-!
# Readers

Reading a text from its beginning. A reader takes what it knows off the front
of the text and leaves the rest, or it fails and takes nothing. What a reader
found before a failure is forgotten, so that another one can be tried at the
same place.

## Main definitions

* `Reader`: A reader.
* `Reader.take`, `Reader.word`, `Reader.accept`: One character of a class, and a
    fixed text.
* `Reader.run`, `Reader.someRun`: The longest run of characters of a class.
* `Reader.many`: A reader again and again until it fails.
* `Reader.separated`: A reader again and again with separators.
* `Reader.iterate`: A state through one reader after the other.
* `Reader.written`: What a reader takes, as it is written.
-/

namespace Turnstile

/-- A reader: what stands at the front of a text, and the rest of it. -/
abbrev Reader := StateT (List Char) Option

namespace Reader

variable {α β : Type}

/-- One character of a class. -/
def take (accepts : Char → Bool) : Reader Char
  | [] => none
  | c :: cs => if accepts c then some (c, cs) else none

/-- A fixed text. -/
def word (w : String) : Reader Unit := fun cs =>
  let letters := w.toList
  if letters.isPrefixOf cs then some ((), cs.drop letters.length) else none

/-- Any one character. -/
def next : Reader Char := take fun _ => true

/-- Whether a fixed text stands at the front, which is taken then. -/
def accept (w : String) : Reader Bool := fun cs =>
  let letters := w.toList
  if letters.isPrefixOf cs then some (true, cs.drop letters.length) else some (false, cs)

/-- The longest run of characters of a class, which may be empty. -/
def run (accepts : Char → Bool) : Reader (List Char) := fun cs =>
  some (cs.takeWhile accepts, cs.dropWhile accepts)

/-- The longest run of characters of a class, at least one. -/
def someRun (accepts : Char → Bool) : Reader (List Char) := do
  let c ← take accepts
  let cs ← run accepts
  return c :: cs

/-- Whether the rest of the text is empty. -/
def atEnd : Reader Bool := fun cs => some (cs.isEmpty, cs)

/-- The end of the text. -/
def done : Reader Unit := fun cs => if cs.isEmpty then some ((), cs) else none

/-- What a reader finds, if it does not fail. -/
def maybe (item : Reader α) : Reader (Option α) :=
  (some <$> item) <|> pure none

/-- What a reader finds again and again until it fails or takes nothing, and
    the rest of the text. -/
def collect (item : Reader α) (cs : List Char) : List α × List Char :=
  match item cs with
  | none => ([], cs)
  | some (a, rest) =>
    if rest.length < cs.length then
      let (as, rest) := collect item rest
      (a :: as, rest)
    else ([], cs)
termination_by cs.length

/-- A reader again and again until it fails or takes nothing. -/
def many (item : Reader α) : Reader (List α) := fun cs => some (collect item cs)

/-- A reader once or more often, with a separator in between. -/
def separated (item : Reader α) (separator : Reader β) : Reader (List α) := do
  let first ← item
  let others ← many (separator *> item)
  return first :: others

/-- The state after `step` again and again until it fails or takes nothing, and
    the rest of the text. -/
def iterateOn {σ : Type} (step : σ → Reader σ) (s : σ) (cs : List Char) : σ × List Char :=
  match step s cs with
  | none => (s, cs)
  | some (next, rest) =>
    if rest.length < cs.length then iterateOn step next rest else (s, cs)
termination_by cs.length

/-- A state through one reader after the other, until one fails or takes nothing. -/
def iterate {σ : Type} (step : σ → Reader σ) (s : σ) : Reader σ := fun cs =>
  some (iterateOn step s cs)

/-- What a reader takes, as it is written. -/
def written (item : Reader α) : Reader (List Char) := fun cs => do
  let (_, rest) ← item cs
  return (cs.take (cs.length - rest.length), rest)

end Reader

end Turnstile
