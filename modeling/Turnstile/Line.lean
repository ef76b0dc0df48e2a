import Turnstile.Request
import Turnstile.Table

/-!
# Waiting Lines

Where requests stand while they wait. The line is served by ascending priority;
among equal priorities by the instant of arrival; among equal arrivals in the
order in which they joined. A ticket number, which no two entries of a line
ever share, settles the last case and makes a place a handle that stays good
for exactly one entry.

The number of entries of each priority is kept beside the entries, so that it
can be read without walking the line.

## Main definitions

* `Place`: A position in a line: priority, arrival, ticket.
* `Line`: The entries in service order, with their numbers per priority.
* `Line.join`: Add an entry and get its place.
* `Line.next?`: The entry to be served next, and the line without it.
* `Line.leave`: Take the entry at a place out of line.
* `Line.clear`: The line without its entries, for `Line.toList` to tell.
-/

namespace Turnstile

/-- A position in a line. -/
structure Place where
  /-- Smaller is served first. -/
  priority : Priority
  /-- Among equal priorities, earlier is served first. -/
  arrived : Instant
  /-- Among equal arrivals, smaller is served first. -/
  ticket : Nat
deriving DecidableEq

namespace Place

instance : Ord Place :=
  ⟨compareLex (compareOn (·.priority))
    (compareLex (compareOn (·.arrived)) (compareOn (·.ticket)))⟩

instance : Std.TransOrd Place :=
  inferInstanceAs (Std.TransCmp
    (compareLex (compareOn (fun p : Place => p.priority))
      (compareLex (compareOn (fun p => p.arrived)) (compareOn (fun p => p.ticket)))))

instance : Std.LawfulEqOrd Place where
  eq_of_compare {a b} h := by
    rcases a with ⟨p, t, n⟩
    rcases b with ⟨p', t', n'⟩
    have h₁ := compareLex_eq_eq.mp h
    have h₂ := compareLex_eq_eq.mp h₁.2
    have hp : p = p' := Std.LawfulEqOrd.eq_of_compare h₁.1
    have ht : t = t' := Std.LawfulEqOrd.eq_of_compare h₂.1
    have hn : n = n' := Std.LawfulEqOrd.eq_of_compare h₂.2
    rw [hp, ht, hn]

end Place

/-- A waiting line whose entries carry values of type `α`. -/
structure Line (α : Type) where
  /-- The entries by place, which is the order of service. -/
  entries : Table Place α
  /-- The number of entries of each priority that has any. -/
  counts : Table Priority Nat
  /-- The ticket of the entry that joins next. A counter of sixty-four bits gives
      out the same tickets as long as fewer than 2 ^ 64 entries have joined, and
      lines are meant up to there. -/
  nextTicket : Nat

namespace Line

variable {α : Type}

/-- The line in which nobody waits. -/
def empty : Line α := ⟨Table.empty, Table.empty, 0⟩

instance : Inhabited (Line α) := ⟨empty⟩

/-- The entries in the order of service. -/
def toList (l : Line α) : List (Place × α) := l.entries.entries

/-- The number of entries. -/
def size (l : Line α) : Nat := l.entries.size

/-- Whether nobody waits. -/
def isEmpty (l : Line α) : Bool := l.entries.isEmpty

/-- Whether the entry at a place still waits. -/
def contains (l : Line α) (p : Place) : Bool := l.entries.contains p

/-- One more entry of a priority. -/
def countUp (counts : Table Priority Nat) (p : Priority) : Table Priority Nat :=
  counts.alter p fun n => some (n.getD 0 + 1)

/-- One entry of a priority fewer; a priority without entries is left out. -/
def countDown (counts : Table Priority Nat) (p : Priority) : Table Priority Nat :=
  counts.alter p fun n => n.bind fun n => if n - 1 = 0 then none else some (n - 1)

/-- Add an entry; the answer tells the place it stands at. -/
def join (l : Line α) (priority : Priority) (arrived : Instant) (value : α) : Line α × Place :=
  let place := { priority, arrived, ticket := l.nextTicket }
  ({ entries := l.entries.insert place value
     counts := countUp l.counts priority
     nextTicket := l.nextTicket + 1 }, place)

/-- The entry to be served next, and the line without it. -/
def next? (l : Line α) : Option (Place × α × Line α) :=
  l.entries.head?.map fun (place, value) =>
    (place, value, { l with
      entries := l.entries.tail
      counts := countDown l.counts place.priority })

/-- Take the entry at a place out of line; nothing happens if it has left. -/
def leave (l : Line α) (p : Place) : Line α :=
  if l.contains p then
    { l with entries := l.entries.erase p, counts := countDown l.counts p.priority }
  else l

/-- The value at a place, if its entry still waits. -/
def find? (l : Line α) (p : Place) : Option α := l.entries.find? p

/-- The line after everybody was sent away; tickets go on where they were. -/
def clear (l : Line α) : Line α :=
  { l with entries := Table.empty, counts := Table.empty }

end Line

end Turnstile
