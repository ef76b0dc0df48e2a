import Turnstile.Proofs.Line.Service
import Turnstile.Proofs.Table.Tells

/-!
# The Numbers Beside a Line

Whether the numbers per priority can be trusted.

The numbers are a second account of who is in line, and nothing but the operations holds the
two together: each of them changes the entries by one statement and the numbers by another.
If they ever differed, they would differ for good, as every later change is relative. They
never do, and so the numbers may be shown in place of the line: there is one for each
priority that has entries and for no other, and together they make up all of the line.

A number is taken down after an entry was found to leave, so it is there and is not zero.
This is more than that the numbers come out right. Taking down a number that is missing
would have done nothing, and taking down zero would have stopped at zero.

## Main definitions

* `Line.TakenDown`: The number of one priority is smaller by one, and was not zero.

## Theorems

* `counts_tells`, `sum_counts`: The numbers tell the priorities in line, and make up all of it.
* `takenDown_of_perm`: When an entry is out of line, the number of its priority is taken down.
* `counts_of_run`: The numbers are right at any time, and are taken down properly.
-/

namespace Turnstile

namespace Line

variable {α : Type}

/-- From one line to another the number of one priority is taken down by one: it was there
    and was not zero, and it is left out instead of becoming zero. -/
def TakenDown (l m : Line α) (q : Priority) : Prop :=
  ∃ n, l.counts.find? q = some (n + 1) ∧
    ∀ r, m.counts.find? r =
      if q = r then (if n = 0 then none else some n) else l.counts.find? r

theorem waiting_eq_count (l : Line α) (q : Priority) :
    l.waiting q = (l.toList.map (·.1.priority)).count q := by
  rw [waiting, List.count, List.countP_map]
  rfl

/-- The numbers tell the priorities in line. -/
theorem counts_tells {l : Line α} (h : l.Exact) :
    l.counts.Tells (l.toList.map (·.1.priority)) := fun q => by
  rw [h.counts_eq, waiting_eq_count]

theorem sum_counts {l : Line α} (h : l.Exact) : (l.counts.entries.map (·.2)).sum = l.size := by
  rw [(counts_tells h).sum_eq, List.length_map, size_eq]

/-- A line is empty if no priority has a number. -/
theorem isEmpty_eq {l : Line α} (h : l.Exact) : l.isEmpty = l.counts.isEmpty := by
  rw [Bool.eq_iff_iff, isEmpty_iff, Table.isEmpty, List.isEmpty_iff]
  constructor
  · intro hempty
    have hnone : ∀ q, l.counts.find? q = none := fun q => by
      rw [h.counts_eq, waiting, hempty, List.countP_nil, if_pos rfl]
    exact congrArg Table.entries (Table.eq_of_find?_eq (u := Table.empty) hnone)
  · intro hempty
    have hsum := sum_counts h
    rw [hempty, List.map_nil, List.sum_nil, size_eq] at hsum
    exact List.eq_nil_of_length_eq_zero hsum.symm

/-- When an entry is out of line, the number of its priority is taken down. -/
theorem takenDown_of_perm {l m : Line α} (h : l.Exact) {p : Place} {v : α}
    (hperm : l.toList.Perm ((p, v) :: m.toList))
    (hcounts : m.counts = countDown l.counts p.priority) : l.TakenDown m p.priority := by
  have hnumber : l.counts.find? p.priority = some (m.waiting p.priority + 1) := by
    rw [h.counts_eq, waiting, hperm.countP_eq, List.countP_cons, if_pos (beq_self_eq_true _)]
    exact if_neg (Nat.succ_ne_zero _)
  exact ⟨_, hnumber, fun r => hcounts ▸ find?_countDown hnumber r⟩

/-- **The numbers beside a line are right.** Let anybody join, be served, leave and be sent
    away, in any order. Then each priority has its number of entries, and no number if it has
    no entries. The numbers add up to the size of the line, and there are none just if it is
    empty. When somebody is served, or leaves a place where it stands, the number of its
    priority is there to be taken down, and is not zero; and leaving any other place
    changes nothing. -/
theorem counts_of_run (acts : List (Act α)) :
    let line := (logged act (empty : Line α) acts).1
    (∀ q, line.counts.find? q = if line.waiting q = 0 then none else some (line.waiting q)) ∧
    (line.counts.entries.map (·.2)).sum = line.size ∧
    line.isEmpty = line.counts.isEmpty ∧
    (∀ p v rest, line.next? = some (p, v, rest) → line.TakenDown rest p.priority) ∧
    ∀ p, if line.contains p = true then line.TakenDown (line.leave p) p.priority
      else line.leave p = line := by
  intro line
  have hexact : line.Exact := exact_logged exact_empty acts
  refine ⟨hexact.counts_eq, sum_counts hexact, isEmpty_eq hexact, fun p v rest hnext => ?_,
    fun p => ?_⟩
  · exact takenDown_of_perm hexact (List.Perm.of_eq (toList_of_next? hnext))
      (counts_of_next? hnext)
  · split
    next hthere =>
      rcases (contains_iff line p).mp hthere with ⟨v, hv⟩
      refine takenDown_of_perm (v := v) hexact ?_ ?_
      · rw [toList_leave]
        exact eraseKey_perm p v line.ascending_toList hv
      · rw [leave, if_pos hthere]
    next hout => exact leave_of_not_contains (Bool.not_eq_true _ ▸ hout)

/-- One of three was served, and the place it had is left once more. The other two are of one
    priority, and when the first of them leaves its number is one. -/
theorem counts_of_run_of_three :
    let acts : List (Act Unit) :=
      [.join 0 Instant.epoch (), .join 0 Instant.epoch (), .join (-1) Instant.epoch (), .next,
        .leave ⟨-1, Instant.epoch, 2⟩]
    let line := (logged act (empty : Line Unit) acts).1
    let first : Place := ⟨0, Instant.epoch, 0⟩
    line.counts.entries = [(0, 2)] ∧ line.next? = some (first, (), line.leave first) ∧
    line.TakenDown (line.leave first) 0 ∧ line.leave ⟨-1, Instant.epoch, 2⟩ = line ∧
    (line.leave first).counts.entries = [(0, 1)] := by
  intro acts line first
  have hnext : line.next? = some (first, (), line.leave first) := rfl
  rcases counts_of_run acts with ⟨-, -, -, hserved, hleft⟩
  have hstale := hleft ⟨-1, Instant.epoch, 2⟩
  rw [if_neg (by decide)] at hstale
  exact ⟨by decide, hnext, hserved first () _ hnext, hstale, by decide⟩

end Line

end Turnstile
