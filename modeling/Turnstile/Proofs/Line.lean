import Turnstile.Line.Lemmas
import Turnstile.Proofs.Table

/-!
# Places and Numbers in Line

What holds of every line that was used through its operations only.

A ticket is given out once. Every entry has a ticket below the next one, so that
a new place is new, and a place whose entry has left is never taken again. This
is what makes a place a handle: whoever keeps one can at worst find nobody there.

The numbers per priority are kept beside the entries and are changed by
statements of their own. `Exact` says that they agree with the entries, and each
operation is shown to keep it so.

## Main definitions

* `Place.Before`: The order of service, spelled out.
* `Place.Sooner`: The same without tickets, by priority and arrival alone.
* `Line.waiting`: The number of entries of a priority.
* `Line.Exact`: Tickets below the next one, and numbers that are true.

## Theorems

* `Place.compare_eq_lt_iff`: Places compare in the order of service.
* `Place.compare_eq_lt_iff_sooner`: A newcomer has no advantage from its ticket.
* `exact_empty`, `exact_join`, `exact_of_next?`, `exact_leave`, `exact_clear`: Each
  operation keeps a line exact.
* `toList_leave_of_eq`: All but who stands at a place stay in line when it is left.
* `mem_join`, `mem_leave`: Who is in line after joining and leaving.
* `not_contains_of_subset`: Nobody stands in a part of a line who does not in the line.
* `leave_of_not_contains`: Leaving twice is leaving once.
* `eq_of_toList_eq`: Two lines with the same entries and the same next ticket are equal.
* `leave_comm`, `leave_join`: Two who leave, and one who leaves and one who joins, do so in
  any order.
-/

namespace Turnstile

namespace Place

/-- The order of service: smaller priorities first, among equal priorities
    earlier arrivals, among equal arrivals smaller tickets. -/
def Before (a b : Place) : Prop :=
  a.priority < b.priority ∨ a.priority = b.priority ∧
    (a.arrived < b.arrived ∨ a.arrived = b.arrived ∧ a.ticket < b.ticket)

/-- The part of this order that is there before tickets are. -/
def Sooner (a b : Place) : Prop :=
  a.priority < b.priority ∨ a.priority = b.priority ∧ a.arrived < b.arrived

instance (a b : Place) : Decidable (a.Sooner b) :=
  inferInstanceAs (Decidable (_ ∨ _))

/-- Places compare in the order of service. -/
theorem compare_eq_lt_iff (a b : Place) : compare a b = .lt ↔ a.Before b := by
  have hinstant : compare a.arrived b.arrived = .lt ↔ a.arrived < b.arrived :=
    Int.compare_eq_lt
  change compareLex _ _ a b = .lt ↔ _
  unfold compareLex
  rw [Ordering.then_eq_lt]
  change _ ∨ _ ∧ compareLex _ _ a b = .lt ↔ _
  unfold compareLex
  rw [Ordering.then_eq_lt]
  simp only [compareOn, Std.compare_eq_lt, Std.LawfulEqOrd.compare_eq_iff_eq, hinstant, Before]

/-- Whoever has the larger ticket comes first only by priority and arrival. -/
theorem compare_eq_lt_iff_sooner {a b : Place} (h : b.ticket < a.ticket) :
    compare a b = .lt ↔ a.Sooner b := by
  rw [compare_eq_lt_iff, Before, Sooner]
  simp only [Nat.not_lt_of_lt h, and_false, or_false]

end Place

namespace Line

variable {α : Type}

/-- The number of entries of a priority. -/
def waiting (l : Line α) (q : Priority) : Nat :=
  l.toList.countP fun e => e.1.priority == q

/-- Every ticket in line was given out, and the numbers kept beside the entries
    are those of the entries. -/
structure Exact (l : Line α) : Prop where
  /-- Tickets in line were given out before the next one. -/
  ticket_lt : ∀ e ∈ l.toList, e.1.ticket < l.nextTicket
  /-- A priority has its number of entries beside it, and none if there is none. -/
  counts_eq : ∀ q, l.counts.find? q = if l.waiting q = 0 then none else some (l.waiting q)

theorem ascending_toList (l : Line α) : Ascending l.toList :=
  l.entries.ascending

theorem contains_of_mem {l : Line α} {p : Place} {v : α} (h : (p, v) ∈ l.toList) :
    l.contains p = true :=
  (contains_iff l p).mpr ⟨v, h⟩

theorem contains_eq_false_iff (l : Line α) (p : Place) :
    l.contains p = false ↔ ∀ v, (p, v) ∉ l.toList := by
  rw [← Bool.not_eq_true, contains_iff, not_exists]

theorem not_mem_of_not_contains {l : Line α} {p : Place} (h : l.contains p = false) (v : α) :
    (p, v) ∉ l.toList :=
  (contains_eq_false_iff l p).mp h v

/-- Who stands at no place of a line stands at none of a part of it. -/
theorem not_contains_of_subset {l m : Line α} {p : Place}
    (h : ∀ v, (p, v) ∈ m.toList → (p, v) ∈ l.toList) (hout : l.contains p = false) :
    m.contains p = false :=
  (contains_eq_false_iff m p).mpr fun v hv => not_mem_of_not_contains hout v (h v hv)

/-- One more entry of a priority is counted. -/
theorem find?_countUp {counts : Table Priority Nat} {q : Priority} {n : Nat}
    (h : counts.find? q = if n = 0 then none else some n) (r : Priority) :
    (countUp counts q).find? r = if q = r then some (n + 1) else counts.find? r := by
  rw [countUp, Table.find?_alter_of_eq, h]
  by_cases hn : n = 0
  · rw [if_pos hn, hn, Option.getD_none]
  · rw [if_neg hn, Option.getD_some]

/-- One entry fewer of a priority that has some is counted. -/
theorem find?_countDown {counts : Table Priority Nat} {q : Priority} {n : Nat}
    (h : counts.find? q = some (n + 1)) (r : Priority) :
    (countDown counts q).find? r =
      if q = r then (if n = 0 then none else some n) else counts.find? r := by
  rw [countDown, Table.find?_alter_of_eq, h, Option.bind_some, Nat.add_sub_cancel]

theorem exact_empty : (empty : Line α).Exact where
  ticket_lt := fun _ he => absurd he List.not_mem_nil
  counts_eq := fun _ => rfl

/-- The tickets go on, so that old places stay taken after everybody left. -/
theorem exact_clear (l : Line α) : l.clear.Exact where
  ticket_lt := fun _ he => absurd he List.not_mem_nil
  counts_eq := fun _ => rfl

/-- Joining adds one entry, at a place that is new. -/
theorem join_perm {l : Line α} (h : l.Exact) (q : Priority) (t : Instant) (v : α) :
    (l.join q t v).1.toList.Perm (((l.join q t v).2, v) :: l.toList) := by
  rw [toList_join]
  refine insertEntry_perm _ _ _ fun e he heq => ?_
  have hlt := h.ticket_lt e he
  rw [← Std.LawfulEqOrd.eq_of_compare heq] at hlt
  exact Nat.lt_irrefl _ hlt

/-- Who is in line after joining. -/
theorem mem_join {l : Line α} (h : l.Exact) (q : Priority) (t : Instant) (v : α)
    (e : Place × α) :
    e ∈ (l.join q t v).1.toList ↔ e = ((l.join q t v).2, v) ∨ e ∈ l.toList := by
  rw [(join_perm h q t v).mem_iff, List.mem_cons]

theorem exact_join {l : Line α} (h : l.Exact) (q : Priority) (t : Instant) (v : α) :
    (l.join q t v).1.Exact where
  ticket_lt := by
    intro e he
    change e.1.ticket < l.nextTicket + 1
    rcases (mem_join h q t v e).mp he with rfl | he
    · exact Nat.lt_succ_self _
    · exact Nat.lt_succ_of_lt (h.ticket_lt e he)
  counts_eq := by
    intro r
    have hwaiting : (l.join q t v).1.waiting r = l.waiting r + if q = r then 1 else 0 := by
      rw [waiting, (join_perm h q t v).countP_eq, List.countP_cons]
      simp only [waiting, join, beq_iff_eq]
    change (countUp l.counts q).find? r = _
    rw [find?_countUp (h.counts_eq q), hwaiting, h.counts_eq r]
    by_cases hr : q = r
    · rw [if_pos hr, if_pos hr, if_neg (Nat.succ_ne_zero _), hr]
    · rw [if_neg hr, if_neg hr, Nat.add_zero]

/-- An entry fewer in line, with the number of its priority taken down, leaves the
    numbers true. -/
theorem countDown_exact {l : Line α} (h : l.Exact) {p : Place} {v : α}
    {rest : List (Place × α)} (hperm : l.toList.Perm ((p, v) :: rest)) (r : Priority) :
    (countDown l.counts p.priority).find? r =
      if rest.countP (fun e => e.1.priority == r) = 0 then none
      else some (rest.countP fun e => e.1.priority == r) := by
  have hwaiting : ∀ q, l.waiting q =
      rest.countP (fun e => e.1.priority == q) + if p.priority = q then 1 else 0 := by
    intro q
    rw [waiting, hperm.countP_eq, List.countP_cons]
    simp only [beq_iff_eq]
  have hp : l.counts.find? p.priority =
      some (rest.countP (fun e => e.1.priority == p.priority) + 1) := by
    rw [h.counts_eq, hwaiting, if_pos rfl, if_neg (Nat.succ_ne_zero _)]
  rw [find?_countDown hp]
  by_cases hr : p.priority = r
  · rw [if_pos hr, hr]
  · rw [if_neg hr, h.counts_eq, hwaiting, if_neg hr, Nat.add_zero]

theorem counts_of_next? {l m : Line α} {p : Place} {v : α}
    (hnext : l.next? = some (p, v, m)) : m.counts = countDown l.counts p.priority := by
  simp only [next?, Option.map_eq_some_iff] at hnext
  rcases hnext with ⟨e, -, heq⟩
  cases heq
  rfl

theorem nextTicket_of_next? {l m : Line α} {p : Place} {v : α}
    (hnext : l.next? = some (p, v, m)) : m.nextTicket = l.nextTicket := by
  simp only [next?, Option.map_eq_some_iff] at hnext
  rcases hnext with ⟨e, -, heq⟩
  cases heq
  rfl

theorem exact_of_next? {l m : Line α} (h : l.Exact) {p : Place} {v : α}
    (hnext : l.next? = some (p, v, m)) : m.Exact where
  ticket_lt := by
    intro e he
    rw [nextTicket_of_next? hnext]
    exact h.ticket_lt e (toList_of_next? hnext ▸ List.mem_cons_of_mem _ he)
  counts_eq := by
    intro r
    rw [counts_of_next? hnext]
    exact countDown_exact h (List.Perm.of_eq (toList_of_next? hnext)) r

@[simp] theorem nextTicket_leave (l : Line α) (p : Place) :
    (l.leave p).nextTicket = l.nextTicket := by
  unfold leave
  split <;> rfl

/-- All but who stands at the place stay in line. -/
theorem toList_leave_of_eq (l : Line α) (p : Place) :
    (l.leave p).toList = l.toList.filter (·.1 ≠ p) := by
  rw [toList_leave, eraseKey]
  refine List.filter_congr fun e _ => ?_
  rw [Bool.eq_iff_iff, bne_iff_ne, decide_eq_true_iff, ne_eq, Std.LawfulEqOrd.compare_eq_iff_eq]

/-- Who is in line after somebody left. -/
theorem mem_leave (l : Line α) (p : Place) (e : Place × α) :
    e ∈ (l.leave p).toList ↔ e ∈ l.toList ∧ e.1 ≠ p := by
  rw [toList_leave_of_eq, List.mem_filter, decide_eq_true_iff]

/-- Leaving a place where nobody stands changes nothing. -/
theorem leave_of_not_contains {l : Line α} {p : Place} (h : l.contains p = false) :
    l.leave p = l := by
  rw [leave, h]
  rfl

theorem exact_leave {l : Line α} (h : l.Exact) (p : Place) : (l.leave p).Exact := by
  by_cases hp : l.contains p = true
  · rcases (contains_iff l p).mp hp with ⟨v, hv⟩
    have hperm := eraseKey_perm p v l.ascending_toList hv
    constructor
    · intro e he
      rw [nextTicket_leave]
      exact h.ticket_lt e ((mem_leave l p e).mp he).1
    · intro r
      have hcounts : (l.leave p).counts = countDown l.counts p.priority := by
        rw [leave, if_pos hp]
      rw [hcounts, countDown_exact h hperm, waiting, toList_leave]
  · rw [leave_of_not_contains (Bool.not_eq_true _ ▸ hp)]
    exact h

/-- The entries and the next ticket are all there is to a line whose numbers are true. -/
theorem eq_of_toList_eq {l m : Line α} (hl : l.Exact) (hm : m.Exact)
    (hlist : l.toList = m.toList) (hticket : l.nextTicket = m.nextTicket) : l = m := by
  have hcounts : l.counts = m.counts := by
    refine Table.eq_of_find?_eq fun q => ?_
    rw [hl.counts_eq, hm.counts_eq, waiting, waiting, hlist]
  rcases l with ⟨⟨entries, hasc⟩, counts, nextTicket⟩
  rcases m with ⟨⟨entries', hasc'⟩, counts', nextTicket'⟩
  cases hlist
  cases hcounts
  cases hticket
  rfl

/-- Two who leave do so in any order. -/
theorem leave_comm {l : Line α} (h : l.Exact) (p q : Place) :
    (l.leave p).leave q = (l.leave q).leave p := by
  refine eq_of_toList_eq (exact_leave (exact_leave h p) q) (exact_leave (exact_leave h q) p) ?_ ?_
  · rw [toList_leave, toList_leave, toList_leave, toList_leave]
    exact congrArg Table.entries (Table.erase_comm l.entries p q)
  · simp only [nextTicket_leave]

/-- One who leaves and one who joins do so in any order, unless it is the new place that is
    left. -/
theorem leave_join {l : Line α} (h : l.Exact) {p : Place} (hp : p.ticket < l.nextTicket)
    (q : Priority) (t : Instant) (v : α) :
    (l.join q t v).1.leave p = ((l.leave p).join q t v).1 := by
  have hne : (⟨q, t, l.nextTicket⟩ : Place) ≠ p := by
    rintro rfl
    exact Nat.lt_irrefl _ hp
  refine eq_of_toList_eq (exact_leave (exact_join h q t v) p) (exact_join (exact_leave h p) q t v)
    ?_ ?_
  · rw [toList_leave, toList_join, toList_join, toList_leave, join, join, nextTicket_leave]
    exact congrArg Table.entries (Table.erase_insert_of_ne l.entries v hne)
  · rw [nextTicket_leave, join, join, nextTicket_leave]

end Line

end Turnstile
