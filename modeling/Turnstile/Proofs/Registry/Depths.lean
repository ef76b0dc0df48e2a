import Mathlib.Data.List.Count
import Turnstile.Metrics
import Turnstile.Proofs.Gate.Verdict
import Turnstile.Proofs.Registry.Keys
import Turnstile.Proofs.Table.Tells

/-!
# Depths

How many calls wait with a remedy and a priority, over all gates of the remedy.

No gate knows of the others, so the numbers of several gates are added up, for one gate after the
other and one priority after the other. What this comes to is told without any adding: write
down, for each call that waits and was sent nothing, the remedy it waits for and its priority.
The sums tell how often each pair is on this list. As this does not depend on the
order of the list, it makes no difference in which order the gates are come by.

A pair that is not on the list has no sum, rather than a sum of zero. This is owed to the gates,
which have no number for a priority that nobody waits with.

## Main definitions

* `Registry.lanes`: The remedies and priorities of those who wait at some gates, one by one.
* `Registry.depthsOf`: The sums for gates in the order in which they are found.
* `Registry.depth`: The calls that wait with a remedy and a priority.
* `Registry.undecided`: All calls that wait.

## Theorems

* `depthsOf_tells`: The sums tell who waits.
* `depthsOf_of_perm`: The sums are the same in whatever order gates are found.
* `mem_depths_iff`, `sum_depths`: The sums of a registry, and what they make up together.
-/

namespace Turnstile

namespace Gate

/-- The priorities of the calls that wait and were sent nothing yet, one by one. -/
def priorities (g : Gate) : List Priority :=
  (g.callers.entries.filter fun e => e.2.verdict.isNone).map (·.2.place.priority)

theorem count_priorities (g : Gate) (q : Priority) : g.priorities.count q = g.undecided q := by
  rw [priorities, List.count, List.countP_map, List.countP_filter, undecided]
  exact List.countP_congr fun e _ => by rw [Function.comp_apply, Bool.and_comm]

/-- The numbers of a gate tell who waits. -/
theorem counts_tells {g : Gate} (h : g.Paired) : g.counts.Tells g.priorities := by
  intro q
  rw [count_priorities, ← waiting_eq_undecided h]
  exact h.exact.counts_eq q

end Gate

namespace Registry

/-- The remedies and priorities of the calls that wait at some gates, one by one. -/
def lanes (found : List (Key × Gate)) : List Lane :=
  found.flatMap fun e => e.2.priorities.map (Lane.mk e.1.remedy)

/-- The sums for gates, in the order in which they are found. -/
def depthsOf (found : List (Key × Gate)) : Table Lane Nat :=
  found.foldl
    (fun depths e => e.2.counts.entries.foldl
      (fun depths c => depths.add (Lane.mk e.1.remedy c.1) c.2) depths)
    Table.empty

/-- How many calls wait with a priority and were sent nothing, over all gates of a remedy. -/
def depth (r : Registry) (lane : Lane) : Nat :=
  (r.gates.entries.map fun e =>
    if e.1.remedy = lane.remedy then e.2.undecided lane.priority else 0).sum

/-- How many calls wait and were sent nothing, over all gates. -/
def undecided (r : Registry) : Nat :=
  (r.gates.entries.map fun e => e.2.callers.entries.countP fun c => c.2.verdict.isNone).sum

variable {r : Registry} {found : List (Key × Gate)}

theorem depths_eq (r : Registry) : r.depths = depthsOf r.gates.entries := by
  rw [depths, counts, List.foldl_map]
  rfl

theorem count_lanes (r : Registry) (lane : Lane) :
    (lanes r.gates.entries).count lane = r.depth lane := by
  rw [lanes, depth, List.count_flatMap]
  refine congrArg List.sum (List.map_congr_left fun e _ => ?_)
  rw [Function.comp_apply, ← Gate.count_priorities]
  -- The pairs with one remedy are told apart by the priority.
  split
  next hremedy =>
    have hlane : lane = Lane.mk e.1.remedy lane.priority := by rw [hremedy]
    rw [hlane]
    exact List.count_map_of_injective _ _ (fun _ _ heq => (Lane.mk.inj heq).2) _
  next hother =>
    refine List.count_eq_zero.mpr fun hmem => hother ?_
    rcases List.mem_map.mp hmem with ⟨q, -, heq⟩
    exact congrArg Lane.remedy heq

theorem length_lanes (r : Registry) : (lanes r.gates.entries).length = r.undecided := by
  rw [lanes, undecided, List.length_flatMap]
  refine congrArg List.sum (List.map_congr_left fun e _ => ?_)
  rw [List.length_map, Gate.priorities, List.length_map, List.countP_eq_length_filter]

theorem addGates_tells (hfound : ∀ e ∈ found, e.2.Paired) {t : Table Lane Nat} {ks : List Lane}
    (h : t.Tells ks) :
    (found.foldl
      (fun depths e => e.2.counts.entries.foldl
        (fun depths c => depths.add (Lane.mk e.1.remedy c.1) c.2) depths) t).Tells
      (ks ++ lanes found) := by
  induction found generalizing t ks with
  | nil =>
      rw [lanes, List.flatMap_nil, List.append_nil]
      exact h
  | cons e found ih =>
      -- The gate that is found first adds its calls to the list, and the others add theirs.
      rw [List.foldl_cons, lanes, List.flatMap_cons, ← lanes, ← List.append_assoc]
      have hgate := Gate.counts_tells (hfound e List.mem_cons_self)
      exact ih (fun x hx => hfound x (List.mem_cons_of_mem _ hx))
        (h.addTable hgate (Lane.mk e.1.remedy))

/-- The sums tell who waits. -/
theorem depthsOf_tells (hfound : ∀ e ∈ found, e.2.Paired) :
    (depthsOf found).Tells (lanes found) := by
  have hnobody : (Table.empty : Table Lane Nat).Tells [] := fun _ => rfl
  have h := addGates_tells hfound hnobody
  rw [List.nil_append] at h
  exact h

/-- The sums are the same in whatever order gates are found. -/
theorem depthsOf_of_perm (hgates : ∀ e ∈ r.gates.entries, e.2.Paired)
    (hfound : found.Perm r.gates.entries) : depthsOf found = r.depths := by
  have hpaired : ∀ e ∈ found, e.2.Paired := fun e he => hgates e (hfound.mem_iff.mp he)
  rw [depths_eq]
  -- Both tables tell the same list, up to its order.
  exact ((depthsOf_tells hpaired).perm (hfound.flatMap_right _)).eq (depthsOf_tells hgates)

theorem find?_depths (hgates : ∀ e ∈ r.gates.entries, e.2.Paired) (lane : Lane) :
    r.depths.find? lane = if r.depth lane = 0 then none else some (r.depth lane) := by
  rw [depths_eq, ← count_lanes]
  exact depthsOf_tells hgates lane

/-- There is a sum for whatever somebody waits with, and for nothing else. -/
theorem mem_depths_iff (hgates : ∀ e ∈ r.gates.entries, e.2.Paired) (lane : Lane) (n : Nat) :
    (lane, n) ∈ r.depths.entries ↔ 0 < r.depth lane ∧ n = r.depth lane := by
  rw [← Table.find?_eq_some_iff, find?_depths hgates]
  split
  next hzero => exact ⟨fun h => (nomatch h), fun ⟨hpos, _⟩ => absurd hzero (Nat.ne_of_gt hpos)⟩
  next hsome =>
    rw [Option.some.injEq]
    exact ⟨fun heq => ⟨Nat.pos_of_ne_zero hsome, heq.symm⟩, fun ⟨_, heq⟩ => heq.symm⟩

/-- The sums make up all who wait. -/
theorem sum_depths (hgates : ∀ e ∈ r.gates.entries, e.2.Paired) :
    (r.depths.entries.map (·.2)).sum = r.undecided := by
  rw [← length_lanes, depths_eq]
  exact (depthsOf_tells hgates).sum_eq

end Registry

end Turnstile
