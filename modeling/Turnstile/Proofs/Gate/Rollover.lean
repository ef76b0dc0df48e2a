import Mathlib.Data.List.Infix
import Turnstile.Proofs.Gate.Task

/-!
# What a Rollover Comes To

The loop that promotes, in closed form.

The loop has two reasons to stop, that the quota is used up and that nobody is left, and it
takes entries out that do not bring it closer to the first. How far it gets can be said
without it. It goes to the end of the shortest head of the line in which as many entries
are in time as there are slots, and to the end of the line if there is no such head. The
entries of this head get their verdicts, each by its own deadline, and the rest of the line
is left as it is.

Nothing else about the clock matters. Two readings in later windows come to the same if the
same deadlines have passed at both, however many windows lie between, and whatever window
was observed before. `promote_later` says so of the loop: the window of a gate goes through
it untouched, and its reading is only ever compared with deadlines of those in line.

## Main definitions

* `shortestHead`: The shortest head of a line with a number of entries in time.
* `Gate.RollsOver`: What observing a later window changes, and how.

## Theorems

* `servedOf_eq_shortestHead`: The loop serves the shortest head.
* `promote_later`: What the loop depends on.
* `rollover_serves_head`: Observing the window in closed form.
-/

namespace Turnstile

/-- The shortest head of a line that holds a number of entries whose deadlines are still to
    come, and all of the line if it holds fewer. -/
def shortestHead (now : Instant) (n : Nat) (l : List (Place × Waiter)) : List (Place × Waiter) :=
  (l.inits.find? fun head => head.countP (fun e => now < e.2.deadline) = n).getD l

theorem Waiter.onTime_eq (w : Waiter) (now : Instant) : w.onTime now = decide (now < w.deadline) :=
  Bool.eq_iff_iff.mpr ((w.onTime_iff now).trans decide_eq_true_iff.symm)

/-- The loop serves the shortest head. -/
theorem servedOf_eq_shortestHead (now : Instant) (n : Nat) (l : List (Place × Waiter)) :
    servedOf now n l = shortestHead now n l := by
  unfold shortestHead
  induction l generalizing n with
  | nil =>
      simp only [List.inits, List.find?_singleton]
      split <;> rfl
  | cons e rest ih =>
      rw [List.inits_cons, List.find?_cons, List.countP_nil, List.find?_map]
      cases n with
      | zero => exact servedOf_zero now _
      | succ n =>
          -- A head with the entry in front is short of one slot fewer, if the entry takes one.
          have hfits : ((fun head : List (Place × Waiter) =>
                decide (head.countP (fun x => decide (now < x.2.deadline)) = n + 1)) ∘ (e :: ·)) =
              fun head => decide (head.countP (fun x => decide (now < x.2.deadline)) =
                if e.2.onTime now then n else n + 1) := by
            funext head
            simp only [Function.comp_apply, List.countP_cons, Waiter.onTime_eq]
            by_cases htime : now < e.2.deadline
            · simp only [htime, decide_true, if_true, Nat.add_right_cancel_iff]
            · simp only [htime, decide_false, Bool.false_eq_true, if_false, Nat.add_zero]
          have hempty : decide (0 = n + 1) = false := rfl
          rw [servedOf, ih, hfits]
          simp only [hempty]
          cases rest.inits.find? _ <;> rfl

theorem countP_shortestHead (now : Instant) (n : Nat) (l : List (Place × Waiter)) :
    (shortestHead now n l).countP (fun e => now < e.2.deadline) =
      min n (l.countP fun e => now < e.2.deadline) := by
  -- Those of the head who are in time are the first who are, as many as there are slots.
  have hfirst := congrArg List.length (inTime_servedOf now n l)
  rw [List.length_take, inTime, inTime, ← List.countP_eq_length_filter,
    ← List.countP_eq_length_filter, servedOf_eq_shortestHead] at hfirst
  simp only [Waiter.onTime_eq] at hfirst
  exact hfirst

theorem Line.getD_counts {α : Type} {l : Line α} (h : l.Exact) (q : Priority) :
    (l.counts.find? q).getD 0 = l.waiting q := by
  rw [h.counts_eq]
  split
  next hnone => rw [hnone, Option.getD_none]
  next => rfl

namespace Gate

/-- What observing a later window changes, and how: a head of the line is given its verdicts
    and leaves. -/
structure RollsOver (g : Gate) (now : Instant) (head : List (Place × Waiter)) (g' : Gate)
    (notices : List Notice) : Prop where
  /-- The window of the reading is the one observed. -/
  window_eq : g'.window = g.policy.windowAt now
  /-- The head leaves the line, and the rest stays as it is. -/
  toList_eq : g.line.toList = head ++ g'.line.toList
  /-- Who leaves had heard nothing, and is told whether its deadline is still to come. -/
  told : ∀ e ∈ head,
    g.callers.find? e.2.call = some ⟨e.1, e.2.deadline, none⟩ ∧
      g'.callers.find? e.2.call = some ⟨e.1, e.2.deadline, some (decide (now < e.2.deadline))⟩
  /-- All other calls are as they were. -/
  untold : ∀ call, (∀ e ∈ head, e.2.call ≠ call) → g'.callers.find? call = g.callers.find? call
  /-- The verdicts are noticed one after the other. -/
  notices_eq : notices = head.map fun e =>
    if now < e.2.deadline then .granted e.2.call else .denied e.2.call
  /-- Slots are given to those of the head who are in time. -/
  admitted_eq : g'.admitted = head.countP fun e => now < e.2.deadline
  /-- They are as many as there are slots, or as many as are in time. -/
  admitted_min : g'.admitted =
    min g.policy.quota.toNat (g.line.toList.countP fun e => now < e.2.deadline)
  /-- Of each priority there wait fewer by those who left, and a number that is shown is
      never zero. -/
  counts_eq : ∀ q, (g.counts.find? q).getD 0 =
      (g'.counts.find? q).getD 0 + head.countP (fun e => e.1.priority = q) ∧
    g'.counts.find? q ≠ some 0
  /-- No ticket is given out. -/
  nextTicket_eq : g'.line.nextTicket = g.line.nextTicket
  /-- Whether the gate is closed and what watches its window stay the same. -/
  frame : g' = { g with
    window := g'.window
    admitted := g'.admitted
    line := g'.line
    callers := g'.callers }

theorem rollsOver_of_later {g : Gate} (h : g.Paired) {now : Instant}
    (hlater : g.window < g.policy.windowAt now) :
    g.RollsOver now (shortestHead now g.policy.quota.toNat g.line.toList) (g.roll now).1
      (g.roll now).2 := by
  have hnew : ¬g.policy.windowAt now ≤ g.window := Int.not_le.mpr hlater
  have hserves := roll_serves h.attended now
  have hhead : g.served now = shortestHead now g.policy.quota.toNat g.line.toList := by
    rw [served, if_neg hnew, servedOf_eq_shortestHead]
  rw [hhead] at hserves
  have hadmitted : (g.roll now).1.admitted =
      (shortestHead now g.policy.quota.toNat g.line.toList).countP
        (fun e => now < e.2.deadline) := by
    rw [hserves.admitted_eq, observed, if_neg hnew, Nat.zero_add]
    simp only [Waiter.onTime_eq]
  have hlist := hserves.toList_eq
  rw [observed_line] at hlist
  have hexact := hserves.line_exact (observed_line g now ▸ h.exact)
  constructor
  case window_eq => rw [window_of_serves hserves, observed, if_neg hnew]
  case toList_eq => exact hlist
  case told =>
    intro e he
    constructor
    · refine h.attended e ?_
      rw [hlist]
      exact List.mem_append_left _ he
    · rw [hserves.told.told e he, Waiter.onTime_eq]
  case untold =>
    intro call hcall
    rw [hserves.told.untold call hcall, observed_callers]
  case notices_eq =>
    rw [hserves.notices_eq]
    simp only [Waiter.notice, Waiter.onTime_eq, decide_eq_true_eq]
  case admitted_eq => exact hadmitted
  case admitted_min => rw [hadmitted, countP_shortestHead]
  case counts_eq =>
    intro q
    constructor
    · -- The numbers are those of the entries on both sides, and the line is split in two.
      have hsplit := congrArg (List.countP fun e => e.1.priority == q) hlist
      rw [List.countP_append, Nat.add_comm] at hsplit
      rw [counts, counts, Line.getD_counts h.exact, Line.getD_counts hexact]
      exact hsplit
    · rw [counts, hexact.counts_eq]
      split
      next => exact (Option.some_ne_none 0).symm
      next hsome => exact fun hzero => hsome (Option.some.inj hzero)
  case nextTicket_eq => rw [hserves.nextTicket_eq, observed_line]
  case frame =>
    have hframe := hserves.frame
    rw [observed, if_neg hnew] at hframe
    rw [hframe]

theorem line_send (g : Gate) (call : CallId) (v : Bool) : (g.send call v).line = g.line := by
  unfold send send?
  cases g.callers.find? call <;> rfl

theorem send?_window (g : Gate) (w : Int) (call : CallId) (v : Bool) :
    { g with window := w : Gate }.send? call v =
      (g.send? call v).map fun told => { told with window := w } := by
  unfold send?
  rw [Option.map_map]
  rfl

theorem send_window (g : Gate) (w : Int) (call : CallId) (v : Bool) :
    { g with window := w : Gate }.send call v = { g.send call v with window := w } := by
  unfold send
  rw [send?_window]
  cases g.send? call v <;> rfl

/-- The loop depends on its reading by the deadlines alone, and takes the window along. -/
theorem promote_later (fuel : Nat) {now later : Instant} (w : Int) (g : Gate)
    (hsame : ∀ e ∈ g.line.toList, e.2.deadline ≤ later ↔ e.2.deadline ≤ now) :
    promote fuel later { g with window := w } =
      ({ (promote fuel now g).1 with window := w }, (promote fuel now g).2) := by
  induction fuel generalizing g with
  | zero => rfl
  | succ fuel ih =>
      have hquota : { g with window := w : Gate }.hasQuota = g.hasQuota := rfl
      rw [promote, promote, hquota]
      split
      next =>
        cases hnext : g.line.next? with
        | none => rfl
        | some first =>
            rcases first with ⟨place, waiter, line⟩
            have hlist := Line.toList_of_next? hnext
            have hfirst := hsame (place, waiter) (hlist ▸ List.mem_cons_self)
            -- Whatever is sent to the first, those behind it are the same.
            have hrest : ∀ told : Gate, told.line = line → ∀ e ∈ told.line.toList,
                e.2.deadline ≤ later ↔ e.2.deadline ≤ now := by
              intro told htold e he
              rw [htold] at he
              exact hsame e (hlist ▸ List.mem_cons_of_mem _ he)
            have hdenied := send_window { g with line } w waiter.call false
            have hgranted := send?_window { g with line } w waiter.call true
            simp only [hfirst, hdenied, hgranted]
            split
            next => rw [ih _ (hrest _ (line_send _ _ _))]
            next =>
              cases hsend : { g with line : Gate }.send? waiter.call true with
              | none => exact ih _ (hrest { g with line } rfl)
              | some told =>
                  have htold : told.line = line := by
                    have hline := line_send { g with line } waiter.call true
                    rw [send, hsend] at hline
                    exact hline
                  have hslot := ih { told with admitted := told.admitted + 1 } (hrest _ htold)
                  simp only [Option.map_some, hslot]
      next => rfl

/-- **A rollover serves the shortest head.** Take any state of a gate and any reading. If the
    reading is in no later window than the one observed, nothing changes. Otherwise the
    shortest head of the line that fills the quota is given its verdicts and leaves. And
    it makes no difference at which reading of a later window this happens, or which window
    was observed before: the same calls hear the same as long as the same deadlines are
    still to come. -/
theorem rollover_serves_head (policy : Policy) (first : Instant) (es : List Event)
    (now : Instant) :
    let g := ((start policy first).run es).1
    let head := shortestHead now policy.quota.toNat g.line.toList
    (policy.windowAt now ≤ g.window → g.roll now = (g, [])) ∧
    (g.window < policy.windowAt now → g.RollsOver now head (g.roll now).1 (g.roll now).2) ∧
    ∀ later w, g.window < policy.windowAt now → w < policy.windowAt later →
      (∀ e ∈ g.line.toList, later < e.2.deadline ↔ now < e.2.deadline) →
      { g with window := w : Gate }.roll later =
        ({ (g.roll now).1 with window := policy.windowAt later }, (g.roll now).2) := by
  intro g head
  have hpaired : g.Paired := (sound_of_start policy first es).toPaired
  have hpolicy : g.policy = policy := run_policy (sound_start policy first) es
  refine ⟨fun hsame => roll_of_le (hpolicy ▸ hsame), fun hlater => ?_,
    fun later w hlater hw hsame => ?_⟩
  · have hnew : g.window < g.policy.windowAt now := hpolicy ▸ hlater
    have hrolls := rollsOver_of_later hpaired hnew
    rw [hpolicy] at hrolls
    exact hrolls
  · -- Either way the loop starts with a fresh quota, and with a window it does not look at.
    have hdeadlines : ∀ e ∈ g.line.toList, e.2.deadline ≤ later ↔ e.2.deadline ≤ now := by
      intro e he
      have hiff := not_congr (hsame e he)
      exact Int.not_lt.symm.trans (hiff.trans Int.not_lt)
    have hnow : g.roll now =
        promote g.line.size now { g with window := policy.windowAt now, admitted := 0 } := by
      rw [roll, hpolicy, if_neg (Int.not_le.mpr hlater)]
    have hthen : { g with window := w : Gate }.roll later =
        promote g.line.size later { g with window := policy.windowAt later, admitted := 0 } := by
      rw [roll, hpolicy, if_neg (Int.not_le.mpr hw)]
    rw [hnow, hthen]
    exact promote_later g.line.size (policy.windowAt later)
      { g with window := policy.windowAt now, admitted := 0 } hdeadlines

/-- Of three calls that wait for the one slot, the first has waited too long when the next window
    opens. Its refusal uses up nothing, so that the second has the slot, and the third goes
    on waiting. Had the third window been the next one observed, it would be the same. -/
theorem rollover_serves_head_in_rush :
    let crowd : List Event :=
      [.arrive 0 Rush.request (.ofSeconds 5) Instant.epoch,
        .arrive 1 Rush.request (.ofSeconds 1) Instant.epoch,
        .arrive 2 Rush.request (.ofSeconds 5) Instant.epoch,
        .arrive 3 Rush.request (.ofSeconds 5) Instant.epoch]
    let g := ((start Rush.policy Instant.epoch).run crowd).1
    let head := shortestHead Rush.second 1 g.line.toList
    g.window < Rush.policy.windowAt Rush.second ∧
    g.RollsOver Rush.second head (g.roll Rush.second).1 (g.roll Rush.second).2 ∧
    head.map (·.2.call) = [1, 2] ∧ (g.roll Rush.second).1.line.toList.map (·.2.call) = [3] ∧
    (g.roll Rush.second).2 = [.denied 1, .granted 2] ∧
    (g.roll Rush.third).2 = [.denied 1, .granted 2] ∧
    g.roll Instant.epoch = (g, []) := by
  intro crowd g head
  have hlater : g.window < Rush.policy.windowAt Rush.second := by decide
  have hthird : g.window < Rush.policy.windowAt Rush.third := by decide
  rcases rollover_serves_head Rush.policy Instant.epoch crowd Rush.second with
    ⟨-, hrolls, hsame⟩
  have hafter := hsame Rush.third g.window hlater hthird (by decide)
  have hnotices : (g.roll Rush.second).2 = [.denied 1, .granted 2] :=
    (hrolls hlater).notices_eq.trans (by decide)
  exact ⟨hlater, hrolls hlater, by decide, by decide, hnotices,
    (congrArg Prod.snd hafter).trans hnotices,
    (rollover_serves_head Rush.policy Instant.epoch crowd Instant.epoch).1 (by decide)⟩

end Gate

end Turnstile
