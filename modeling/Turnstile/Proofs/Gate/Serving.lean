import Turnstile.Gate.Basic
import Turnstile.Proofs.Line

/-!
# Serving the Line

What the loop that promotes does, said without the loop.

`promote` goes through the line with fuel and sends verdicts as it goes, so that
nothing can be read off its result. `servedOf` names the entries it takes: the
shortest head of the line that fills the free slots, where entries whose deadline
has come fill none. All the rest follows from that list. The line that is left is
the line without it, the notices tell of it entry by entry, and each call in it
has the verdict that its own deadline gives it.

The loop skips an entry whose call is gone. There are no such entries as long as
each entry has its call, and serving keeps this so: two entries never share a call,
so a verdict for the one served leaves the calls of all others as they were.

Closing sends verdicts to the whole line and is described by the same relation,
with a verdict that does not look at deadlines.

## Main definitions

* `Waiter.onTime`: Whether a slot may still be given to an entry.
* `servedOf`: The entries that are served into a number of slots.
* `Attended`: Each entry of a list has its call.
* `Told`: The calls after the entries of a list were sent their verdicts.
* `Serves`: What serving a head of the line comes to.

## Theorems

* `countP_servedOf_le`, `countP_servedOf_eq`: The served fit the slots, and fill them if
  anybody is left.
* `eq_of_call_eq`, `calls_distinct`: No two entries of an attended list have one call.
* `attended_tail`: Serving the head leaves the others attended.
* `promote_serves`: The loop serves `servedOf`.
* `foldl_send_told`: Sending one verdict after the other tells each call.
* `roll_serves`, `close_serves`: What observing the window and closing come to.
-/

namespace Turnstile

/-- Whether the deadline of an entry is still to come. -/
def Waiter.onTime (w : Waiter) (now : Instant) : Bool :=
  !decide (w.deadline ≤ now)

theorem Waiter.onTime_iff (w : Waiter) (now : Instant) :
    w.onTime now = true ↔ now < w.deadline := by
  rw [onTime, Bool.not_eq_true', decide_eq_false_iff_not]
  exact Int.not_le

theorem Waiter.onTime_eq_false_iff (w : Waiter) (now : Instant) :
    w.onTime now = false ↔ w.deadline ≤ now := by
  rw [onTime, Bool.not_eq_false', decide_eq_true_iff]

/-- The entries at the head of a list that are served into a number of slots;
    those whose deadline has come take no slot. -/
def servedOf (now : Instant) : Nat → List (Place × Waiter) → List (Place × Waiter)
  | _, [] => []
  | 0, _ :: _ => []
  | slots + 1, e :: rest =>
    e :: servedOf now (if e.2.onTime now then slots else slots + 1) rest

theorem servedOf_zero (now : Instant) (l : List (Place × Waiter)) : servedOf now 0 l = [] := by
  cases l <;> rfl

/-- No more slots are taken than are free. -/
theorem countP_servedOf_le (now : Instant) (slots : Nat) (l : List (Place × Waiter)) :
    (servedOf now slots l).countP (fun e => e.2.onTime now) ≤ slots := by
  induction l generalizing slots with
  | nil => exact Nat.zero_le _
  | cons e rest ih =>
      cases slots with
      | zero => exact Nat.le_refl 0
      | succ n =>
          -- The slots left for the rest are one fewer just when the entry is counted.
          have hrest := ih (if e.2.onTime now then n else n + 1)
          rw [servedOf, List.countP_cons]
          by_cases he : e.2.onTime now = true
          · rw [if_pos he] at hrest ⊢
            rw [if_pos he]
            omega
          · rw [if_neg he] at hrest ⊢
            rw [if_neg he]
            omega

/-- If anybody is left, all slots are taken. -/
theorem countP_servedOf_eq (now : Instant) (slots : Nat) (l rest : List (Place × Waiter))
    (h : l = servedOf now slots l ++ rest) (hrest : rest ≠ []) :
    (servedOf now slots l).countP (fun e => e.2.onTime now) = slots := by
  induction l generalizing slots with
  | nil =>
      -- Nobody is left of a list that was empty.
      exact absurd (List.append_eq_nil_iff.mp h.symm).2 hrest
  | cons e tail ih =>
      cases slots with
      | zero => rw [servedOf_zero, List.countP_nil]
      | succ n =>
          simp only [servedOf, List.cons_append, List.cons.injEq, true_and] at h
          have htail := ih _ h
          rw [servedOf, List.countP_cons]
          by_cases he : e.2.onTime now = true
          · rw [if_pos he] at htail ⊢
            rw [if_pos he, htail]
          · rw [if_neg he] at htail ⊢
            rw [if_neg he, htail, Nat.add_zero]

/-- Each entry of a list has its call, which stands at the place of the entry and
    was sent nothing yet. -/
def Attended (entries : List (Place × Waiter)) (callers : Table CallId Caller) : Prop :=
  ∀ e ∈ entries, callers.find? e.2.call =
    some { place := e.1, deadline := e.2.deadline, verdict := none }

/-- The calls after the entries of a list were sent their verdicts. -/
structure Told (verdict : Waiter → Bool) (entries : List (Place × Waiter))
    (callers callers' : Table CallId Caller) : Prop where
  /-- A call in the list has its verdict. -/
  told : ∀ e ∈ entries, callers'.find? e.2.call =
    some { place := e.1, deadline := e.2.deadline, verdict := some (verdict e.2) }
  /-- A call that is not in the list is as it was. -/
  untold : ∀ call, (∀ e ∈ entries, e.2.call ≠ call) → callers'.find? call = callers.find? call

/-- The notice of the verdict on an entry. -/
def Waiter.notice (verdict : Waiter → Bool) (w : Waiter) : Notice :=
  if verdict w then .granted w.call else .denied w.call

/-- The call of an entry after it was sent a verdict. -/
def tellOne (verdict : Waiter → Bool) (e : Place × Waiter) (callers : Table CallId Caller) :
    Table CallId Caller :=
  callers.insert e.2.call
    { place := e.1, deadline := e.2.deadline, verdict := some (verdict e.2) }

/-- No two entries have one call. -/
theorem eq_of_call_eq {entries : List (Place × Waiter)} {callers : Table CallId Caller}
    (h : Attended entries callers) {e x : Place × Waiter} (he : e ∈ entries) (hx : x ∈ entries)
    (hcall : e.2.call = x.2.call) : e = x := by
  -- The one call has the place and the deadline of both entries.
  have hfind := h e he
  rw [hcall, h x hx] at hfind
  injection hfind with hcaller
  injection hcaller with hplace hdeadline
  rcases e with ⟨p, w⟩
  rcases x with ⟨q, v⟩
  rcases w with ⟨c, d⟩
  rcases v with ⟨c', d'⟩
  cases hcall
  cases hplace
  cases hdeadline
  rfl

/-- The entries of a line are of different calls. -/
theorem calls_distinct {entries : List (Place × Waiter)} {callers : Table CallId Caller}
    (hasc : Ascending entries) (h : Attended entries callers) :
    entries.Pairwise fun e x => e.2.call ≠ x.2.call := by
  refine hasc.imp_of_mem fun {e x} he hx hlt hcall => ?_
  rw [eq_of_call_eq h he hx hcall] at hlt
  exact compare_self_ne_lt x.1 hlt

/-- Two entries of an ascending list, one behind the other, are different. -/
theorem ne_of_ascending {l₁ l₂ : List (Place × Waiter)} (hasc : Ascending (l₁ ++ l₂))
    {e x : Place × Waiter} (he : e ∈ l₁) (hx : x ∈ l₂) : e.1 ≠ x.1 := by
  intro heq
  have hlt := (List.pairwise_append.mp hasc).2.2 e he x hx
  rw [heq] at hlt
  exact compare_self_ne_lt x.1 hlt

/-- Sending the head of a list its verdict leaves the others attended, since no two
    entries of a line have one call. -/
theorem attended_tail {e : Place × Waiter} {rest : List (Place × Waiter)}
    {callers : Table CallId Caller} (hasc : Ascending (e :: rest))
    (h : Attended (e :: rest) callers) (verdict : Waiter → Bool) :
    (∀ x ∈ rest, x.2.call ≠ e.2.call) ∧ Attended rest (tellOne verdict e callers) := by
  have hdistinct : ∀ x ∈ rest, x.2.call ≠ e.2.call := fun x hx =>
    ((List.pairwise_cons.mp (calls_distinct hasc h)).1 x hx).symm
  refine ⟨hdistinct, fun x hx => ?_⟩
  rw [tellOne, Table.find?_insert_of_eq, if_neg fun heq => hdistinct x hx heq.symm]
  exact h x (List.mem_cons_of_mem _ hx)

theorem told_nil (verdict : Waiter → Bool) (callers : Table CallId Caller) :
    Told verdict [] callers callers where
  told := fun _ he => absurd he List.not_mem_nil
  untold := fun _ _ => rfl

theorem told_cons {verdict : Waiter → Bool} {e : Place × Waiter} {rest : List (Place × Waiter)}
    {callers callers' : Table CallId Caller} (hdistinct : ∀ x ∈ rest, x.2.call ≠ e.2.call)
    (h : Told verdict rest (tellOne verdict e callers) callers') :
    Told verdict (e :: rest) callers callers' where
  told := by
    intro x hx
    rcases List.mem_cons.mp hx with rfl | hx
    · -- The rest has other calls, so the verdict of the head is not overwritten.
      rw [h.untold _ hdistinct, tellOne, Table.find?_insert_of_eq, if_pos rfl]
    · exact h.told x hx
  untold := by
    intro call hcall
    rw [h.untold call fun x hx => hcall x (List.mem_cons_of_mem _ hx), tellOne,
      Table.find?_insert_of_eq, if_neg (hcall e List.mem_cons_self)]

/-- What serving a head of the line comes to. -/
structure Serves (verdict : Waiter → Bool) (served : List (Place × Waiter)) (g g' : Gate)
    (notices : List Notice) : Prop where
  /-- The served leave the line, and nobody else does. -/
  toList_eq : g.line.toList = served ++ g'.line.toList
  /-- No ticket is given out. -/
  nextTicket_eq : g'.line.nextTicket = g.line.nextTicket
  /-- The numbers beside the entries stay true. -/
  line_exact : g.line.Exact → g'.line.Exact
  /-- The calls of the served, and no others, have their verdicts. -/
  told : Told verdict served g.callers g'.callers
  /-- Each grant takes a slot. -/
  admitted_eq : g'.admitted = g.admitted + served.countP fun e => verdict e.2
  /-- The notices tell of the served in their order. -/
  notices_eq : notices = served.map fun e => e.2.notice verdict
  /-- Nothing else changes. -/
  frame : g' = { g with line := g'.line, callers := g'.callers, admitted := g'.admitted }

namespace Gate

/-- The gate after the first in line was served and a line is left. -/
def serveOne (g : Gate) (verdict : Waiter → Bool) (e : Place × Waiter) (line : Line Waiter) :
    Gate :=
  { g with
    line
    callers := tellOne verdict e g.callers
    admitted := g.admitted + if verdict e.2 then 1 else 0 }

theorem serves_nil (verdict : Waiter → Bool) (g : Gate) : Serves verdict [] g g [] where
  toList_eq := rfl
  nextTicket_eq := rfl
  line_exact := id
  told := told_nil verdict g.callers
  admitted_eq := rfl
  notices_eq := rfl
  frame := rfl

/-- Serving the first in line and then some of the others is serving them all. -/
theorem serves_cons {verdict : Waiter → Bool} {served : List (Place × Waiter)} {g g' : Gate}
    {notices : List Notice} {place : Place} {waiter : Waiter} {line : Line Waiter}
    (h : Attended g.line.toList g.callers) (hnext : g.line.next? = some (place, waiter, line))
    (hrest : Serves verdict served (g.serveOne verdict (place, waiter) line) g' notices) :
    Serves verdict ((place, waiter) :: served) g g' (waiter.notice verdict :: notices) where
  toList_eq := by
    rw [Line.toList_of_next? hnext, List.cons_append, ← hrest.toList_eq]
    rfl
  nextTicket_eq := hrest.nextTicket_eq.trans (Line.nextTicket_of_next? hnext)
  line_exact := fun hexact => hrest.line_exact (Line.exact_of_next? hexact hnext)
  told := by
    have hlist := Line.toList_of_next? hnext
    have hasc := g.line.ascending_toList
    rw [hlist] at h hasc
    refine told_cons (fun x hx => (attended_tail hasc h verdict).1 x ?_) hrest.told
    have hsplit : line.toList = served ++ g'.line.toList := hrest.toList_eq
    rw [hsplit]
    exact List.mem_append_left _ hx
  admitted_eq := by
    rw [hrest.admitted_eq, List.countP_cons]
    simp only [serveOne]
    omega
  notices_eq := by
    rw [hrest.notices_eq, List.map_cons]
  frame := by
    rw [hrest.frame]
    rfl

theorem send?_of_find? {g : Gate} {call : CallId} {caller : Caller}
    (h : g.callers.find? call = some caller) (verdict : Bool) :
    g.send? call verdict =
      some { g with callers := g.callers.insert call { caller with verdict := some verdict } } := by
  rw [send?, h, Option.map_some]

theorem hasQuota_iff (g : Gate) : g.hasQuota = true ↔ g.admitted < g.policy.quota.toNat := by
  rw [hasQuota, decide_eq_true_iff]

/-- One turn of the loop, when the first in line has its call: an entry whose
    deadline has come is denied, any other takes a slot. -/
theorem promote_succ (fuel : Nat) (now : Instant) {g : Gate} {place : Place} {waiter : Waiter}
    {line : Line Waiter} (hquota : g.hasQuota = true)
    (hnext : g.line.next? = some (place, waiter, line))
    (hcaller : g.callers.find? waiter.call =
      some { place, deadline := waiter.deadline, verdict := none }) :
    promote (fuel + 1) now g =
      ((promote fuel now (g.serveOne (·.onTime now) (place, waiter) line)).1,
        waiter.notice (·.onTime now) ::
          (promote fuel now (g.serveOne (·.onTime now) (place, waiter) line)).2) := by
  have hsend := send?_of_find? (g := { g with line }) hcaller
  rw [promote, if_pos hquota, hnext]
  by_cases hlate : waiter.deadline ≤ now
  · have htime := (waiter.onTime_eq_false_iff now).mpr hlate
    simp only [hlate, if_true, send, hsend, Option.getD_some, serveOne, tellOne, htime,
      Bool.false_eq_true, if_false, Nat.add_zero, Waiter.notice]
  · have htime := (waiter.onTime_iff now).mpr (Int.not_le.mp hlate)
    simp only [hlate, if_false, hsend, serveOne, tellOne, htime, if_true, Waiter.notice]

/-- The slots that are free after one entry was served. -/
theorem free_serveOne {g : Gate} (hquota : g.hasQuota = true) (verdict : Waiter → Bool)
    (e : Place × Waiter) (line : Line Waiter) :
    (g.serveOne verdict e line).policy.quota.toNat - (g.serveOne verdict e line).admitted =
      if verdict e.2 then g.policy.quota.toNat - g.admitted - 1
      else g.policy.quota.toNat - g.admitted - 1 + 1 := by
  have hlt := (hasQuota_iff g).mp hquota
  simp only [serveOne]
  by_cases hv : verdict e.2 = true
  · rw [if_pos hv, if_pos hv]
    omega
  · rw [if_neg hv, if_neg hv]
    omega

/-- The loop serves into the free slots, given fuel for everybody in line. -/
theorem promote_serves (fuel : Nat) (now : Instant) (g : Gate) (hfuel : g.line.size ≤ fuel)
    (h : Attended g.line.toList g.callers) :
    Serves (·.onTime now) (servedOf now (g.policy.quota.toNat - g.admitted) g.line.toList) g
      (promote fuel now g).1 (promote fuel now g).2 := by
  -- The fuel is the length of the line, and each turn takes the first in line out. What is
  -- kept is that those who are left are attended, so that the next turn finds its call.
  induction fuel generalizing g with
  | zero =>
      have hnil : g.line.toList = [] := List.length_eq_zero_iff.mp (Nat.le_zero.mp hfuel)
      rw [hnil]
      exact serves_nil _ g
  | succ fuel ih =>
      by_cases hquota : g.hasQuota = true
      · cases hnext : g.line.next? with
        | none =>
            rw [(Line.next?_eq_none_iff g.line).mp hnext, promote, if_pos hquota, hnext]
            exact serves_nil _ g
        | some first =>
            rcases first with ⟨place, waiter, line⟩
            have hlist := Line.toList_of_next? hnext
            have hasc := g.line.ascending_toList
            have hsize : line.size ≤ fuel := by
              rw [Line.size_eq, hlist, List.length_cons] at hfuel
              rw [Line.size_eq]
              omega
            have hcaller := h (place, waiter) (hlist ▸ List.mem_cons_self)
            have htail : Attended line.toList
                (tellOne (·.onTime now) (place, waiter) g.callers) :=
              (attended_tail (hlist ▸ hasc) (hlist ▸ h) _).2
            have hrest := ih (g.serveOne (·.onTime now) (place, waiter) line) hsize htail
            rw [free_serveOne hquota] at hrest
            -- One slot is free at least, which is what `servedOf` asks of its head.
            have hfree : g.policy.quota.toNat - g.admitted =
                g.policy.quota.toNat - g.admitted - 1 + 1 := by
              have hlt := (hasQuota_iff g).mp hquota
              omega
            rw [promote_succ fuel now hquota hnext hcaller, hfree, hlist, servedOf]
            exact serves_cons h hnext hrest
      · -- Without a free slot the loop stops, and nobody is served.
        have hfull : g.policy.quota.toNat - g.admitted = 0 := by
          have hlt := mt (hasQuota_iff g).mpr hquota
          omega
        rw [hfull, servedOf_zero, promote, if_neg hquota]
        exact serves_nil _ g

/-- Sending one verdict to call after call tells each of them, and does nothing
    else. -/
theorem foldl_send_told (entries : List (Place × Waiter)) (g : Gate) (verdict : Bool)
    (hasc : Ascending entries) (h : Attended entries g.callers) :
    let g' := (entries.map (·.2.call)).foldl (fun g call => g.send call verdict) g
    Told (fun _ => verdict) entries g.callers g'.callers ∧
      g' = { g with callers := g'.callers } := by
  induction entries generalizing g with
  | nil => exact ⟨told_nil _ _, rfl⟩
  | cons e rest ih =>
      -- The calls of the rest are untouched by the first verdict, so each is still there.
      have htail := attended_tail hasc h fun _ => verdict
      have hsend : g.send e.2.call verdict =
          { g with callers := tellOne (fun _ => verdict) e g.callers } := by
        rw [send, send?_of_find? (h e List.mem_cons_self), Option.getD_some]
        rfl
      rw [List.map_cons, List.foldl_cons, hsend]
      rcases ih { g with callers := tellOne (fun _ => verdict) e g.callers }
        (List.pairwise_cons.mp hasc).2 htail.2 with ⟨htold, hframe⟩
      exact ⟨told_cons htail.1 htold, hframe⟩

/-- Closing serves the whole line with refusals. -/
theorem close_serves {g : Gate} (h : Attended g.line.toList g.callers)
    (hopen : g.closed = false) :
    Serves (fun _ => false) g.line.toList { g with closed := true } g.close.1 g.close.2 := by
  -- Of an open gate, closing takes the branch that sends the verdicts.
  have hclose : g.close =
      ((g.line.toList.map (·.2.call)).foldl (fun g call => g.send call false)
        { g with closed := true, line := g.line.clear },
        (g.line.toList.map (·.2.call)).map .denied) := by
    rw [close, hopen]
    rfl
  rcases foldl_send_told g.line.toList { g with closed := true, line := g.line.clear } false
    g.line.ascending_toList h with ⟨htold, hframe⟩
  rw [hclose]
  constructor
  · rw [hframe, Line.toList_clear, List.append_nil]
  · rw [hframe]
    rfl
  · intro _
    rw [hframe]
    exact Line.exact_clear g.line
  · exact htold
  · rw [hframe, List.countP_false]
    rfl
  · rw [List.map_map]
    rfl
  · rw [hframe]

/-- The gate with its window observed and its quota, if the window is new, fresh. -/
def observed (g : Gate) (now : Instant) : Gate :=
  if g.policy.windowAt now ≤ g.window then g
  else { g with window := g.policy.windowAt now, admitted := 0 }

/-- Those who are served when the window is observed. -/
def served (g : Gate) (now : Instant) : List (Place × Waiter) :=
  if g.policy.windowAt now ≤ g.window then []
  else servedOf now g.policy.quota.toNat g.line.toList

/-- Observing the window serves the line into the fresh quota, if it is fresh. -/
theorem roll_serves {g : Gate} (h : Attended g.line.toList g.callers) (now : Instant) :
    Serves (·.onTime now) (g.served now) (g.observed now) (g.roll now).1 (g.roll now).2 := by
  unfold roll served observed
  by_cases hwindow : g.policy.windowAt now ≤ g.window
  · simp only [hwindow, if_true]
    exact serves_nil _ g
  · simp only [hwindow, if_false]
    exact promote_serves g.line.size now
      { g with window := g.policy.windowAt now, admitted := 0 } (Nat.le_refl _) h

end Gate

end Turnstile
