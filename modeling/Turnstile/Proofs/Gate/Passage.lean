import Turnstile.Proofs.Gate.Sound

/-!
# Coming to the Line and Leaving It

An entry comes to the line in one way, when a call begins to wait, and leaves it in
four: it is served when the window is observed, its own timer finds its time over, its
call is given up, or the gate closes. `Leaves` lists them with what they imply.

A place that was left is not taken again. So an entry is followed through a run by its
place alone, and whoever cleans up after a call that is already out of the line finds
nobody there.

## Main definitions

* `Gate.Leaves`: The ways for an entry to leave the line.

## Theorems

* `entry_of_place`: The entry at the place of a call is that of the call.
* `in_line_or_decided`: A call is in line, or out of line with a verdict.
* `leaves_of_move`: An entry that is gone after an event left in one of these ways.
* `verdict_of_collect`, `verdict_of_wake`: What a call returns that was in line.
* `mem_of_move`: An entry that is new after an event belongs to a call that arrived.
* `roll_sublist_of_move`: An event that observes the window tells what comes of it.
* `nextTicket_le_move`, `nextTicket_le_run`: Tickets go on.
* `mem_of_run`: An entry in line was there since its ticket was given out.
* `mem_run_of_contains`, `not_contains_run`: A place is taken by the entry it was given
  to, or by nobody.
-/

namespace Turnstile

namespace Gate

/-- The ways for an entry to leave the line at an event. -/
inductive Leaves (g : Gate) (e : Place × Waiter) : Event → List Notice → Prop where
  /-- It is served when the event observes the window. -/
  | served {event : Event} {now : Instant} {rest : List Notice}
      (reading : event.reading? = some now) (turn : e ∈ g.served now) :
      Leaves g e event ((g.roll now).2 ++ rest)
  /-- The timer of its call finds its time over. -/
  | expired {now : Instant} {notices : List Notice} (timeUp : e.2.deadline ≤ now) :
      Leaves g e (.wake e.2.call now) notices
  /-- Its call is given up. -/
  | dropped : Leaves g e (.drop e.2.call) []
  /-- The gate closes. -/
  | closed (isOpen : g.closed = false) : Leaves g e .close g.close.2

variable {g g' : Gate} {event : Event} {notices : List Notice} {e : Place × Waiter}

/-- The entry at the place of a call is that of the call, which was sent nothing yet. -/
theorem entry_of_place (h : g.Paired) {call : CallId} {caller : Caller}
    (hfind : g.callers.find? call = some caller) (he : e ∈ g.line.toList)
    (hplace : e.1 = caller.place) :
    e = (caller.place, ⟨call, caller.deadline⟩) ∧ caller.verdict = none := by
  rcases e with ⟨place, waiter⟩
  cases hplace
  rcases h.entry_or_verdict call caller hfind with hmem | ⟨hout, -⟩
  · -- A place has one entry, and the call stands there with its own.
    cases Table.eq_of_mem_entries hmem he
    have hattended := h.attended _ hmem
    rw [hfind] at hattended
    injection hattended with hcaller
    exact ⟨rfl, congrArg Caller.verdict hcaller⟩
  · exact absurd he (Line.not_mem_of_not_contains hout waiter)

/-- A call is in line and was sent nothing, or is out of line and has a verdict. -/
theorem in_line_or_decided (h : g.Paired) {call : CallId} {caller : Caller}
    (hfind : g.callers.find? call = some caller) :
    (g.line.contains caller.place = true ∧ caller.verdict = none) ∨
      (g.line.contains caller.place = false ∧ ∃ v, caller.verdict = some v) := by
  rcases h.entry_or_verdict call caller hfind with hmem | ⟨hout, hverdict⟩
  · have hnone := (entry_of_place h hfind hmem rfl).2
    exact Or.inl ⟨Line.contains_of_mem hmem, hnone⟩
  · exact Or.inr ⟨hout, Option.isSome_iff_exists.mp hverdict⟩

/-- Who is gone after a call ended stood at its place or was gone before. -/
theorem eq_place_of_finish {call : CallId} {place : Place} (he : e ∈ g.line.toList)
    (hgone : (g.finish call place).line.contains e.1 = false) : e.1 = place := by
  by_cases hplace : e.1 = place
  · exact hplace
  · have hmem := (Line.mem_leave g.line place e).mpr ⟨he, hplace⟩
    exact absurd hmem (Line.not_mem_of_not_contains hgone e.2)

/-- Ending a call whose entry is gone leaves the line as it is. -/
theorem finish_line_of_not_contains {call : CallId} {place : Place}
    (hout : g.line.contains place = false) : (g.finish call place).line = g.line :=
  Line.leave_of_not_contains hout

/-- An entry that is gone after an event left in one of the four ways. -/
theorem leaves_of_move (h : g.Sound) (hmove : g.Move event g' notices)
    (he : e ∈ g.line.toList) (hgone : g'.line.contains e.1 = false) :
    g.Leaves e event notices := by
  have hstays : g.line.contains e.1 = true := Line.contains_of_mem he
  have hturn : ∀ {now : Instant}, (g.roll now).1.line.contains e.1 = false →
      e ∈ g.served now := mem_served_of_not_contains h.toPaired he
  cases hmove with
  | nothing | wardenLook | wardenLost => exact absurd hstays (Bool.eq_false_iff.mp hgone)
  | slot | shut | late => exact .served rfl (hturn hgone)
  | goOn | wardenWake =>
      rw [← List.append_nil (g.roll _).2]
      exact .served rfl (hturn hgone)
  | @park call request _ now =>
      -- The new entry stands elsewhere, so the place was free before it came.
      rw [park_line] at hgone
      refine .served rfl (hturn (Line.not_contains_of_subset (fun w hw => ?_) hgone))
      exact (Line.mem_join (paired_roll h.toPaired now).exact _ _ _ _).mpr (Or.inr hw)
  | decided there out =>
      rw [finish_line_of_not_contains out] at hgone
      exact .served rfl (hturn hgone)
  | @expire call now caller there waits timeUp =>
      by_cases hleft : (g.roll now).1.line.contains e.1 = true
      · -- The entry left with the call whose timer it is, so it is the entry of that call.
        have hin := mem_roll_of_contains h.toPaired he hleft
        have hplace := eq_place_of_finish hin hgone
        rw [(entry_of_place (paired_roll h.toPaired now) there hin hplace).1]
        exact .expired timeUp
      · exact .served rfl (hturn (Bool.eq_false_iff.mpr hleft))
  | @collect call caller there ready =>
      have hplace := eq_place_of_finish he hgone
      rcases ready with hverdict | hout
      · -- A call in line was sent nothing that it could collect.
        rw [(entry_of_place h.toPaired there he hplace).2] at hverdict
        exact absurd hverdict Bool.false_ne_true
      · rw [← hplace] at hout
        exact absurd hstays (Bool.eq_false_iff.mp hout)
  | @drop call caller there =>
      have hplace := eq_place_of_finish he hgone
      rw [(entry_of_place h.toPaired there he hplace).1]
      exact .dropped
  | close isOpen => exact .closed isOpen

/-- A call that looks for its verdict returns only with one that was sent to it. -/
theorem verdict_of_collect (h : g.Paired) {call other : CallId} {v : Bool}
    (hmove : g.Move (.collect call) g' notices) (hreturned : .returned other v ∈ notices) :
    other = call ∧ ∃ caller, g.callers.find? call = some caller ∧ caller.verdict = some v := by
  cases hmove with
  | nothing => exact absurd hreturned List.not_mem_nil
  | @collect _ caller there ready =>
      rcases in_line_or_decided h there with ⟨hwaits, hnone⟩ | ⟨-, w, hverdict⟩
      · -- A call in line has nothing to collect, and goes on waiting.
        rw [hnone, hwaits] at ready
        rcases ready with hsome | hout
        · exact absurd hsome Bool.false_ne_true
        · exact absurd hout.symm Bool.false_ne_true
      · rw [hverdict] at hreturned
        cases List.mem_singleton.mp hreturned
        exact ⟨rfl, caller, there, hverdict⟩

/-- A call that wakes up returns with the verdict that was sent to it, or is still in
    line and its time is over. -/
theorem verdict_of_wake (h : g.Paired) {call other : CallId} {now : Instant} {v : Bool}
    (hmove : g.Move (.wake call now) g' notices) (hreturned : .returned other v ∈ notices) :
    other = call ∧ ∃ caller, (g.roll now).1.callers.find? call = some caller ∧
      (caller.verdict = some v ∨
        (g.roll now).1.line.contains caller.place = true ∧ caller.deadline ≤ now ∧
          v = false) := by
  cases hmove with
  | nothing => exact absurd hreturned List.not_mem_nil
  | goOn => exact absurd hreturned (returned_not_mem_roll h now other v)
  | @decided _ _ caller there out =>
      have hlast := mem_of_returned h hreturned
      rcases in_line_or_decided (paired_roll h now) there with ⟨hwaits, -⟩ | ⟨-, w, hverdict⟩
      · exact absurd (out.symm.trans hwaits) Bool.false_ne_true
      · rw [hverdict] at hlast
        cases List.mem_singleton.mp hlast
        exact ⟨rfl, caller, there, Or.inl hverdict⟩
  | @expire _ _ caller there waits timeUp =>
      cases List.mem_singleton.mp (mem_of_returned h hreturned)
      exact ⟨rfl, caller, there, Or.inr ⟨waits, timeUp, rfl⟩⟩

/-- An entry that is new after an event is that of a call that arrived: it stands where
    the request puts it, with the ticket that was next. -/
theorem mem_of_move (h : g.Sound) (hmove : g.Move event g' notices)
    (he : e ∈ g'.line.toList) :
    e ∈ g.line.toList ∨ ∃ call request ttl now, event = .arrive call request ttl now ∧
      e = (⟨request.priority, request.arrived, g.line.nextTicket⟩,
        ⟨call, request.deadline ttl⟩) := by
  have hback : ∀ {now : Instant}, e ∈ (g.roll now).1.line.toList → e ∈ g.line.toList :=
    mem_of_mem_roll h.toPaired
  cases hmove with
  | nothing | wardenLook | wardenLost => exact Or.inl he
  | slot | shut | late | goOn | wardenWake => exact Or.inl (hback he)
  | @park call request ttl now =>
      have hroll := paired_roll h.toPaired now
      rw [park_line] at he
      rcases (Line.mem_join hroll.exact _ _ _ e).mp he with rfl | hmem
      · refine Or.inr ⟨call, request, ttl, now, rfl, ?_⟩
        rw [← observed_line g now, ← (roll_serves h.attended now).nextTicket_eq]
        rfl
      · exact Or.inl (hback hmem)
  | decided | expire => exact Or.inl (hback ((Line.mem_leave _ _ _).mp he).1)
  | collect | drop => exact Or.inl ((Line.mem_leave _ _ _).mp he).1
  | close isOpen =>
      refine Or.inl ?_
      have hserves := close_serves h.attended isOpen
      exact (mem_of_serves hserves).mpr (Or.inr he)

/-- What is noticed when the window is observed is noticed at the event that observes it, if
    anything is. -/
theorem roll_sublist_of_move (hmove : g.Move event g' notices) {now : Instant}
    (hnow : event.reading? = some now) (hne : notices ≠ []) :
    (g.roll now).2.Sublist notices := by
  cases hmove with
  | nothing => exact absurd rfl hne
  | wardenLook | wardenLost | drop | collect | close => exact nomatch hnow
  | goOn | wardenWake =>
      cases hnow
      exact List.Sublist.refl _
  | slot | shut | late | park | decided | expire =>
      cases hnow
      exact List.sublist_append_left _ _

/-- Tickets go on. -/
theorem nextTicket_le_move (h : g.Sound) (hmove : g.Move event g' notices) :
    g.line.nextTicket ≤ g'.line.nextTicket := by
  have hroll : ∀ now : Instant, (g.roll now).1.line.nextTicket = g.line.nextTicket := by
    intro now
    rw [(roll_serves h.attended now).nextTicket_eq, observed_line]
  cases hmove with
  | nothing | wardenLook | wardenLost => exact Nat.le_refl _
  | slot | shut | late | goOn | wardenWake => exact Nat.le_of_eq (hroll _).symm
  | park =>
      rw [park_line]
      change _ ≤ (g.roll _).1.line.nextTicket + 1
      rw [hroll]
      exact Nat.le_succ _
  | decided | expire =>
      exact Nat.le_of_eq ((Line.nextTicket_leave _ _).trans (hroll _)).symm
  | collect | drop => exact Nat.le_of_eq (Line.nextTicket_leave _ _).symm
  | close isOpen =>
      have hserves := close_serves h.attended isOpen
      exact Nat.le_of_eq hserves.nextTicket_eq.symm

/-- Tickets go on in a run. -/
theorem nextTicket_le_run (h : g.Sound) (es : List Event) :
    g.line.nextTicket ≤ (g.run es).1.line.nextTicket := by
  induction es generalizing g with
  | nil => exact Nat.le_refl _
  | cons e es ih =>
      exact Nat.le_trans (nextTicket_le_move h (step_move g e)) (ih (step_sound h e))

/-- An entry with a ticket that was given out before is in line since then. -/
theorem mem_of_run (h : g.Sound) (hticket : e.1.ticket < g.line.nextTicket) {es : List Event}
    (he : e ∈ (g.run es).1.line.toList) : e ∈ g.line.toList := by
  induction es generalizing g with
  | nil => exact he
  | cons event es ih =>
      -- Tickets go on, so the entry cannot be one that the event brought.
      have hmove := step_move g event
      have hnext := Nat.lt_of_lt_of_le hticket (nextTicket_le_move h hmove)
      rcases mem_of_move h hmove (ih (step_sound h event) hnext he) with
        hmem | ⟨call, request, ttl, now, -, rfl⟩
      · exact hmem
      · exact absurd hticket (Nat.lt_irrefl _)

/-- An entry whose place is still taken is itself still in line. -/
theorem mem_run_of_contains (h : g.Sound) (he : e ∈ g.line.toList) {es : List Event}
    (hstays : (g.run es).1.line.contains e.1 = true) : e ∈ (g.run es).1.line.toList := by
  rcases (Line.contains_iff _ _).mp hstays with ⟨w, hw⟩
  have hold : (e.1, w) ∈ g.line.toList :=
    mem_of_run (e := (e.1, w)) h (h.exact.ticket_lt e he) hw
  have hsame : w = e.2 := Table.eq_of_mem_entries hold he
  rw [hsame] at hw
  exact hw

/-- Nobody ever comes to a place that was given out before. -/
theorem not_contains_run (h : g.Sound) {place : Place}
    (hticket : place.ticket < g.line.nextTicket) (hout : g.line.contains place = false)
    (es : List Event) : (g.run es).1.line.contains place = false :=
  Line.not_contains_of_subset (fun _ hv => mem_of_run h hticket hv) hout

end Gate

end Turnstile
