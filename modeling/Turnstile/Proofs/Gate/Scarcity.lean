import Turnstile.Proofs.Gate.Quota

/-!
# Waiting for Want of a Slot

Nobody waits at a gate that could let somebody in.

Two places have to work together for this. Where the window is observed, the loop that
serves the line may stop for two reasons only, that the slots are used up or that nobody
is left; an entry whose time is over is passed by and is no reason to stop. And an
arriving call asks for a slot only after that, and for a place in line only when there is
no slot. `Sound` carries what the two achieve from one event to the next: while anybody
waits, the gate is open and its slots are given away.

For those who arrive this reads two ways. Whoever is let in at once has passed nobody,
since a slot that is free after the window was observed means an empty line. And whoever
has to wait does so in a window that has given away all it had, to the last slot.

## Theorems

* `line_empty_of_admission`: A call that is let in at once finds nobody in line.
* `parked_not_mem_roll`: Nobody begins to wait when the window is observed.
* `park_of_parked`: A call that begins to wait arrived and found no slot.
* `full_of_parked`: The gate after a call began to wait has given away its slots.
* `no_idle_slot`: While anybody waits the gate is open and its slots are given away.
-/

namespace Turnstile

namespace Gate

variable {g g' : Gate} {event : Event} {notices : List Notice} {call : CallId}

/-- A call that is let in at once finds nobody in line once it has observed the window. -/
theorem line_empty_of_admission (h : g.Sound) {request : Request} {ttl : Span} {now : Instant}
    (hmove : g.Move (.arrive call request ttl now) g' notices)
    (hreturned : .returned call true ∈ notices) : (g.roll now).1.line.toList = [] := by
  cases hmove with
  | nothing => exact absurd hreturned List.not_mem_nil
  | slot new isOpen quota => exact toList_eq_nil_of_hasQuota (sound_roll h now) quota
  | shut | late | park =>
      exact nomatch List.mem_singleton.mp (mem_of_returned h.toPaired hreturned)

theorem parked_not_mem_roll (h : g.Paired) (now : Instant) (call : CallId) :
    .parked call ∉ (g.roll now).2 := by
  intro hmem
  rcases verdict_of_mem_roll h hmem with ⟨c, heq | heq⟩
  · exact nomatch heq
  · exact nomatch heq

/-- A call that begins to wait is one that arrived, observed the window and found no slot
    at an open gate. -/
theorem park_of_parked (h : g.Paired) (hmove : g.Move event g' notices)
    (hparked : .parked call ∈ notices) : ∃ request ttl now,
      event = .arrive call request ttl now ∧ (g.roll now).1.closed = false ∧
        (g.roll now).1.hasQuota = false ∧
        g' = (g.roll now).1.park call request (request.deadline ttl) := by
  have hrolled : ∀ {now : Instant} {rest : List Notice},
      .parked call ∈ (g.roll now).2 ++ rest → .parked call ∈ rest := by
    intro now rest hmem
    rcases List.mem_append.mp hmem with hroll | hrest
    · exact absurd hroll (parked_not_mem_roll h now call)
    · exact hrest
  cases hmove with
  | nothing | wardenLook | wardenLost | drop => exact absurd hparked List.not_mem_nil
  | collect => exact nomatch List.mem_singleton.mp hparked
  | goOn | wardenWake => exact absurd hparked (parked_not_mem_roll h _ call)
  | close isOpen =>
      rw [(close_serves h.attended isOpen).notices_eq] at hparked
      rcases List.mem_map.mp hparked with ⟨e, -, heq⟩
      unfold Waiter.notice at heq
      exact nomatch heq
  | slot =>
      -- The call that takes the slot returns at once.
      rcases List.mem_cons.mp (hrolled hparked) with heq | hlast
      · exact nomatch heq
      · exact nomatch List.mem_singleton.mp hlast
  | shut | late | decided | expire => exact nomatch List.mem_singleton.mp (hrolled hparked)
  | @park _ request ttl now _ isOpen noQuota =>
      cases List.mem_singleton.mp (hrolled hparked)
      exact ⟨request, ttl, now, rfl, isOpen, noQuota, rfl⟩

/-- The gate after a call began to wait has given away the slots of its window. -/
theorem full_of_parked (h : g.Sound) (hparked : .parked call ∈ (g.step event).2) :
    (g.step event).1.admitted = g.policy.quota.toNat := by
  have hmove := step_move g event
  rcases park_of_parked h.toPaired hmove hparked with ⟨request, ttl, now, -, -, -, hpark⟩
  have hfull := (step_sound h event).full
  rw [move_policy h.toPaired hmove] at hfull
  refine (hfull ?_).2
  -- The call has joined the line, so somebody waits.
  intro hnil
  rw [hpark, park_line] at hnil
  have hroll := paired_roll h.toPaired now
  have hjoined := (Line.mem_join hroll.exact request.priority request.arrived
    ⟨call, request.deadline ttl⟩ _).mpr (Or.inl rfl)
  rw [hnil] at hjoined
  exact List.not_mem_nil hjoined

/-- **No slot is idle while anybody waits.** In every state of a gate with anybody in line,
    the gate is open and its slots are given away. So a call that is let in at once finds
    nobody in line when it has observed the window, a call begins to wait only when the
    slots given away since the observed window changed are as many as the quota, and
    nobody is in line at a closed gate. -/
theorem no_idle_slot (policy : Policy) (first : Instant) (es : List Event) :
    let g := ((start policy first).run es).1
    (g.line.toList ≠ [] → g.closed = false ∧ g.admitted = policy.quota.toNat) ∧
    (∀ call request ttl now,
      .returned call true ∈ (g.step (.arrive call request ttl now)).2 →
        (g.roll now).1.line.toList = []) ∧
    (∀ event call, .parked call ∈ (g.step event).2 →
      (g.step event).1.admitted = policy.quota.toNat ∧
        grantsSince 0 ((start policy first).history (es ++ [event])) = policy.quota.toNat) ∧
    (g.closed = true → g.line.toList = []) := by
  intro g
  have hstart := sound_start policy first
  have hsound : g.Sound := run_sound hstart es
  have hpolicy : g.policy = policy := run_policy hstart es
  refine ⟨fun hwaiting => ?_, fun call request ttl now hreturned => ?_,
    fun event call hparked => ?_, fun hclosed => toList_eq_nil_of_closed hsound hclosed⟩
  · rw [← hpolicy]
    exact hsound.full hwaiting
  · exact line_empty_of_admission hsound (step_move g _) hreturned
  · have hfull := full_of_parked hsound hparked
    rw [hpolicy] at hfull
    refine ⟨hfull, ?_⟩
    -- The count is what the history tells to have been given away.
    have hcount := admitted_eq_grantsSince hstart (es ++ [event])
    rw [run_append] at hcount
    exact hcount.symm.trans hfull

/-- In the rush the slot is taken and two wait. One who arrives in the third window has to
    wait as well, as its slot goes to one of the two; one who arrives when the time of both
    is over is let in at once. And closing the gate leaves nobody in line. -/
theorem no_idle_slot_in_rush :
    let arrive := fun now => Event.arrive 3 Rush.request (.ofSeconds 9) now
    let seventh : Instant := ⟨6000000000, by decide, by decide⟩
    let shut := ((start Rush.policy Instant.epoch).run (Rush.arrivals ++ [.close])).1
    (Rush.crowd.line.toList ≠ [] ∧ Rush.crowd.closed = false ∧ Rush.crowd.admitted = 1) ∧
    (.parked 3 ∈ (Rush.crowd.step (arrive Rush.third)).2 ∧
      grantsSince 0 ((start Rush.policy Instant.epoch).history
        (Rush.arrivals ++ [arrive Rush.third])) = 1) ∧
    (.returned 3 true ∈ (Rush.crowd.step (arrive seventh)).2 ∧
      (Rush.crowd.roll seventh).1.line.toList = []) ∧
    (shut.closed = true ∧ shut.line.toList = []) := by
  intro arrive seventh shut
  have hkept := no_idle_slot Rush.policy Instant.epoch Rush.arrivals
  have hshut := no_idle_slot Rush.policy Instant.epoch (Rush.arrivals ++ [.close])
  have hwaiting : Rush.crowd.line.toList ≠ [] := by decide
  have hparked : .parked 3 ∈ (Rush.crowd.step (arrive Rush.third)).2 := by decide
  have hreturned : .returned 3 true ∈ (Rush.crowd.step (arrive seventh)).2 := by decide
  have hclosed : shut.closed = true := by decide
  exact ⟨⟨hwaiting, hkept.1 hwaiting⟩, ⟨hparked, (hkept.2.2.1 _ 3 hparked).2⟩,
    ⟨hreturned, hkept.2.1 3 Rush.request (.ofSeconds 9) seventh hreturned⟩,
    ⟨hclosed, hshut.2.2.2 hclosed⟩⟩

end Gate

end Turnstile
