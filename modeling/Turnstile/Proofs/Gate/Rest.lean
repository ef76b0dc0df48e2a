import Turnstile.Proofs.Gate.Passage
import Turnstile.Proofs.Gate.Quota
import Turnstile.Proofs.Gate.Settling

/-!
# Gates at Rest

When every task that can go on has gone on, nothing at a gate is overdue.

`Punctual` are the runs in which the clock moves from one reading to the next, by whatever
distance, and the gate comes to rest after each move. In between calls may arrive or be
given up, the gate may be closed, and the tasks may run in any order. None of them is taken
down, since a task that is due is run.

That a gate at rest has nothing overdue takes both books and the watch. An entry in line
has a call that was sent nothing, whose own timer is set to the deadline of the entry. And
a warden that is asleep has not come to the instant at which the window changes, so that
the window that was observed last is still the present one.

Whatever then happens at the same reading leaves the gate up to date, though it may not be
at rest: who begins to wait has time left and has observed the window.

## Main definitions

* `Gate.Punctual`: The gates that punctual runs come to.
* `Gate.UpToDate`: Nothing is overdue at a reading.

## Theorems

* `upToDate_of_rests`: A watchful gate at rest is up to date.
* `upToDate_move`: So it is after whatever happens at the same reading.
* `upToDate_of_punctual`: So are the gates that punctual runs come to.
* `nothing_overdue`: Nothing is overdue in a punctual run, and every such run can go on.
-/

namespace Turnstile

namespace Gate

/-- The gates that punctual runs come to, with the readings of their clocks. Anything may
    happen at the present reading, and the clock may move once all has happened after
    which the gate is at rest at the later reading. -/
inductive Punctual (policy : Policy) (first : Instant) : Instant → Gate → Prop where
  /-- A run begins with a new gate. -/
  | start : Punctual policy first first (start policy first)
  /-- Something happens at the present reading. -/
  | act {now : Instant} {g : Gate} {e : Event} (run : Punctual policy first now g)
      (at_now : e.IsAt now) : Punctual policy first now (g.step e).1
  /-- The clock moves, and the gate comes to rest. -/
  | move {now later : Instant} {g : Gate} {es : List Event}
      (run : Punctual policy first now g) (forward : now ≤ later)
      (at_later : ∀ e ∈ es, e.IsAt later) (rests : (g.run es).1.Rests later) :
      Punctual policy first later (g.run es).1

variable {g g' : Gate} {event : Event} {notices : List Notice} {now : Instant}

/-- Everybody in line has time left at a reading, and while anybody is in line the window
    of the reading is the one that was observed. -/
structure UpToDate (g : Gate) (now : Instant) : Prop where
  /-- No deadline in line has come. -/
  in_time : ∀ e ∈ g.line.toList, now < e.2.deadline
  /-- While anybody waits the present window was observed. -/
  window_eq : g.line.toList ≠ [] → g.window = g.policy.windowAt now
  /-- No later window was observed. -/
  window_le : g.window ≤ g.policy.windowAt now

/-- A watchful gate at rest is up to date. -/
theorem upToDate_of_rests (hs : g.Sound) (hw : g.Watchful)
    (hle : g.window ≤ g.policy.windowAt now) (hrests : g.Rests now) : g.UpToDate now where
  in_time := by
    intro e he
    -- The entry has its call, whose timer would be due.
    have hcaller := hs.attended e he
    exact Int.not_le.mp fun hdue => hrests _ (.timer hcaller hdue)
  window_eq := by
    intro hwaiting
    have hsole := hw.sole
    rw [hw.waits hwaiting] at hsole
    rcases List.length_eq_one_iff.mp hsole with ⟨w, hwarden⟩
    have hmem : w ∈ g.wardens := hwarden ▸ List.mem_cons_self
    have hasleep := ((rests_iff g now).mp hrests).2 w hmem
    have hheeds := hw.heeded w hmem
    cases w with
    | called | ready => exact hasleep.elim
    | asleep target =>
        -- The warden sleeps on, so the window it sleeps for has not begun.
        have hbefore : now < g.policy.windowStart (g.window + 1) :=
          Int.lt_of_lt_of_le hasleep hheeds
        rcases hw.observed with ⟨t, ht⟩
        have hlt := g.policy.windowAt_lt_of_lt_windowStart (s := t) (by omega) hbefore
        omega
  window_le := hle

/-- Who is in line after an event was there before, or began to wait at its reading with
    time left. -/
theorem mem_or_joined (h : g.Sound) (hmove : g.Move event g' notices) {e : Place × Waiter}
    (he : e ∈ g'.line.toList) : e ∈ g.line.toList ∨ ∃ t, event.reading? = some t ∧
      t < e.2.deadline ∧ g'.window = max g.window (g.policy.windowAt t) := by
  rcases mem_of_move h hmove he with hold | ⟨call, request, ttl, t, rfl, hentry⟩
  · exact Or.inl hold
  -- Of the ways in which an arrival goes on, only one adds to the line.
  cases hmove with
  | nothing => exact Or.inl he
  | slot | shut | late => exact Or.inl (mem_of_mem_roll h.toPaired he)
  | park new isOpen noQuota someTime inTime =>
      refine Or.inr ⟨t, rfl, ?_, ?_⟩
      · rw [hentry]
        exact inTime
      · rw [park_frame]
        exact roll_window h.toPaired t

/-- Whatever happens at a reading leaves a gate up to date that is so. -/
theorem upToDate_move (h : g.Sound) (hmove : g.Move event g' notices) (hat : event.IsAt now)
    (hup : g.UpToDate now) : g'.UpToDate now := by
  have hpolicy := move_policy h.toPaired hmove
  have hwindow : g'.window = g.window ∨ g'.window = g.policy.windowAt now := by
    have hle := hup.window_le
    rcases move_window h.toPaired hmove with heq | ⟨t, ht, heq⟩
    · exact Or.inl heq
    · rw [hat.1 t ht] at heq
      exact Or.inr (heq.trans (Int.max_eq_right hle))
  refine ⟨fun e he => ?_, fun hwaiting => ?_, ?_⟩
  · rcases mem_or_joined h hmove he with hold | ⟨t, ht, htime, -⟩
    · exact hup.in_time e hold
    · rw [hat.1 t ht] at htime
      exact htime
  · rw [hpolicy]
    rcases List.exists_mem_of_ne_nil _ hwaiting with ⟨e, he⟩
    rcases mem_or_joined h hmove he with hold | ⟨t, ht, -, heq⟩
    · rcases hwindow with hsame | hnow
      · exact hsame.trans (hup.window_eq (List.ne_nil_of_mem hold))
      · exact hnow
    · rw [hat.1 t ht] at heq
      exact heq.trans (Int.max_eq_right hup.window_le)
  · have hle := hup.window_le
    rw [hpolicy]
    omega

/-- Events at one reading do not take the observed window past it. -/
theorem window_le_run (h : g.Sound) {es : List Event} (hat : ∀ e ∈ es, e.IsAt now)
    (hle : g.window ≤ g.policy.windowAt now) :
    (g.run es).1.window ≤ (g.run es).1.policy.windowAt now := by
  induction es generalizing g with
  | nil => exact hle
  | cons e es ih =>
      have hmove := step_move g e
      have hnext : (g.step e).1.window ≤ (g.step e).1.policy.windowAt now := by
        rw [move_policy h.toPaired hmove]
        rcases move_window h.toPaired hmove with heq | ⟨t, ht, heq⟩
        · omega
        · rw [(hat e List.mem_cons_self).1 t ht] at heq
          omega
      exact ih (step_sound h e) (fun x hx => hat x (List.mem_cons_of_mem _ hx)) hnext

/-- Any row of events may happen at the present reading. -/
theorem punctual_run {policy : Policy} {first : Instant} (h : Punctual policy first now g)
    {es : List Event} (hat : ∀ e ∈ es, e.IsAt now) :
    Punctual policy first now (g.run es).1 := by
  induction es generalizing g with
  | nil => exact h
  | cons e es ih =>
      have hact := h.act (hat e List.mem_cons_self)
      exact ih hact fun x hx => hat x (List.mem_cons_of_mem _ hx)

/-- What punctual runs keep. -/
theorem upToDate_of_punctual {policy : Policy} {first : Instant}
    (h : Punctual policy first now g) :
    g.Sound ∧ g.Watchful ∧ g.policy = policy ∧ g.UpToDate now := by
  induction h with
  | start =>
      refine ⟨sound_start policy first, watchful_start policy first, rfl, ?_⟩
      exact ⟨fun _ he => absurd he List.not_mem_nil, fun hwaiting => absurd rfl hwaiting,
        Int.le_refl _⟩
  | @act now g e _ at_now ih =>
      rcases ih with ⟨hs, hw, hpolicy, hup⟩
      have hmove := step_move g e
      exact ⟨step_sound hs e, step_watchful hs hw e at_now.2,
        (move_policy hs.toPaired hmove).trans hpolicy, upToDate_move hs hmove at_now hup⟩
  | @move now later g es _ forward at_later rests ih =>
      rcases ih with ⟨hs, hw, hpolicy, hup⟩
      have hkept : ∀ e ∈ es, e.isLoss = false := fun e he => (at_later e he).2
      have hs' := run_sound hs es
      have hw' := run_watchful hs hw hkept
      -- The clock did not go back, so the window is not ahead of it, and rest does the rest.
      have hle := Int.le_trans hup.window_le (g.policy.windowAt_mono forward)
      have hle' := window_le_run hs at_later hle
      exact ⟨hs', hw', (run_policy hs es).trans hpolicy, upToDate_of_rests hs' hw' hle' rests⟩

/-- **Nothing is overdue in a punctual run.** At the reading to which the clock has moved,
    everybody in line has time left, no call that was sent nothing is past its deadline,
    and while anybody is in line the window observed is that of the reading. The run can
    go on at every later reading: what is due then brings the gate to rest in some order,
    and before the last instant in every order, after one step for each call and three
    for the warden at most. -/
theorem nothing_overdue (policy : Policy) (first : Instant) {now : Instant} {g : Gate}
    (h : Punctual policy first now g) :
    (∀ e ∈ g.line.toList, now < e.2.deadline) ∧
    (∀ call caller, g.callers.find? call = some caller → caller.verdict = none →
      now < caller.deadline) ∧
    (g.line.toList ≠ [] → g.window = policy.windowAt now) ∧
    ∀ later, now ≤ later →
      (∃ es, DueRun later g es ∧ (g.run es).1.Rests later ∧
        Punctual policy first later (g.run es).1) ∧
      (later < Instant.last → ∀ es, DueRun later g es →
        es.length ≤ g.callers.size + 3) := by
  rcases upToDate_of_punctual h with ⟨hs, hw, hpolicy, hup⟩
  refine ⟨hup.in_time, fun call caller hfind hnone => ?_, fun hwaiting => ?_,
    fun later hle => ⟨?_, fun hlast es hes => ?_⟩⟩
  · -- A call that was sent nothing has its entry in line.
    rcases hs.entry_or_verdict call caller hfind with hmem | ⟨-, hsome⟩
    · exact hup.in_time _ hmem
    · rw [hnone] at hsome
      exact absurd hsome Bool.false_ne_true
  · rw [← hpolicy]
    exact hup.window_eq hwaiting
  · rcases exists_rest hs hw later with ⟨es, hes, hrests⟩
    exact ⟨es, hes, hrests, h.move hle (isAt_of_dueRun hes) hrests⟩
  · have hlength := length_le_of_dueRun hs hw hlast hes
    have hpending := pending_le hw later
    omega

/-- In the rush the clock moves to the second window, and the one who is still in line then
    has time left and waits in the present window. -/
theorem nothing_overdue_in_rush :
    ∃ g, Punctual Rush.policy Instant.epoch Rush.second g ∧
      g.line.toList = [Rush.behind] ∧ Rush.second < Rush.behind.2.deadline ∧
      g.window = Rush.policy.windowAt Rush.second := by
  have hcrowd : Punctual Rush.policy Instant.epoch Instant.epoch Rush.crowd :=
    punctual_run .start (by decide)
  have hsettled : Punctual Rush.policy Instant.epoch Rush.second
      (Rush.crowd.run (.wardenLook 0 :: .wardenWake 0 Rush.second :: .wardenLook 0 ::
        [.collect 1])).1 :=
    hcrowd.move (by decide) (by decide) (by decide)
  have hline : (Rush.crowd.run (.wardenLook 0 :: .wardenWake 0 Rush.second :: .wardenLook 0 ::
      [.collect 1])).1.line.toList = [Rush.behind] := by decide
  have hkept := nothing_overdue Rush.policy Instant.epoch hsettled
  refine ⟨_, hsettled, hline, hkept.1 _ ?_, hkept.2.2.1 ?_⟩
  · rw [hline]
    exact List.mem_cons_self
  · rw [hline]
    exact List.cons_ne_nil _ _

end Gate

end Turnstile
