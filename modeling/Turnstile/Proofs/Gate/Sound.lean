import Turnstile.Proofs.Gate.Move
import Turnstile.Proofs.Gate.Pairing

/-!
# Sound Gates

The invariant of a gate: what holds before and after each event, whatever the events
are and whatever the clock reads.

To the pairing of entries and calls it adds two facts on slots. No more are given away
than the quota has. And nobody waits while a slot is free, or while the gate is closed.
The second is what the loop that promotes restores: it stops when the slots are used
up or when nobody is left, so a rest of the line means used slots. An arriving call
keeps it by the order in which the arrival tests things, as it begins to wait only
when no slot is free.

## Main definitions

* `Gate.Sound`: The invariant.

## Theorems

* `roll_policy`, `roll_closed`, `roll_window`, `roll_admitted`: The fields of a gate that
  has observed the window.
* `mem_served_of_not_contains`, `mem_roll_of_contains`: Each in line is served or left.
* `sound_roll`: Observing the window keeps a gate sound.
* `step_sound`, `run_sound`: So do an event and a run.
* `run_policy`, `run_closed`: The policy stays, and so does being closed.
* `run_append`: A run is a run and then another.
-/

namespace Turnstile

namespace Gate

variable {g g' : Gate} {verdict : Waiter → Bool} {entries : List (Place × Waiter)}
  {event : Event} {notices : List Notice}

theorem policy_of_serves (h : Serves verdict entries g g' notices) : g'.policy = g.policy := by
  rw [h.frame]

theorem window_of_serves (h : Serves verdict entries g g' notices) : g'.window = g.window := by
  rw [h.frame]

theorem closed_of_serves (h : Serves verdict entries g g' notices) : g'.closed = g.closed := by
  rw [h.frame]

@[simp] theorem observed_policy (g : Gate) (now : Instant) :
    (g.observed now).policy = g.policy := by
  unfold observed
  split <;> rfl

@[simp] theorem observed_closed (g : Gate) (now : Instant) :
    (g.observed now).closed = g.closed := by
  unfold observed
  split <;> rfl

@[simp] theorem observed_line (g : Gate) (now : Instant) : (g.observed now).line = g.line := by
  unfold observed
  split <;> rfl

@[simp] theorem observed_callers (g : Gate) (now : Instant) :
    (g.observed now).callers = g.callers := by
  unfold observed
  split <;> rfl

theorem observed_window (g : Gate) (now : Instant) :
    (g.observed now).window = max g.window (g.policy.windowAt now) := by
  unfold observed
  split
  next h => exact (Int.max_eq_left h).symm
  next h => exact (Int.max_eq_right (Int.le_of_lt (Int.not_le.mp h))).symm

/-- The invariant of a gate. -/
structure Sound (g : Gate) : Prop extends Paired g where
  /-- No more slots are given away than there are. -/
  admitted_le : g.admitted ≤ g.policy.quota.toNat
  /-- While anybody waits, the gate is open and its slots are given away. -/
  full : g.line.toList ≠ [] → g.closed = false ∧ g.admitted = g.policy.quota.toNat

theorem roll_policy (h : g.Paired) (now : Instant) : (g.roll now).1.policy = g.policy := by
  rw [policy_of_serves (roll_serves h.attended now), observed_policy]

theorem roll_closed (h : g.Paired) (now : Instant) : (g.roll now).1.closed = g.closed := by
  rw [closed_of_serves (roll_serves h.attended now), observed_closed]

/-- Readings of earlier windows leave the window as it is. -/
theorem roll_window (h : g.Paired) (now : Instant) :
    (g.roll now).1.window = max g.window (g.policy.windowAt now) := by
  rw [window_of_serves (roll_serves h.attended now), observed_window]

theorem roll_line (h : g.Paired) (now : Instant) :
    g.line.toList = g.served now ++ (g.roll now).1.line.toList := by
  rw [← (roll_serves h.attended now).toList_eq, observed_line]

theorem mem_of_mem_roll (h : g.Paired) {now : Instant} {e : Place × Waiter}
    (he : e ∈ (g.roll now).1.line.toList) : e ∈ g.line.toList := by
  rw [roll_line h now]
  exact List.mem_append_right _ he

theorem mem_of_mem_served (h : g.Paired) {now : Instant} {e : Place × Waiter}
    (he : e ∈ g.served now) : e ∈ g.line.toList := by
  rw [roll_line h now]
  exact List.mem_append_left _ he

/-- Who is gone once the window is observed was served. -/
theorem mem_served_of_not_contains (h : g.Paired) {now : Instant} {e : Place × Waiter}
    (he : e ∈ g.line.toList) (hgone : (g.roll now).1.line.contains e.1 = false) :
    e ∈ g.served now := by
  rw [roll_line h now] at he
  rcases List.mem_append.mp he with hserved | hleft
  · exact hserved
  · exact absurd hleft (Line.not_mem_of_not_contains hgone e.2)

/-- Whose place is still taken once the window is observed is left in line. -/
theorem mem_roll_of_contains (h : g.Paired) {now : Instant} {e : Place × Waiter}
    (he : e ∈ g.line.toList) (hstays : (g.roll now).1.line.contains e.1 = true) :
    e ∈ (g.roll now).1.line.toList := by
  rw [roll_line h now] at he
  rcases List.mem_append.mp he with hserved | hleft
  · have hgone := not_contains_of_serves (roll_serves h.attended now) hserved
    exact absurd hstays (Bool.eq_false_iff.mp hgone)
  · exact hleft

theorem roll_notices (h : g.Paired) (now : Instant) :
    (g.roll now).2 = (g.served now).map fun e => e.2.notice (·.onTime now) :=
  (roll_serves h.attended now).notices_eq

/-- Observing the window comes to verdicts, and to nothing else. -/
theorem verdict_of_mem_roll (h : g.Paired) {now : Instant} {n : Notice}
    (hn : n ∈ (g.roll now).2) : ∃ call, n = .granted call ∨ n = .denied call := by
  rw [roll_notices h] at hn
  rcases List.mem_map.mp hn with ⟨e, -, rfl⟩
  unfold Waiter.notice
  split
  · exact ⟨_, Or.inl rfl⟩
  · exact ⟨_, Or.inr rfl⟩

/-- Observing the window returns no call. -/
theorem returned_not_mem_roll (h : g.Paired) (now : Instant) (call : CallId) (v : Bool) :
    .returned call v ∉ (g.roll now).2 := by
  intro hmem
  rcases verdict_of_mem_roll h hmem with ⟨c, heq | heq⟩
  · exact nomatch heq
  · exact nomatch heq

/-- A call that returns at an event with a reading does so after the window was observed. -/
theorem mem_of_returned (h : g.Paired) {now : Instant} {call : CallId} {v : Bool}
    {rest : List Notice} (hmem : .returned call v ∈ (g.roll now).2 ++ rest) :
    .returned call v ∈ rest := by
  rcases List.mem_append.mp hmem with hrolled | hrest
  · exact absurd hrolled (returned_not_mem_roll h now call v)
  · exact hrest

/-- The slots of a new window are those of the served that are on time. -/
theorem roll_admitted (h : g.Paired) (now : Instant) :
    (g.roll now).1.admitted =
      (if g.policy.windowAt now ≤ g.window then g.admitted else 0) +
        (g.served now).countP fun e => e.2.onTime now := by
  rw [(roll_serves h.attended now).admitted_eq, observed]
  split <;> rfl

theorem paired_observed (h : g.Paired) (now : Instant) : (g.observed now).Paired :=
  paired_of_eq h (observed_line g now) (observed_callers g now)

theorem paired_roll (h : g.Paired) (now : Instant) : (g.roll now).1.Paired :=
  paired_of_serves (paired_observed h now) (roll_serves h.attended now)

/-- Observing the window keeps a gate sound. -/
theorem sound_roll (h : g.Sound) (now : Instant) : (g.roll now).1.Sound where
  toPaired := paired_roll h.toPaired now
  admitted_le := by
    rw [roll_policy h.toPaired, roll_admitted h.toPaired, served]
    -- The count goes on in an old window and begins at zero in a new one.
    by_cases hwindow : g.policy.windowAt now ≤ g.window
    · rw [if_pos hwindow, if_pos hwindow, List.countP_nil, Nat.add_zero]
      exact h.admitted_le
    · rw [if_neg hwindow, if_neg hwindow, Nat.zero_add]
      exact countP_servedOf_le now _ _
  full := by
    intro hrest
    have hsplit := roll_line h.toPaired now
    have hwaiting : g.line.toList ≠ [] := by
      rw [hsplit]
      exact fun hnil => hrest (List.append_eq_nil_iff.mp hnil).2
    rw [roll_closed h.toPaired, roll_policy h.toPaired, roll_admitted h.toPaired]
    refine ⟨(h.full hwaiting).1, ?_⟩
    -- In a new window those who are left are left because the slots ran out.
    unfold served at hsplit ⊢
    by_cases hwindow : g.policy.windowAt now ≤ g.window
    · rw [if_pos hwindow, if_pos hwindow, List.countP_nil, Nat.add_zero]
      exact (h.full hwaiting).2
    · rw [if_neg hwindow] at hsplit
      rw [if_neg hwindow, if_neg hwindow, Nat.zero_add]
      exact countP_servedOf_eq now _ _ _ hsplit hrest

theorem sound_start (policy : Policy) (now : Instant) : (start policy now).Sound where
  exact := Line.exact_empty
  attended := fun _ he => absurd he List.not_mem_nil
  ticket_lt := fun _ _ hfind => nomatch hfind
  entry_or_verdict := fun _ _ hfind => nomatch hfind
  admitted_le := Nat.zero_le _
  full := fun h => absurd rfl h

theorem sound_finish (h : g.Sound) {call : CallId} {caller : Caller}
    (hcaller : g.callers.find? call = some caller) : (g.finish call caller.place).Sound where
  toPaired := paired_finish h.toPaired hcaller
  admitted_le := h.admitted_le
  full := by
    intro hrest
    refine h.full fun hnil => hrest ?_
    change (g.line.leave caller.place).toList = []
    rw [Line.toList_leave, hnil]
    rfl

/-- The calls after serving are the calls there were before. -/
theorem find?_eq_none_of_serves (hatt : Attended g.line.toList g.callers)
    (h : Serves verdict entries g g' notices) {call : CallId}
    (hnone : g.callers.find? call = none) : g'.callers.find? call = none := by
  -- No served entry is one of a call that is not there, as each has its call.
  rw [h.told.untold call fun e he hcall => ?_, hnone]
  have hfind := hatt e ((mem_of_serves h).mpr (Or.inl he))
  rw [hcall, hnone] at hfind
  exact nomatch hfind

theorem roll_find?_eq_none (h : g.Paired) (now : Instant) {call : CallId}
    (hnone : g.callers.find? call = none) : (g.roll now).1.callers.find? call = none :=
  find?_eq_none_of_serves (paired_observed h now).attended (roll_serves h.attended now)
    ((observed_callers g now).symm ▸ hnone)

/-- Wardens are no part of the invariant. -/
theorem sound_wardens (h : g.Sound) (wardens : List Warden) (watched : Bool) :
    { g with wardens, watched : Gate }.Sound :=
  ⟨paired_of_eq h.toPaired rfl rfl, h.admitted_le, h.full⟩

theorem admitted_eq_of_not_hasQuota (h : g.Sound) (hquota : g.hasQuota = false) :
    g.admitted = g.policy.quota.toNat := by
  have hle := h.admitted_le
  have hnot := mt (hasQuota_iff g).mpr (Bool.eq_false_iff.mp hquota)
  omega

theorem sound_park (h : g.Sound) {call : CallId} (hnew : g.callers.find? call = none)
    (hopen : g.closed = false) (hquota : g.hasQuota = false) (request : Request)
    (deadline : Instant) : (g.park call request deadline).Sound where
  toPaired := paired_park h.toPaired hnew request deadline
  admitted_le := by
    rw [park_frame]
    exact h.admitted_le
  full := by
    intro _
    have hused := admitted_eq_of_not_hasQuota h hquota
    rw [park_frame]
    exact ⟨hopen, hused⟩

/-- A gate with a free slot has nobody in line. -/
theorem toList_eq_nil_of_hasQuota (h : g.Sound) (hquota : g.hasQuota = true) :
    g.line.toList = [] := by
  by_cases hnil : g.line.toList = []
  · exact hnil
  · have hlt := (hasQuota_iff g).mp hquota
    have hfull := (h.full hnil).2
    omega

/-- A closed gate has nobody in line. -/
theorem toList_eq_nil_of_closed (h : g.Sound) (hclosed : g.closed = true) :
    g.line.toList = [] := by
  by_cases hnil : g.line.toList = []
  · exact hnil
  · have hopen := (h.full hnil).1
    rw [hclosed] at hopen
    exact absurd hopen.symm Bool.false_ne_true

/-- What an event can do keeps a gate sound, one way after the other. -/
theorem move_sound {e : Event} (h : g.Sound) (hmove : g.Move e g' notices) : g'.Sound := by
  cases hmove with
  | nothing => exact h
  | @slot _ _ _ now new isOpen quota =>
      have hroll := sound_roll h now
      have hlt := (hasQuota_iff _).mp quota
      -- The slot is a free one, so nobody is in line to wait for it.
      refine ⟨paired_of_eq hroll.toPaired rfl rfl, hlt, ?_⟩
      exact fun hwaiting => absurd (toList_eq_nil_of_hasQuota hroll quota) hwaiting
  | shut | late => exact sound_roll h _
  | park new isOpen noQuota _ _ =>
      exact sound_park (sound_roll h _) (roll_find?_eq_none h.toPaired _ new) isOpen noQuota _ _
  | decided there _ => exact sound_finish (sound_roll h _) there
  | expire there _ _ => exact sound_finish (sound_roll h _) there
  | goOn => exact sound_roll h _
  | collect there _ => exact sound_finish h there
  | drop there => exact sound_finish h there
  | wardenWake => exact sound_wardens (sound_roll h _) _ _
  | wardenLook | wardenLost => exact sound_wardens h _ _
  | close isOpen =>
      have hserves := close_serves h.attended isOpen
      have hclosing : { g with closed := true : Gate }.Paired :=
        paired_of_eq h.toPaired rfl rfl
      refine ⟨paired_of_serves hclosing hserves, ?_, ?_⟩
      · rw [policy_of_serves hserves, hserves.admitted_eq, List.countP_false]
        exact h.admitted_le
      · -- The whole line was served, so nobody is left.
        intro hwaiting
        exact absurd (List.self_eq_append_right.mp hserves.toList_eq) hwaiting

/-- An event keeps a gate sound. -/
theorem step_sound (h : g.Sound) (e : Event) : (g.step e).1.Sound :=
  move_sound h (step_move g e)

theorem run_cons (g : Gate) (e : Event) (es : List Event) :
    g.run (e :: es) = (((g.step e).1.run es).1, (g.step e).2 ++ ((g.step e).1.run es).2) :=
  rfl

/-- A run keeps a gate sound, by induction on its events. -/
theorem run_sound (h : g.Sound) (es : List Event) : (g.run es).1.Sound := by
  induction es generalizing g with
  | nil => exact h
  | cons e es ih => exact ih (step_sound h e)

/-- The policy is the one the gate started with. -/
theorem move_policy (h : g.Paired) (hmove : g.Move event g' notices) : g'.policy = g.policy := by
  cases hmove with
  | park => rw [park_frame]; exact roll_policy h _
  | close isOpen =>
      have hserves := close_serves h.attended isOpen
      rw [policy_of_serves hserves]
  | nothing | collect | drop | wardenLook | wardenLost => rfl
  | slot | shut | late | decided | expire | goOn | wardenWake => exact roll_policy h _

theorem run_policy (h : g.Sound) (es : List Event) : (g.run es).1.policy = g.policy := by
  induction es generalizing g with
  | nil => rfl
  | cons e es ih =>
      rw [run_cons, ih (step_sound h e), move_policy h.toPaired (step_move g e)]

/-- A closed gate stays closed. -/
theorem move_closed (h : g.Paired) (hmove : g.Move event g' notices) (hclosed : g.closed = true) :
    g'.closed = true := by
  have hroll : ∀ now : Instant, (g.roll now).1.closed = true := fun now =>
    (roll_closed h now).trans hclosed
  cases hmove with
  | nothing | collect | drop | wardenLook | wardenLost => exact hclosed
  | park => rw [park_frame]; exact hroll _
  | close isOpen => exact closed_of_serves (close_serves h.attended isOpen)
  | slot | shut | late | decided | expire | goOn | wardenWake => exact hroll _

theorem run_closed (h : g.Sound) (hclosed : g.closed = true) (es : List Event) :
    (g.run es).1.closed = true := by
  induction es generalizing g with
  | nil => exact hclosed
  | cons e es ih =>
      exact ih (step_sound h e) (move_closed h.toPaired (step_move g e) hclosed)

/-- A run is a run and then another. -/
theorem run_append (g : Gate) (es fs : List Event) :
    g.run (es ++ fs) =
      (((g.run es).1.run fs).1, (g.run es).2 ++ ((g.run es).1.run fs).2) := by
  induction es generalizing g with
  | nil => rfl
  | cons e es ih => rw [List.cons_append, run_cons, ih, run_cons, List.append_assoc]

/-- Every gate in use is sound. -/
theorem sound_of_start (policy : Policy) (now : Instant) (es : List Event) :
    ((start policy now).run es).1.Sound :=
  run_sound (sound_start policy now) es

end Gate

end Turnstile
