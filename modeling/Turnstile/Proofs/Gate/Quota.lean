import Turnstile.Proofs.Gate.History
import Turnstile.Proofs.Policy

/-!
# The Quota of a Window

A gate gives away no more slots in a window than its policy allows.

Slots are given away in four places: to an arriving call, and to those in line when
the window is observed by an arriving call, by a call that wakes up, or by a warden.
Each of the last three may find the window new and begin to count afresh, so the bound
is as good as the promise that no window is found new twice. The observed window
never goes back, whatever the clock reads, and the count goes back to zero only when
it goes forward.

The gate knows the window by its index and the time by its clock. As long as the clock
does not go back the two agree where it matters: whenever a slot is given away, the
observed window is the one in which the clock is. Then the slots given away in the
observed windows are the slots given away in the windows of the calendar.

## Main definitions

* `grants`: The slots that notices tell to have been given away.
* `grantsSince`: The slots given away since the observed window changed.
* `grantsWithin`: The slots given away in a window of the calendar.

## Theorems

* `move_window`, `move_admitted`: What an event does to the window and to the count.
* `move_grant`: A slot is given away at a reading, with the window observed.
* `admitted_eq_grantsSince`: The count is what was given away since the window changed.
* `grantsWithin_add_spent_le`: No window of the calendar has more slots given away than it
  has.
* `quota_kept`: All of this for the runs of a gate.
-/

namespace Turnstile

/-- Whether a notice tells of a slot that was given away. -/
def Notice.isGrant : Notice → Bool
  | .granted _ => true
  | _ => false

/-- The slots that notices tell to have been given away. -/
def grants (notices : List Notice) : Nat :=
  notices.countP Notice.isGrant

/-- The slots given away since the observed window last changed, when `n` had been
    given away in the window observed before some moments. -/
def grantsSince (n : Nat) : List Moment → Nat
  | [] => n
  | m :: rest =>
    grantsSince ((if m.after.window = m.before.window then n else 0) + grants m.notices) rest

/-- Whether the reading of a moment lies in a window. -/
def Moment.isWithin (p : Policy) (k : Int) (m : Moment) : Bool :=
  match m.event.reading? with
  | some now => p.InWindow k now
  | none => false

/-- The slots that a moment gives away at a reading in a window. -/
def Moment.grantsWithin (p : Policy) (k : Int) (m : Moment) : Nat :=
  if m.isWithin p k then grants m.notices else 0

/-- The slots given away at readings in a window. -/
def grantsWithin (p : Policy) (k : Int) : List Moment → Nat
  | [] => 0
  | m :: rest => m.grantsWithin p k + grantsWithin p k rest

theorem grants_append (notices others : List Notice) :
    grants (notices ++ others) = grants notices + grants others :=
  List.countP_append

theorem grants_notices (verdict : Waiter → Bool) (entries : List (Place × Waiter)) :
    grants (entries.map fun e => e.2.notice verdict) =
      entries.countP fun e => verdict e.2 := by
  rw [grants, List.countP_map]
  refine List.countP_congr fun e _ => ?_
  simp only [Function.comp_apply, Waiter.notice]
  cases verdict e.2 <;> rfl

/-- Some notice of a grant is counted. -/
theorem exists_granted_of_grants_ne_zero {notices : List Notice} (h : grants notices ≠ 0) :
    ∃ call, .granted call ∈ notices := by
  rcases List.countP_pos_iff.mp (Nat.pos_of_ne_zero h) with ⟨n, hmem, hgrant⟩
  cases n with
  | granted call => exact ⟨call, hmem⟩
  | denied | parked | returned => exact absurd hgrant Bool.false_ne_true

namespace Gate

variable {g g' : Gate} {e : Event} {notices : List Notice}

/-- The count of a gate that has observed the window. -/
theorem roll_count (h : g.Paired) (now : Instant) :
    (g.roll now).1.admitted =
      (if (g.roll now).1.window = g.window then g.admitted else 0) + grants (g.roll now).2 := by
  rw [roll_admitted h, roll_notices h, grants_notices, roll_window h]
  by_cases hwindow : g.policy.windowAt now ≤ g.window
  · rw [if_pos hwindow, if_pos (Int.max_eq_left hwindow)]
  · rw [if_neg hwindow, if_neg (by omega)]

/-- An event leaves the observed window as it is or moves it up to its reading. -/
theorem move_window (h : g.Paired) (hmove : g.Move e g' notices) :
    g'.window = g.window ∨
      ∃ now, e.reading? = some now ∧ g'.window = max g.window (g.policy.windowAt now) := by
  cases hmove with
  | park => exact Or.inr ⟨_, rfl, by rw [park_frame]; exact roll_window h _⟩
  | close isOpen =>
      have hserves := close_serves h.attended isOpen
      exact Or.inl (by rw [window_of_serves hserves])
  | nothing | collect | drop | wardenLook | wardenLost => exact Or.inl rfl
  | slot | shut | late | decided | expire | goOn | wardenWake =>
      exact Or.inr ⟨_, rfl, roll_window h _⟩

/-- The observed window never goes back. -/
theorem move_window_le (h : g.Paired) (hmove : g.Move e g' notices) : g.window ≤ g'.window := by
  rcases move_window h hmove with heq | ⟨now, -, heq⟩
  · omega
  · omega

/-- The count goes on, or begins afresh when the window changes. -/
theorem move_admitted (h : g.Paired) (hmove : g.Move e g' notices) :
    g'.admitted = (if g'.window = g.window then g.admitted else 0) + grants notices := by
  have hkeep : g.admitted = (if g.window = g.window then g.admitted else 0) + 0 := by
    rw [if_pos rfl, Nat.add_zero]
  cases hmove with
  | @slot call _ _ now =>
      -- The slot that is taken at once counts after those of the new window.
      have hone : grants [.granted call, .returned call true] = 1 := rfl
      rw [grants_append, hone, ← Nat.add_assoc]
      exact congrArg (· + 1) (roll_count h now)
  | shut | late | decided | expire =>
      rw [grants_append]
      exact roll_count h _
  | park =>
      rw [grants_append, park_frame]
      exact roll_count h _
  | goOn | wardenWake => exact roll_count h _
  | nothing | collect | drop | wardenLook | wardenLost => exact hkeep
  | close isOpen =>
      have hserves := close_serves h.attended isOpen
      rw [hserves.admitted_eq, hserves.notices_eq, grants_notices, window_of_serves hserves]
      rw [List.countP_false]
      exact hkeep

/-- A slot is given away at a reading, with the window of the reading observed unless
    a later one was observed before. -/
theorem move_grant (h : g.Paired) (hmove : g.Move e g' notices) {call : CallId}
    (hgrant : .granted call ∈ notices) :
    ∃ now, e.reading? = some now ∧ g'.window = max g.window (g.policy.windowAt now) := by
  cases hmove with
  | nothing | wardenLook | wardenLost | drop => exact absurd hgrant List.not_mem_nil
  | collect => exact nomatch List.mem_singleton.mp hgrant
  | close isOpen =>
      rw [(close_serves h.attended isOpen).notices_eq] at hgrant
      rcases List.mem_map.mp hgrant with ⟨x, -, hx⟩
      exact nomatch hx
  | park => exact ⟨_, rfl, by rw [park_frame]; exact roll_window h _⟩
  | slot | shut | late | decided | expire | goOn | wardenWake =>
      exact ⟨_, rfl, roll_window h _⟩

/-- The count is what was given away since the observed window changed. -/
theorem admitted_eq_grantsSince (h : g.Sound) (es : List Event) :
    (g.run es).1.admitted = grantsSince g.admitted (g.history es) := by
  induction es generalizing g with
  | nil => rfl
  | cons e es ih =>
      rw [run_cons, ih (step_sound h e), history, grantsSince,
        move_admitted h.toPaired (step_move g e)]
      rfl

/-- The slots of a window that can no more be given away: all of a window that is over,
    and those of the observed one that were. -/
def spent (g : Gate) (k : Int) : Nat :=
  if k < g.window then g.policy.quota.toNat else if k = g.window then g.admitted else 0

theorem spent_le (h : g.Sound) (k : Int) : g.spent k ≤ g.policy.quota.toNat := by
  have hle := h.admitted_le
  unfold spent
  split
  · omega
  · split <;> omega

/-- The slots that an event gives away in a window are spent. -/
theorem spent_move (h : g.Sound) (hmove : g.Move e g' notices) {k : Int} {given : Nat}
    (hgiven : given = 0 ∨ given = grants notices ∧ g'.window = k) :
    given + g.spent k ≤ g'.spent k := by
  have hpolicy := move_policy h.toPaired hmove
  have hwindow := move_window_le h.toPaired hmove
  have hadmitted := move_admitted h.toPaired hmove
  have hle := h.admitted_le
  unfold spent
  rw [hpolicy]
  -- In the same window the count goes on. In a later one the windows up to it are over,
  -- and the count of the later one is what was given away now.
  by_cases hsame : g'.window = g.window
  · rw [if_pos hsame] at hadmitted
    rw [hsame] at hgiven ⊢
    split
    · omega
    · split <;> omega
  · rw [if_neg hsame, Nat.zero_add] at hadmitted
    rcases Int.lt_trichotomy k g'.window with hk | hk | hk
    · rw [if_pos hk]
      split
      · omega
      · split <;> omega
    · rw [if_neg (by omega), if_pos hk, if_neg (by omega), if_neg (by omega)]
      omega
    · rw [if_neg (by omega), if_neg (by omega), if_neg (by omega), if_neg (by omega)]
      omega

/-- An event at a reading that is not behind the observed window leaves the window not
    ahead of the reading. -/
theorem move_window_le_windowAt (h : g.Paired) (hmove : g.Move e g' notices) {first : Instant}
    (hfirst : g.window ≤ g.policy.windowAt first)
    (hreading : ∀ now, e.reading? = some now → first ≤ now) :
    g'.window ≤ g.policy.windowAt (e.reading?.getD first) := by
  have hkeep : g.window ≤ g.policy.windowAt (e.reading?.getD first) := by
    cases hnow : e.reading? with
    | none => exact hfirst
    | some now => exact Int.le_trans hfirst (g.policy.windowAt_mono (hreading now hnow))
  rcases move_window h hmove with heq | ⟨now, hnow, heq⟩
  · rw [heq]
    exact hkeep
  · rw [hnow, Option.getD_some] at hkeep ⊢
    omega

theorem run_window_le (h : g.Sound) (es : List Event) : g.window ≤ (g.run es).1.window := by
  induction es generalizing g with
  | nil => exact Int.le_refl _
  | cons e es ih =>
      exact Int.le_trans (move_window_le h.toPaired (step_move g e)) (ih (step_sound h e))

theorem window_le_of_mem_history (h : g.Sound) {es : List Event} {m : Moment}
    (hm : m ∈ g.history es) : g.window ≤ m.before.window := by
  rcases exists_split_of_mem_history hm with ⟨fs, -, -, hbefore⟩
  rw [hbefore]
  exact run_window_le h fs

/-- A clock that does not go back reads no window before the one that was observed. -/
theorem window_le_of_timely (h : g.Sound) {first : Instant} {es : List Event}
    (hfirst : g.window ≤ g.policy.windowAt first) (htimely : Timely first es) {m : Moment}
    (hm : m ∈ g.history es) {now : Instant} (hnow : m.event.reading? = some now) :
    m.before.window ≤ g.policy.windowAt now := by
  -- What is kept along the run is that the observed window is not ahead of the clock.
  induction es generalizing g first with
  | nil => exact nomatch hm
  | cons e es ih =>
      rcases timely_step htimely with ⟨hle, hrest⟩
      rcases List.mem_cons.mp hm with rfl | hlater
      · exact Int.le_trans hfirst (g.policy.windowAt_mono (hle now hnow))
      · have hmove := step_move g e
        have hpolicy := move_policy h.toPaired hmove
        have hnext := move_window_le_windowAt h.toPaired hmove hfirst hle
        rw [← hpolicy] at hnext ⊢
        exact ih (step_sound h e) hnext hrest hlater

/-- A slot is given away while the observed window is that of the reading, if the clock
    does not go back. -/
theorem window_of_grant (h : g.Paired) (hmove : g.Move e g' notices) {first : Instant}
    (hfirst : g.window ≤ g.policy.windowAt first)
    (hreading : ∀ now, e.reading? = some now → first ≤ now) {call : CallId}
    (hgrant : .granted call ∈ notices) :
    ∃ now, e.reading? = some now ∧ g'.window = g.policy.windowAt now := by
  rcases move_grant h hmove hgrant with ⟨now, hnow, heq⟩
  -- The window observed before is not ahead of the clock, nor is the clock of itself.
  have hle := g.policy.windowAt_mono (hreading now hnow)
  exact ⟨now, hnow, by omega⟩

/-- Every slot of a timely history is given away in the window of its reading. -/
theorem window_of_granted (h : g.Sound) {first : Instant} {es : List Event}
    (hfirst : g.window ≤ g.policy.windowAt first) (htimely : Timely first es) {m : Moment}
    (hm : m ∈ g.history es) {call : CallId} (hgrant : .granted call ∈ m.notices) :
    ∃ now, m.event.reading? = some now ∧ m.after.window = g.policy.windowAt now := by
  have hpaired := (sound_of_mem_history h hm).toPaired
  rcases move_grant hpaired (step_move m.before m.event) hgrant with ⟨now, hnow, heq⟩
  have hle := window_le_of_timely h hfirst htimely hm hnow
  rw [policy_of_mem_history h hm] at heq
  exact ⟨now, hnow, heq.trans (Int.max_eq_right hle)⟩

/-- What a moment gives away at a reading in a window it gives away in that window. -/
theorem grantsWithin_eq (h : g.Paired) {first : Instant}
    (hfirst : g.window ≤ g.policy.windowAt first)
    (hreading : ∀ now, e.reading? = some now → first ≤ now) (k : Int) :
    (⟨g, e⟩ : Moment).grantsWithin g.policy k = 0 ∨
      (⟨g, e⟩ : Moment).grantsWithin g.policy k = grants (g.step e).2 ∧
        (g.step e).1.window = k := by
  unfold Moment.grantsWithin
  by_cases hwithin : (⟨g, e⟩ : Moment).isWithin g.policy k = true
  · rw [if_pos hwithin]
    -- Only a moment that gives something away says in which window it does.
    by_cases hzero : grants (g.step e).2 = 0
    · exact Or.inl hzero
    · rcases exists_granted_of_grants_ne_zero hzero with ⟨call, hgrant⟩
      rcases window_of_grant h (step_move g e) hfirst hreading hgrant with ⟨now, hnow, hwindow⟩
      simp only [Moment.isWithin, hnow, decide_eq_true_eq] at hwithin
      exact Or.inr ⟨rfl, hwindow.trans ((g.policy.windowAt_eq_iff k now).mpr hwithin)⟩
  · exact Or.inl (if_neg hwithin)

/-- What is given away in a window and what was spent of it before do not exceed it. -/
theorem grantsWithin_add_spent_le (h : g.Sound) {first : Instant} {es : List Event}
    (hfirst : g.window ≤ g.policy.windowAt first) (htimely : Timely first es) (k : Int) :
    grantsWithin g.policy k (g.history es) + g.spent k ≤ g.policy.quota.toNat := by
  -- Each event gives away no more than it spends, and no more can be spent than there is.
  induction es generalizing g first with
  | nil => exact (Nat.zero_add _).symm ▸ spent_le h k
  | cons e es ih =>
      have hmove := step_move g e
      rcases timely_step htimely with ⟨hreading, hrest⟩
      have hnext := move_window_le_windowAt h.toPaired hmove hfirst hreading
      have hgiven := grantsWithin_eq h.toPaired hfirst hreading k
      have hspent := spent_move h hmove hgiven
      rw [← move_policy h.toPaired hmove] at hnext hspent ⊢
      have hih := ih (step_sound h e) hnext hrest
      rw [history, grantsWithin]
      omega

/-- **The quota is kept.** In every run of a gate, whatever the events and the readings,
    the observed window never goes back, and the slots counted are those given away
    since it last changed and no more than the quota. If the readings never go back
    either, each slot is given away while the observed window is that of the reading,
    and so no window of the calendar has more slots given away than the quota. -/
theorem quota_kept (policy : Policy) (first : Instant) (es : List Event) :
    let g := start policy first
    (∀ m ∈ g.history es, m.before.window ≤ m.after.window) ∧
    (g.run es).1.admitted = grantsSince 0 (g.history es) ∧
    (g.run es).1.admitted ≤ policy.quota.toNat ∧
    (Timely first es →
      (∀ m ∈ g.history es, ∀ call, .granted call ∈ m.notices →
        ∃ now, m.event.reading? = some now ∧ m.after.window = policy.windowAt now) ∧
      ∀ k, grantsWithin policy k (g.history es) ≤ policy.quota.toNat) := by
  have hsound := sound_start policy first
  refine ⟨fun m hm => ?_, admitted_eq_grantsSince hsound es, ?_, fun htimely => ⟨?_, ?_⟩⟩
  · exact move_window_le (sound_of_mem_history hsound hm).toPaired (step_move m.before m.event)
  · have hle := (run_sound hsound es).admitted_le
    rw [run_policy hsound] at hle
    exact hle
  · intro m hm call hgrant
    exact window_of_granted hsound (Int.le_refl _) htimely hm hgrant
  · intro k
    have hle := grantsWithin_add_spent_le hsound (Int.le_refl _) htimely k
    exact Nat.le_trans (Nat.le_add_right _ _) hle

/-- In the rush the second window gives away the one slot it has. -/
theorem quota_kept_in_rush :
    Timely Instant.epoch (Rush.arrivals ++ Rush.turn) ∧
    grantsWithin Rush.policy 1
      ((start Rush.policy Instant.epoch).history (Rush.arrivals ++ Rush.turn)) = 1 ∧
    grantsWithin Rush.policy 1
      ((start Rush.policy Instant.epoch).history (Rush.arrivals ++ Rush.turn)) ≤
        Rush.policy.quota.toNat :=
  ⟨by decide, by decide, ((quota_kept Rush.policy Instant.epoch _).2.2.2 (by decide)).2 1⟩

end Gate

end Turnstile
