import Turnstile.Proofs.Gate.Watch

/-!
# Shifts

What the wardens of a gate go through, and by which window one of them sleeps.

The life of a warden is told apart from all else that happens at a gate. One is called when a
call begins to wait and there is no note of a warden. It looks, sleeps, wakes up and looks
again, until it goes. It may be lost at any time, and then the note of it is taken away, unless it
had not begun; so there is never a second one, though there may be a note of one that is gone.

A warden that sleeps says until when, but not why. That it went to sleep at some moment, by the
window that was observed then, is told by the past. Since it is the only one, nobody has
woken up since: whoever wakes up was asleep before.

## Main definitions

* `Moment.Rouses`, `Moment.Lulls`: A warden wakes up, a warden goes to sleep.
* `Gate.Shift`: What an event does to the wardens.
* `Gate.Slumbers`: Whoever sleeps went to sleep in the past, and no warden has woken up since.

## Theorems

* `step_shift`: Every step is a shift.
* `sole_of_shift`: There is one warden at most.
* `asleep_of_step`, `target_of_lulls`: Where a sleep comes from, and until when it is.
* `slumbers_run`, `look_of_rouses`: A warden that wakes up slept by the window that was observed
  when it last looked.
-/

namespace Turnstile

namespace Moment

/-- A warden that slept until an instant wakes up at a reading. -/
def Rouses (m : Moment) (target now : Instant) : Prop :=
  ∃ n, m.event = .wardenWake n now ∧ m.before.wardens[n]? = some (.asleep target)

/-- A warden has a look and goes to sleep until an instant. -/
def Lulls (m : Moment) (target : Instant) : Prop :=
  ∃ n, m.event = .wardenLook n ∧
    (m.before.wardens[n]? = some .called ∨ m.before.wardens[n]? = some .ready) ∧
    m.after.wardens = m.before.wardens.set n (.asleep target)

variable {m : Moment} {target now : Instant}

/-- An event that wakes no warden up is not the waking up of one. -/
theorem not_rouses_of_ne {e : Event} (h : ∀ n now, e ≠ .wardenWake n now) (g : Gate)
    (target now : Instant) : ¬(⟨g, e⟩ : Moment).Rouses target now := by
  rintro ⟨n, heq, -⟩
  exact h n now heq

theorem not_rouses_of_lulls {next : Instant} (h : m.Lulls next) : ¬m.Rouses target now := by
  rintro ⟨n, hevent, -⟩
  rcases h with ⟨k, hlook, -⟩
  exact nomatch hevent.symm.trans hlook

end Moment

namespace Gate

variable {g g' : Gate} {event : Event} {target now : Instant}

/-- What an event does to the wardens and to the note of them. -/
inductive Shift (g : Gate) : Event → List Warden → Bool → Prop where
  /-- The wardens are left alone. -/
  | stay (e : Event) (sleep : ∀ target now, ¬(⟨g, e⟩ : Moment).Rouses target now) :
      Shift g e g.wardens g.watched
  /-- A call that begins to wait has a warden called if there is no note of one. -/
  | summon {call : CallId} {request : Request} {ttl : Span} {now : Instant}
      (isOpen : g.closed = false) (unwatched : g.watched = false) :
      Shift g (.arrive call request ttl now) (g.wardens ++ [.called]) true
  /-- A warden wakes up. -/
  | rouse {n : Nat} {target now : Instant} (sleeps : g.wardens[n]? = some (.asleep target)) :
      Shift g (.wardenWake n now) (g.wardens.set n .ready) g.watched
  /-- A warden goes to sleep until the window starts that follows the one last observed. -/
  | lull {n : Nat} (isOpen : g.closed = false)
      (awake : g.wardens[n]? = some .called ∨ g.wardens[n]? = some .ready) :
      Shift g (.wardenLook n)
        (g.wardens.set n (.asleep (g.policy.windowStart (g.window + 1)))) g.watched
  /-- A warden goes, and takes the note away. -/
  | leave {e : Event} {n : Nat} (there : n < g.wardens.length)
      (goes : e = .wardenLook n ∨ e = .wardenLost n) : Shift g e (g.wardens.eraseIdx n) false
  /-- A warden is lost, and leaves the note behind. -/
  | lost {n : Nat} : Shift g (.wardenLost n) (g.wardens.eraseIdx n) g.watched

theorem park_shift (g : Gate) (isOpen : g.closed = false) (hwardens : g'.wardens = g.wardens)
    (hwatched : g'.watched = g.watched) (call : CallId) (request : Request) (deadline : Instant)
    (ttl : Span) (now : Instant) :
    g.Shift (.arrive call request ttl now) (g'.park call request deadline).wardens
      (g'.park call request deadline).watched := by
  unfold park watch
  by_cases hnote : g.watched = true
  · simp only [hwardens, hwatched, hnote, if_true]
    have hstay := Shift.stay (g := g) (.arrive call request ttl now)
      (Moment.not_rouses_of_ne (fun _ _ => Event.noConfusion) g)
    rw [hnote] at hstay
    exact hstay
  · simp only [hwardens, hwatched, hnote, Bool.false_eq_true, if_false]
    exact .summon isOpen (Bool.eq_false_iff.mpr hnote)

/-- An event that is not of a warden calls one or leaves them alone. -/
theorem shift_of_move (h : g.Paired) {notices : List Notice} (hmove : g.Move event g' notices)
    (hwake : ∀ n now, event ≠ .wardenWake n now) (hlook : ∀ n, event ≠ .wardenLook n)
    (hlost : ∀ n, event ≠ .wardenLost n) : g.Shift event g'.wardens g'.watched := by
  have hroll := roll_wardens h
  have hstay : ∀ k : Gate, k.wardens = g.wardens → k.watched = g.watched →
      g.Shift event k.wardens k.watched := by
    intro k hwardens hwatched
    rw [hwardens, hwatched]
    exact .stay event (Moment.not_rouses_of_ne hwake g)
  cases hmove with
  | nothing | collect | drop => exact hstay _ rfl rfl
  | slot | shut | late | decided | expire | goOn => exact hstay _ (hroll _).1 (hroll _).2
  | @park call request ttl now _ isOpen =>
      rw [roll_closed h] at isOpen
      exact park_shift g isOpen (hroll now).1 (hroll now).2 call request _ ttl now
  | wardenWake => exact absurd rfl (hwake _ _)
  | wardenLook => exact absurd rfl (hlook _)
  | wardenLost => exact absurd rfl (hlost _)
  | close isOpen =>
      have hframe := (close_serves h.attended isOpen).frame
      exact hstay _ (by rw [hframe]) (by rw [hframe])

theorem lt_length_of_awake {n : Nat}
    (hawake : g.wardens[n]? = some .called ∨ g.wardens[n]? = some .ready) :
    n < g.wardens.length := by
  rcases hawake with hw | hw
  · exact (List.getElem?_eq_some_iff.mp hw).1
  · exact (List.getElem?_eq_some_iff.mp hw).1

/-- What a warden does when it has a look. -/
theorem look_shift {n : Nat}
    (hawake : g.wardens[n]? = some .called ∨ g.wardens[n]? = some .ready)
    (h : g' = if g.closed || g.line.isEmpty then
        { g with wardens := g.wardens.eraseIdx n, watched := false }
      else { g with wardens :=
        g.wardens.set n (.asleep (g.policy.windowStart (g.window + 1))) }) :
    g.Shift (.wardenLook n) g'.wardens g'.watched := by
  rw [h]
  split
  next => exact .leave (lt_length_of_awake hawake) (Or.inl rfl)
  next hstays =>
    rw [Bool.not_eq_true, Bool.or_eq_false_iff] at hstays
    exact .lull hstays.1 hawake

/-- Every step is a shift. -/
theorem step_shift (h : g.Paired) (e : Event) :
    g.Shift e (g.step e).1.wardens (g.step e).1.watched := by
  cases e with
  | wardenWake n now =>
      change g.Shift _ (g.wardenWake n now).1.wardens (g.wardenWake n now).1.watched
      unfold wardenWake
      split
      next hsleeps =>
        simp only [(roll_wardens h now).1, (roll_wardens h now).2]
        exact .rouse hsleeps
      next hawake =>
        refine .stay _ ?_
        rintro target t ⟨k, heq, hsleeps⟩
        cases heq
        exact hawake target hsleeps
  | wardenLook n =>
      change g.Shift _ (g.wardenLook n).wardens (g.wardenLook n).watched
      unfold wardenLook
      split
      next hw => exact look_shift (Or.inl hw) rfl
      next hw => exact look_shift (Or.inr hw) rfl
      next => exact .stay _ (Moment.not_rouses_of_ne (fun _ _ => Event.noConfusion) g)
  | wardenLost n =>
      change g.Shift _ (g.wardenLost n).wardens (g.wardenLost n).watched
      unfold wardenLost
      split
      next hw => exact .leave (List.getElem?_eq_some_iff.mp hw).1 (Or.inr rfl)
      next => exact .lost
      next => exact .stay _ (Moment.not_rouses_of_ne (fun _ _ => Event.noConfusion) g)
  | arrive | wake | collect | drop | close | read =>
      exact shift_of_move h (step_move g _) (fun _ _ => Event.noConfusion)
        (fun _ => Event.noConfusion) (fun _ => Event.noConfusion)

/-- There is one warden at most, and none without a note of it. -/
theorem sole_of_shift {wardens : List Warden} {watched : Bool}
    (h : g.wardens.length ≤ g.watched.toNat) (hshift : g.Shift event wardens watched) :
    wardens.length ≤ watched.toNat := by
  cases hshift with
  | stay => exact h
  | summon _ unwatched =>
      rw [unwatched] at h
      rw [List.length_append]
      exact Nat.add_le_add_right h 1
  | rouse | lull =>
      rw [List.length_set]
      exact h
  | leave there =>
      -- There was one, so that none is left when the note is taken away.
      have hone := Bool.toNat_le g.watched
      rw [List.length_eraseIdx_of_lt there]
      change g.wardens.length - 1 ≤ 0
      omega
  | lost => exact Nat.le_trans (List.length_eraseIdx_le _ _) h

/-- A warden that sleeps after an event went to sleep then, until the window starts that follows
    the one last observed; or it slept before, and the event woke nobody up. -/
theorem asleep_of_step (h : g.Paired) (hsole : g.wardens.length ≤ g.watched.toNat) (e : Event)
    (hmem : .asleep target ∈ (g.step e).1.wardens) :
    (⟨g, e⟩ : Moment).Lulls target ∨
      .asleep target ∈ g.wardens ∧ ∀ t now, ¬(⟨g, e⟩ : Moment).Rouses t now := by
  have hshift := step_shift h e
  generalize hwardens : (g.step e).1.wardens = wardens at hmem hshift
  generalize (g.step e).1.watched = watched at hshift
  cases hshift with
  | stay _ sleep => exact Or.inr ⟨hmem, sleep⟩
  | summon =>
      rcases List.mem_append.mp hmem with hold | hnew
      · exact Or.inr ⟨hold, Moment.not_rouses_of_ne (fun _ _ => Event.noConfusion) g⟩
      · exact nomatch List.mem_singleton.mp hnew
  | @rouse n _ _ sleeps =>
      -- The only warden there was is awake now.
      rcases List.getElem?_eq_some_iff.mp sleeps with ⟨hn, -⟩
      have hone := Nat.le_trans hsole (Bool.toNat_le _)
      rcases List.length_eq_one_iff.mp (show g.wardens.length = 1 by omega) with ⟨w, hw⟩
      have hzero : n = 0 := by omega
      rw [hw, hzero] at hmem
      exact nomatch List.mem_singleton.mp hmem
  | @lull n _ awake =>
      rcases List.mem_or_eq_of_mem_set hmem with hold | heq
      · exact Or.inr ⟨hold, Moment.not_rouses_of_ne (fun _ _ => Event.noConfusion) g⟩
      · refine Or.inl ⟨n, rfl, awake, ?_⟩
        rw [heq]
        exact hwardens
  | leave _ goes =>
      refine Or.inr ⟨List.mem_of_mem_eraseIdx hmem, Moment.not_rouses_of_ne (fun n now heq => ?_) g⟩
      rcases goes with hlook | hlost
      · exact nomatch hlook.symm.trans heq
      · exact nomatch hlost.symm.trans heq
  | lost =>
      exact Or.inr ⟨List.mem_of_mem_eraseIdx hmem,
        Moment.not_rouses_of_ne (fun _ _ => Event.noConfusion) g⟩

/-- A warden goes to sleep until the window starts that follows the one last observed. -/
theorem target_of_lulls (h : g.Paired) (hlulls : (⟨g, event⟩ : Moment).Lulls target) :
    target = g.policy.windowStart (g.window + 1) := by
  rcases hlulls with ⟨n, hevent, hawake, hset⟩
  change event = .wardenLook n at hevent
  change (g.step event).1.wardens = _ at hset
  subst hevent
  have hn := lt_length_of_awake hawake
  have hshift := step_shift h (.wardenLook n)
  rw [hset] at hshift
  generalize hwardens : g.wardens.set n (.asleep target) = wardens at hshift
  generalize (g.step (.wardenLook n)).1.watched = watched at hshift
  have hthere : wardens[n]? = some (.asleep target) := by
    rw [← hwardens, List.getElem?_set_self hn]
  cases hshift with
  | stay =>
      -- It was awake before.
      rcases hawake with hw | hw
      · exact nomatch hw.symm.trans hthere
      · exact nomatch hw.symm.trans hthere
  | lull =>
      rw [List.getElem?_set_self hn] at hthere
      exact (Warden.asleep.inj (Option.some.inj hthere)).symm
  | leave there goes =>
      -- There are no fewer wardens than before.
      have hlength := congrArg List.length hwardens
      rw [List.length_set, List.length_eraseIdx_of_lt there] at hlength
      omega

/-- Whoever sleeps went to sleep in the past, and no warden has woken up since. -/
def Slumbers (past : List Moment) (g : Gate) : Prop :=
  ∀ target, .asleep target ∈ g.wardens → ∃ before look between,
    past = before ++ look :: between ∧ look.Lulls target ∧
      ∀ x ∈ between, ∀ t now, ¬x.Rouses t now

theorem slumbers_start (policy : Policy) (first : Instant) :
    Slumbers [] (start policy first) :=
  fun _ hmem => nomatch hmem

theorem slumbers_step (h : g.Paired) (hsole : g.wardens.length ≤ g.watched.toNat)
    {past : List Moment} (hpast : Slumbers past g) (e : Event) :
    Slumbers (past ++ [⟨g, e⟩]) (g.step e).1 := by
  intro target hmem
  -- The event is the look itself, or the look of before is still the last thing of note.
  rcases asleep_of_step h hsole e hmem with hlulls | ⟨hold, hquiet⟩
  · exact ⟨past, ⟨g, e⟩, [], rfl, hlulls, fun _ hx => nomatch hx⟩
  · rcases hpast target hold with ⟨before, look, between, rfl, hlulls, hnone⟩
    refine ⟨before, look, between ++ [⟨g, e⟩], by rw [List.append_assoc, List.cons_append], hlulls,
      fun x hx => ?_⟩
    rcases List.mem_append.mp hx with hbetween | hlast
    · exact hnone x hbetween
    · rw [List.mem_singleton.mp hlast]
      exact hquiet

theorem slumbers_run (hs : g.Sound) (hsole : g.wardens.length ≤ g.watched.toNat)
    {past : List Moment} (hpast : Slumbers past g) (es : List Event) :
    Slumbers (past ++ g.history es) (g.run es).1 := by
  induction es generalizing g past with
  | nil =>
      rw [history, List.append_nil]
      exact hpast
  | cons e es ih =>
      have hnext := slumbers_step hs.toPaired hsole hpast e
      have hrest := ih (step_sound hs e) (sole_of_shift hsole (step_shift hs.toPaired e)) hnext
      rw [List.append_assoc] at hrest
      exact hrest

/-- A warden that wakes up went to sleep before, by the window that was observed then, and no
    warden has woken up since. -/
theorem look_of_rouses {policy : Policy} {first : Instant} {es : List Event}
    {pre post : List Moment} {m : Moment}
    (hsplit : (start policy first).history es = pre ++ m :: post)
    (hrouses : m.Rouses target now) :
    ∃ before look between, pre = before ++ look :: between ∧ look.Lulls target ∧
      (∀ x ∈ between, ∀ t u, ¬x.Rouses t u) ∧
      target = policy.windowStart (look.before.window + 1) := by
  have hstart := sound_start policy first
  rcases split_of_history hsplit with ⟨fs, -, -, hpre, hbefore, -⟩
  have hslumbers := slumbers_run hstart (Nat.le_refl 0) (slumbers_start policy first) fs
  rw [← hbefore, ← hpre, List.nil_append] at hslumbers
  rcases hrouses with ⟨n, -, hsleeps⟩
  rcases hslumbers target (List.mem_of_getElem? hsleeps) with
    ⟨before, look, between, hlook, hlulls, hquiet⟩
  -- The look is a moment of the run, so its gate is sound and has the policy of the run.
  have hmem : look ∈ (start policy first).history fs := by
    rw [← hpre, hlook]
    exact List.mem_append_right _ List.mem_cons_self
  have htarget := target_of_lulls (sound_of_mem_history hstart hmem).toPaired hlulls
  rw [policy_of_mem_history hstart hmem] at htarget
  exact ⟨before, look, between, hlook, hlulls, hquiet, htarget⟩

end Gate

end Turnstile
