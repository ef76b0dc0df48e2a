import Turnstile.Proofs.Gate.Watch

/-!
# Coming to Rest

The tasks of a gate go on for as long as there is something for them to do, and this comes
to an end at every reading of the clock.

A gate has no clock of its own, and its events come with any readings. What a clock adds
is that sleeping tasks go on when the instants they sleep until have come. `Due` lists the
events that the tasks of a gate are ready for at a reading, and `Rests` says that there is
none.

That a gate comes to rest needs a proof, as a task that is woken may find that it has to
sleep and be due at once. A call that is due ends. A warden that is due wakes, looks and
sleeps until a window that is still to come, unless there is none: at the last instant of
the calendar it would be due for ever. But then the time of everybody is over, and once
the calls have ended it finds nobody in line and goes.

## Main definitions

* `Event.IsAt`: An event happens at a reading.
* `Gate.Due`, `Gate.Rests`: What the tasks of a gate are ready for, and that it is nothing.
* `Gate.DueRun`: A row of events each of which is due when it happens.
* `Gate.pending`: A bound on how long such rows can be.

## Theorems

* `rests_iff`: Being at rest, in terms of callers and wardens.
* `sole_warden`: A watchful gate has one warden at most.
* `pending_timer`, `pending_verdict`, `pending_alarm`, `pending_look`: Each kind of event
  that is due leaves less to be done.
* `length_le_of_dueRun`: Rows of due events are short, in whatever order they happen.
* `exists_rest`: Some row of due events brings a gate to rest.
-/

namespace Turnstile

/-- An event happens at a reading of the clock, or reads no clock, and loses no warden. -/
def Event.IsAt (now : Instant) (e : Event) : Prop :=
  (∀ t ∈ e.reading?, t = now) ∧ e.isLoss = false

instance (now : Instant) (e : Event) : Decidable (e.IsAt now) :=
  inferInstanceAs (Decidable (_ ∧ _))

namespace Gate

/-- What the tasks of a gate are ready for at a reading of the clock. -/
inductive Due (g : Gate) (now : Instant) : Event → Prop where
  /-- A call has slept until its deadline. -/
  | timer {call : CallId} {caller : Caller} (there : g.callers.find? call = some caller)
      (timeUp : caller.deadline ≤ now) : Due g now (.wake call now)
  /-- A call was sent a verdict. -/
  | verdict {call : CallId} {caller : Caller} (there : g.callers.find? call = some caller)
      (sent : caller.verdict.isSome = true) : Due g now (.collect call)
  /-- A warden has slept as long as it wanted to. -/
  | alarm {n : Nat} {target : Instant} (sleeps : g.wardens[n]? = some (.asleep target))
      (timeUp : target ≤ now) : Due g now (.wardenWake n now)
  /-- A warden is about to look. -/
  | look {n : Nat} (awake : g.wardens[n]? = some .called ∨ g.wardens[n]? = some .ready) :
      Due g now (.wardenLook n)

/-- No task of a gate is ready for anything. -/
def Rests (g : Gate) (now : Instant) : Prop :=
  ∀ e, ¬g.Due now e

/-- A row of events each of which is due when it happens. -/
def DueRun (now : Instant) : Gate → List Event → Prop
  | _, [] => True
  | g, e :: es => g.Due now e ∧ DueRun now (g.step e).1 es

/-- A warden sleeps on at a reading. -/
def SleepsOn (now : Instant) : Warden → Prop
  | .asleep target => now < target
  | .called => False
  | .ready => False

instance (now : Instant) : DecidablePred (SleepsOn now)
  | .asleep target => inferInstanceAs (Decidable (now < target))
  | .called => inferInstanceAs (Decidable False)
  | .ready => inferInstanceAs (Decidable False)

variable {g g' : Gate} {event : Event} {now : Instant}

/-- At rest all calls wait for later instants and all wardens sleep on. -/
theorem rests_iff (g : Gate) (now : Instant) :
    g.Rests now ↔ (∀ e ∈ g.callers.entries, e.2.verdict = none ∧ now < e.2.deadline) ∧
      ∀ w ∈ g.wardens, SleepsOn now w := by
  constructor
  · intro hrests
    refine ⟨fun e he => ?_, fun w hw => ?_⟩
    · have hfind := (Table.find?_eq_some_iff g.callers e.1 e.2).mpr he
      refine ⟨?_, Int.not_le.mp fun hdue => hrests _ (.timer hfind hdue)⟩
      exact Option.not_isSome_iff_eq_none.mp fun hsent => hrests _ (.verdict hfind hsent)
    · rcases List.getElem?_of_mem hw with ⟨n, hn⟩
      cases w with
      | called => exact hrests _ (.look (Or.inl hn))
      | ready => exact hrests _ (.look (Or.inr hn))
      | asleep target => exact Int.not_le.mp fun hdue => hrests _ (.alarm hn hdue)
  · rintro ⟨hcallers, hwardens⟩ e hdue
    cases hdue with
    | timer there timeUp =>
        have hwaits := hcallers _ ((Table.find?_eq_some_iff _ _ _).mp there)
        exact Int.not_le.mpr hwaits.2 timeUp
    | verdict there sent =>
        have hwaits := hcallers _ ((Table.find?_eq_some_iff _ _ _).mp there)
        exact Option.isSome_iff_ne_none.mp sent hwaits.1
    | alarm sleeps timeUp =>
        have hasleep : now < _ := hwardens _ (List.mem_of_getElem? sleeps)
        exact Int.not_le.mpr hasleep timeUp
    | look awake =>
        rcases awake with hcalled | hready
        · exact hwardens _ (List.mem_of_getElem? hcalled)
        · exact hwardens _ (List.mem_of_getElem? hready)

instance (g : Gate) (now : Instant) : Decidable (g.Rests now) :=
  decidable_of_iff _ (rests_iff g now).symm

/-- What is due happens at the reading at which it is. -/
theorem isAt_of_due (h : g.Due now event) : event.IsAt now := by
  cases h with
  | timer | alarm => exact ⟨fun t ht => (Option.some.inj ht).symm, rfl⟩
  | verdict | look => exact ⟨fun t ht => (nomatch ht), rfl⟩

theorem isAt_of_dueRun {es : List Event} (h : DueRun now g es) : ∀ e ∈ es, e.IsAt now := by
  induction es generalizing g with
  | nil => exact fun _ he => absurd he List.not_mem_nil
  | cons x es ih =>
      intro e he
      rcases List.mem_cons.mp he with rfl | hmem
      · exact isAt_of_due h.1
      · exact ih h.2 e hmem

/-- The only warden of a watchful gate is the first. -/
theorem sole_warden (h : g.Watchful) {n : Nat} {w : Warden} (hw : g.wardens[n]? = some w) :
    n = 0 ∧ g.wardens = [w] := by
  have hsole := h.sole
  have hle := Bool.toNat_le g.watched
  rcases List.getElem?_eq_some_iff.mp hw with ⟨hn, -⟩
  rcases List.length_eq_one_iff.mp (show g.wardens.length = 1 by omega) with ⟨v, hv⟩
  have hzero : n = 0 := by omega
  rw [hzero, hv] at hw
  rw [hv, Option.some.inj hw]
  exact ⟨hzero, rfl⟩

/-- How often a warden can act at a reading: once to see that the window was observed, and
    twice more if it has to be observed first. -/
def chores (g : Gate) (now : Instant) : Warden → Nat
  | .asleep target => if target ≤ now then 2 else 0
  | .called => if g.policy.windowAt now ≤ g.window then 1 else 3
  | .ready => if g.policy.windowAt now ≤ g.window then 1 else 3

/-- A bound on what can be due at a reading. -/
def pending (g : Gate) (now : Instant) : Nat :=
  g.callers.size + g.wardens.foldr (fun w n => g.chores now w + n) 0

theorem pending_nil (h : g.wardens = []) : g.pending now = g.callers.size := by
  rw [pending, h]
  rfl

theorem pending_singleton {w : Warden} (h : g.wardens = [w]) :
    g.pending now = g.callers.size + g.chores now w := by
  rw [pending, h]
  rfl

theorem chores_le (g : Gate) (now : Instant) (w : Warden) : g.chores now w ≤ 3 := by
  cases w with
  | asleep target =>
      simp only [chores]
      split <;> omega
  | called | ready =>
      simp only [chores]
      split <;> omega

/-- There is one step for each call, and there are three for the warden at most. -/
theorem pending_le (hw : g.Watchful) (now : Instant) : g.pending now ≤ g.callers.size + 3 := by
  cases hlist : g.wardens with
  | nil =>
      rw [pending_nil hlist]
      omega
  | cons w rest =>
      have hle := g.chores_le now w
      have hsole := (sole_warden hw (n := 0) (w := w) (by rw [hlist]; rfl)).2
      rw [pending_singleton hsole]
      omega

/-- A later window leaves a warden no more to do. -/
theorem chores_mono (hpolicy : g'.policy = g.policy) (hwindow : g.window ≤ g'.window)
    (now : Instant) (w : Warden) : g'.chores now w ≤ g.chores now w := by
  cases w with
  | asleep target => exact Nat.le_refl _
  | called | ready =>
      simp only [chores, hpolicy]
      split
      next => split <;> omega
      next hnew => exact Nat.le_of_eq (if_neg (by omega)).symm

/-- A call is there after the window was observed, with the place and the deadline it had. -/
theorem find?_roll (h : g.Paired) {call : CallId} {caller : Caller}
    (hfind : g.callers.find? call = some caller) (now : Instant) :
    ∃ verdict, (g.roll now).1.callers.find? call = some { caller with verdict } := by
  have hserves := roll_serves h.attended now
  by_cases hserved : ∃ e ∈ g.served now, e.2.call = call
  · rcases hserved with ⟨e, he, rfl⟩
    have hcaller := h.attended e (mem_of_mem_served h he)
    rw [hfind] at hcaller
    cases hcaller
    exact ⟨_, hserves.told.told e he⟩
  · have hnone : ∀ e ∈ g.served now, e.2.call ≠ call := fun e he heq => hserved ⟨e, he, heq⟩
    refine ⟨caller.verdict, ?_⟩
    rw [hserves.told.untold call hnone, observed_callers, hfind]

/-- So there are as many calls as before. -/
theorem size_callers_roll (h : g.Paired) (now : Instant) :
    (g.roll now).1.callers.size = g.callers.size := by
  refine Table.size_eq_of_contains_eq fun call => ?_
  unfold Table.contains
  cases hfind : g.callers.find? call with
  | none => rw [roll_find?_eq_none h now hfind]
  | some caller =>
      rcases find?_roll h hfind now with ⟨verdict, hrolled⟩
      rw [hrolled]
      rfl

/-- A call whose time is over ends when it is woken, whether it was decided before or not. -/
theorem wake_of_due (h : g.Paired) {call : CallId} {caller : Caller}
    (hfind : g.callers.find? call = some caller) (hdue : caller.deadline ≤ now) :
    (g.wake call now).1 = (g.roll now).1.finish call caller.place := by
  rcases find?_roll h hfind now with ⟨verdict, hrolled⟩
  unfold wake
  rw [if_pos (Table.contains_of_find? hfind)]
  simp only [hrolled, hdue, if_true]
  split <;> rfl

theorem pending_finish {call : CallId} {caller : Caller}
    (hfind : g.callers.find? call = some caller) (place : Place) (now : Instant) :
    (g.finish call place).pending now + 1 = g.pending now := by
  have hsize : (g.callers.erase call).size + 1 = g.callers.size := Table.size_erase hfind
  have hchores : (g.finish call place).chores now = g.chores now := by
    funext w
    cases w <;> rfl
  unfold pending
  rw [hchores]
  change (g.callers.erase call).size + g.wardens.foldr (fun w n => g.chores now w + n) 0 + 1 = _
  omega

theorem pending_roll (h : g.Paired) (hw : g.Watchful) (now : Instant) :
    (g.roll now).1.pending now ≤ g.pending now := by
  have hwardens := (roll_wardens h now).1
  have hsize := size_callers_roll h now
  have hwindow : g.window ≤ (g.roll now).1.window := by
    rw [roll_window h]
    omega
  cases hlist : g.wardens with
  | nil =>
      refine Nat.le_of_eq ?_
      rw [pending_nil hlist, pending_nil (hwardens.trans hlist), hsize]
  | cons w rest =>
      have hsole := (sole_warden hw (n := 0) (w := w) (by rw [hlist]; rfl)).2
      have hle := chores_mono (roll_policy h now) hwindow now w
      rw [pending_singleton hsole, pending_singleton (hwardens.trans hsole), hsize]
      omega

/-- A call whose timer goes off leaves less to be done, since it ends. -/
theorem pending_timer (h : g.Paired) (hw : g.Watchful) {call : CallId} {caller : Caller}
    (there : g.callers.find? call = some caller) (timeUp : caller.deadline ≤ now) :
    (g.step (.wake call now)).1.pending now < g.pending now := by
  rcases find?_roll h there now with ⟨verdict, hrolled⟩
  have hfinish := pending_finish hrolled caller.place now
  have hroll := pending_roll h hw now
  change (g.wake call now).1.pending now < _
  rw [wake_of_due h there timeUp]
  omega

/-- So does a call that collects its verdict. -/
theorem pending_verdict {call : CallId} {caller : Caller}
    (there : g.callers.find? call = some caller) (sent : caller.verdict.isSome = true) :
    (g.step (.collect call)).1.pending now < g.pending now := by
  have hfinish := pending_finish there caller.place now
  have hcollect : (g.collect call).1 = g.finish call caller.place := by
    unfold collect
    simp only [there, Option.isNone_eq_false_iff.mpr sent, Bool.false_and,
      Bool.false_eq_true, if_false]
  change (g.collect call).1.pending now < _
  rw [hcollect]
  omega

/-- A warden that wakes has observed the window, and has only to look. -/
theorem pending_alarm (h : g.Paired) (hw : g.Watchful) {n : Nat} {target : Instant}
    (sleeps : g.wardens[n]? = some (.asleep target)) (timeUp : target ≤ now) :
    (g.step (.wardenWake n now)).1.pending now < g.pending now := by
  rcases sole_warden hw sleeps with ⟨rfl, hsole⟩
  have hsize := size_callers_roll h now
  have hwindow := roll_window h now
  have hwake : (g.wardenWake 0 now).1 = { (g.roll now).1 with wardens := [.ready] } := by
    unfold wardenWake
    simp only [hsole, List.getElem?_cons_zero, (roll_wardens h now).1, List.set_cons_zero]
  have hready : (g.wardenWake 0 now).1.chores now .ready = 1 := by
    rw [hwake]
    simp only [chores, roll_policy h]
    rw [if_pos (by omega)]
  have hasleep : g.chores now (.asleep target) = 2 := if_pos timeUp
  change (g.wardenWake 0 now).1.pending now < _
  rw [pending_singleton hsole, hasleep, pending_singleton (w := .ready) (by rw [hwake]), hready]
  simp only [hwake]
  omega

/-- A warden that is awake has a look. -/
theorem wardenLook_of_awake {w : Warden} (hsole : g.wardens = [w])
    (hawake : w = .called ∨ w = .ready) :
    g.wardenLook 0 =
      if g.closed || g.line.isEmpty then { g with wardens := [], watched := false }
      else { g with wardens := [.asleep (g.policy.windowStart (g.window + 1))] } := by
  unfold wardenLook
  rcases hawake with rfl | rfl
  · simp only [hsole, List.getElem?_cons_zero, List.eraseIdx_cons_zero, List.set_cons_zero]
  · simp only [hsole, List.getElem?_cons_zero, List.eraseIdx_cons_zero, List.set_cons_zero]

theorem chores_of_awake {w : Warden} (hawake : w = .called ∨ w = .ready) :
    g.chores now w = if g.policy.windowAt now ≤ g.window then 1 else 3 := by
  rcases hawake with rfl | rfl
  · rfl
  · rfl

/-- A warden that looks goes, or sleeps until a window that is still to come unless the one
    before has yet to be observed. -/
theorem pending_look (hw : g.Watchful) {n : Nat}
    (awake : g.wardens[n]? = some .called ∨ g.wardens[n]? = some .ready)
    (hcalm : g.line.toList = [] ∨ now < Instant.last) :
    (g.step (.wardenLook n)).1.pending now < g.pending now := by
  have hwarden : ∃ w, g.wardens[n]? = some w ∧ (w = .called ∨ w = .ready) := by
    rcases awake with hn | hn
    · exact ⟨_, hn, Or.inl rfl⟩
    · exact ⟨_, hn, Or.inr rfl⟩
  rcases hwarden with ⟨w, hn, hawake⟩
  rcases sole_warden hw hn with ⟨rfl, hsole⟩
  change (g.wardenLook 0).pending now < _
  rw [pending_singleton hsole, chores_of_awake hawake, wardenLook_of_awake hsole hawake]
  by_cases hgoes : (g.closed || g.line.isEmpty) = true
  · rw [if_pos hgoes, pending_nil rfl]
    change g.callers.size < _
    split <;> omega
  rw [if_neg hgoes, pending_singleton rfl]
  by_cases hseen : g.policy.windowAt now ≤ g.window
  · -- Somebody waits, so the calendar goes on and has a window to sleep until.
    have hlast : now < Instant.last := by
      rcases hcalm with hnil | hlast
      · rw [(Line.isEmpty_iff g.line).mpr hnil, Bool.or_true] at hgoes
        exact absurd rfl hgoes
      · exact hlast
    have hahead : ¬g.policy.windowStart (g.window + 1) ≤ now :=
      Int.not_le.mpr (g.policy.lt_windowStart (by omega) hlast)
    rw [if_pos hseen]
    simp only [chores, hahead, if_false]
    omega
  · rw [if_neg hseen]
    simp only [chores]
    split <;> omega

/-- What is due leaves less to be done, if nobody waits or the calendar goes on. -/
theorem pending_due (h : g.Paired) (hw : g.Watchful)
    (hcalm : g.line.toList = [] ∨ now < Instant.last) (hdue : g.Due now event) :
    (g.step event).1.pending now < g.pending now := by
  cases hdue with
  | timer there timeUp => exact pending_timer h hw there timeUp
  | verdict there sent => exact pending_verdict there sent
  | alarm sleeps timeUp => exact pending_alarm h hw sleeps timeUp
  | look awake => exact pending_look hw awake hcalm

/-- Before the last instant no row of due events is longer than the bound, whatever their
    order. -/
theorem length_le_of_dueRun (hs : g.Sound) (hw : g.Watchful) (hlast : now < Instant.last)
    {es : List Event} (h : DueRun now g es) : es.length ≤ g.pending now := by
  induction es generalizing g with
  | nil => exact Nat.zero_le _
  | cons e es ih =>
      have hless := pending_due hs.toPaired hw (Or.inr hlast) h.1
      have hrest := ih (step_sound hs e) (step_watchful hs hw e (isAt_of_due h.1).2) h.2
      rw [List.length_cons]
      omega

/-- A row of due events brings every watchful gate to rest. -/
theorem exists_rest (hs : g.Sound) (hw : g.Watchful) (now : Instant) :
    ∃ es, DueRun now g es ∧ (g.run es).1.Rests now := by
  -- By induction on what there is to be done at most.
  generalize hn : g.pending now = n
  induction n using Nat.strongRecOn generalizing g with
  | _ n ih =>
      have hgo : ∀ e, g.Due now e → (g.step e).1.pending now < g.pending now →
          ∃ es, DueRun now g es ∧ (g.run es).1.Rests now := by
        intro e hdue hless
        have hw' := step_watchful hs hw e (isAt_of_due hdue).2
        rcases ih _ (hn ▸ hless) (step_sound hs e) hw' rfl with ⟨es, hes, hrests⟩
        exact ⟨e :: es, ⟨hdue, hes⟩, hrests⟩
      -- The timers of calls go first, since a warden may find no end before they did.
      by_cases htimer : ∃ call caller, g.callers.find? call = some caller ∧
          caller.deadline ≤ now
      · rcases htimer with ⟨call, caller, there, timeUp⟩
        exact hgo _ (.timer there timeUp) (pending_timer hs.toPaired hw there timeUp)
      · by_cases hrests : g.Rests now
        · exact ⟨[], trivial, hrests⟩
        · have hcalm : g.line.toList = [] ∨ now < Instant.last := by
            by_cases hnobody : g.line.toList = []
            · exact Or.inl hnobody
            · -- Whoever waits has time left, and no deadline is later than the last instant.
              rcases List.exists_mem_of_ne_nil _ hnobody with ⟨e, he⟩
              have htime : now < e.2.deadline :=
                Int.not_le.mp fun hdue => htimer ⟨_, _, hs.attended e he, hdue⟩
              exact Or.inr (Int.lt_of_lt_of_le htime e.2.deadline.le_last)
          simp only [Rests, Classical.not_forall, Classical.not_not] at hrests
          rcases hrests with ⟨e, hdue⟩
          exact hgo e hdue (pending_due hs.toPaired hw hcalm hdue)

end Gate

end Turnstile
