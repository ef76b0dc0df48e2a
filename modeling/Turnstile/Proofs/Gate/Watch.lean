import Turnstile.Proofs.Gate.History
import Turnstile.Proofs.Policy

/-!
# Watching the Window

While anybody waits, some task watches for the next window.

The gate calls a warden when a call begins to wait, and remembers that it has called one.
The warden goes when it finds nobody in line, and takes the note of it away. Between two
looks it sleeps, and knows nothing of what happens: others may observe the window in the
meantime, the line may empty and fill up again. So three things have to be shown at once.
The note is right about there being a warden, since nobody is called while it stands. A
warden that goes leaves nobody in line behind. And one that sleeps does not oversleep.

The last is not obvious, because the instant it sleeps until was computed for the window
that was observed when it looked, and the gate may have observed later ones since. It
would be lost if a later window could start earlier than a former one, and `windowStart`
does answer with the last instant for windows before the calendar. But a gate has only
observed windows of instants, and the windows that follow these start in order.

Nothing of this survives the loss of a warden that was called and has not begun, as it
leaves the note behind. Such events are left out.

## Main definitions

* `Event.isLoss`: A warden is lost.
* `Gate.Heeds`: A warden will look before the next window is over.
* `Gate.Watchful`: The note is right, and while anybody waits a warden heeds the gate.

## Theorems

* `watchful_of_frame`: Nobody joins the line and the wardens are left alone.
* `watchful_park`, `watchful_look`: A warden is called, and a warden has a look.
* `step_watchful`, `run_watchful`: Events other than losses keep a gate watchful.
* `nobody_forgotten`: While anybody waits, one warden is there and does not oversleep.
-/

namespace Turnstile

/-- Whether an event is the loss of a warden. -/
def Event.isLoss : Event → Bool
  | .wardenLost _ => true
  | _ => false

namespace Gate

/-- A warden is about to look at the gate, or sleeps no longer than until the window after
    the one last observed starts. -/
def Heeds (g : Gate) : Warden → Prop
  | .called => True
  | .ready => True
  | .asleep target => target ≤ g.policy.windowStart (g.window + 1)

/-- The note of a warden is right, and while anybody waits a warden heeds the gate. -/
structure Watchful (g : Gate) : Prop where
  /-- There is one warden if the gate takes the window to be watched, and none if not. -/
  sole : g.wardens.length = g.watched.toNat
  /-- Wardens do not oversleep, whether or not anybody waits. -/
  heeded : ∀ w ∈ g.wardens, g.Heeds w
  /-- While anybody waits the window is watched. -/
  waits : g.line.toList ≠ [] → g.watched = true
  /-- The observed window is that of an instant. -/
  observed : ∃ t, g.window = g.policy.windowAt t

variable {g g' : Gate} {event : Event} {notices : List Notice}

/-- A warden heeds a gate that has observed a later window, since it sleeps no longer
    than it should even for the former one. -/
theorem heeds_of_le {w : Warden} (hpolicy : g'.policy = g.policy) (hwindow : g.window ≤ g'.window)
    (hseen : ∃ t, g.window = g.policy.windowAt t) (h : g.Heeds w) : g'.Heeds w := by
  cases w with
  | called | ready => exact trivial
  | asleep target =>
      rcases hseen with ⟨t, ht⟩
      have hnext : g.policy.windowAt t < g.window + 1 := by omega
      have hmono := g.policy.windowStart_mono hnext (Int.add_le_add_right hwindow 1)
      change target ≤ g'.policy.windowStart (g'.window + 1)
      rw [hpolicy]
      exact Int.le_trans h hmono

/-- A gate stays watchful when the wardens are left alone and nobody joins the line,
    whichever later window it observes. -/
theorem watchful_of_frame (h : g.Watchful) (hpolicy : g'.policy = g.policy)
    (hwardens : g'.wardens = g.wardens) (hwatched : g'.watched = g.watched)
    (hline : ∀ e ∈ g'.line.toList, e ∈ g.line.toList) (hwindow : g.window ≤ g'.window)
    (hseen : ∃ t, g'.window = g'.policy.windowAt t) : g'.Watchful where
  sole := by
    rw [hwardens, hwatched]
    exact h.sole
  heeded := by
    intro w hw
    rw [hwardens] at hw
    exact heeds_of_le hpolicy hwindow h.observed (h.heeded w hw)
  waits := by
    intro hwaiting
    rw [hwatched]
    refine h.waits fun hnil => ?_
    rcases List.exists_mem_of_ne_nil _ hwaiting with ⟨e, he⟩
    have hold := hline e he
    rw [hnil] at hold
    exact List.not_mem_nil hold
  observed := hseen

theorem roll_wardens (h : g.Paired) (now : Instant) :
    (g.roll now).1.wardens = g.wardens ∧ (g.roll now).1.watched = g.watched := by
  have hframe := (roll_serves h.attended now).frame
  rw [hframe]
  unfold observed
  split
  next => exact ⟨rfl, rfl⟩
  next => exact ⟨rfl, rfl⟩

/-- Observing the window keeps a gate watchful. -/
theorem watchful_roll (hp : g.Paired) (h : g.Watchful) (now : Instant) :
    (g.roll now).1.Watchful := by
  have hwindow := roll_window hp now
  have hpolicy := roll_policy hp now
  refine watchful_of_frame h hpolicy (roll_wardens hp now).1 (roll_wardens hp now).2
    (fun e he => mem_of_mem_roll hp he) (by omega) ?_
  -- The window is the one observed before or that of the reading, and both are of instants.
  rcases h.observed with ⟨t, ht⟩
  rw [hwindow, hpolicy]
  rcases Int.le_total g.window (g.policy.windowAt now) with hle | hle
  · exact ⟨now, Int.max_eq_right hle⟩
  · exact ⟨t, (Int.max_eq_left hle).trans ht⟩

theorem watchful_finish (h : g.Watchful) (call : CallId) (place : Place) :
    (g.finish call place).Watchful :=
  watchful_of_frame h rfl rfl rfl (fun _ he => ((Line.mem_leave _ _ _).mp he).1)
    (Int.le_refl _) h.observed

/-- A gate is watchful after a call began to wait, for it calls a warden if it has none. -/
theorem watchful_park (h : g.Watchful) (call : CallId) (request : Request)
    (deadline : Instant) : (g.park call request deadline).Watchful := by
  unfold park watch
  by_cases hwatched : g.watched = true
  · simp only [hwatched, if_true]
    exact ⟨hwatched ▸ h.sole, h.heeded, fun _ => rfl, h.observed⟩
  · have hnote : g.watched = false := Bool.eq_false_iff.mpr hwatched
    have hnone : g.wardens = [] := by
      have hsole := h.sole
      rw [hnote] at hsole
      exact List.length_eq_zero_iff.mp hsole
    simp only [hnote, hnone, Bool.false_eq_true, if_false, List.nil_append]
    refine ⟨rfl, fun w hw => ?_, fun _ => rfl, h.observed⟩
    rw [List.mem_singleton.mp hw]
    exact trivial

/-- A warden that goes leaves nobody in line behind, and one that stays sleeps until the
    next window starts. -/
theorem watchful_look (hs : g.Sound) (h : g.Watchful) (n : Nat) : (g.wardenLook n).Watchful := by
  have hlook : ∀ {w : Warden}, g.wardens[n]? = some w →
      (if g.closed || g.line.isEmpty then
        { g with wardens := g.wardens.eraseIdx n, watched := false }
      else { g with wardens :=
        g.wardens.set n (.asleep (g.policy.windowStart (g.window + 1))) } : Gate).Watchful := by
    intro w hw
    rcases List.getElem?_eq_some_iff.mp hw with ⟨hn, -⟩
    have hsole := h.sole
    by_cases hgoes : (g.closed || g.line.isEmpty) = true
    · rw [if_pos hgoes]
      -- There was one warden at most, so none is left.
      have hle := Bool.toNat_le g.watched
      have hnone : g.wardens.eraseIdx n = [] := by
        refine List.length_eq_zero_iff.mp ?_
        rw [List.length_eraseIdx_of_lt hn]
        omega
      -- Nor is anybody in line, as nobody is at a closed gate.
      have hnobody : g.line.toList = [] := by
        rcases Bool.or_eq_true_iff.mp hgoes with hclosed | hempty
        · exact toList_eq_nil_of_closed hs hclosed
        · exact (Line.isEmpty_iff g.line).mp hempty
      simp only [hnone]
      exact ⟨rfl, fun w hw => absurd hw List.not_mem_nil,
        fun hwaiting => absurd hnobody hwaiting, h.observed⟩
    · rw [if_neg hgoes]
      refine ⟨?_, fun w hw => ?_, h.waits, h.observed⟩
      · simp only [List.length_set]
        exact hsole
      · rcases List.mem_or_eq_of_mem_set hw with hold | rfl
        · exact h.heeded w hold
        · exact Int.le_refl _
  unfold wardenLook
  split
  next hw => exact hlook hw
  next hw => exact hlook hw
  next => exact h

theorem watchful_start (policy : Policy) (now : Instant) : (start policy now).Watchful where
  sole := rfl
  heeded := fun _ hw => absurd hw List.not_mem_nil
  waits := fun hwaiting => absurd rfl hwaiting
  observed := ⟨now, rfl⟩

/-- An event that loses no warden keeps a gate watchful. -/
theorem step_watchful (hs : g.Sound) (h : g.Watchful) (e : Event)
    (hkept : e.isLoss = false) : (g.step e).1.Watchful := by
  have hmove := step_move g e
  have hroll := fun now : Instant => watchful_roll hs.toPaired h now
  generalize (g.step e).1 = g' at hmove
  generalize (g.step e).2 = notices at hmove
  cases hmove with
  | nothing => exact h
  | slot =>
      -- The slots given away are no concern of the wardens.
      exact ⟨(hroll _).sole, (hroll _).heeded, (hroll _).waits, (hroll _).observed⟩
  | shut | late | goOn => exact hroll _
  | park => exact watchful_park (hroll _) _ _ _
  | decided | expire => exact watchful_finish (hroll _) _ _
  | collect | drop => exact watchful_finish h _ _
  | @wardenWake n target now =>
      refine ⟨?_, fun w hw => ?_, (hroll now).waits, (hroll now).observed⟩
      · simp only [List.length_set]
        exact (hroll now).sole
      · rcases List.mem_or_eq_of_mem_set hw with hold | rfl
        · exact (hroll now).heeded w hold
        · exact trivial
  | wardenLook look =>
      rw [← look]
      exact watchful_look hs h _
  | wardenLost => exact nomatch hkept
  | close isOpen =>
      have hserves := close_serves hs.attended isOpen
      rw [hserves.frame]
      refine watchful_of_frame h rfl rfl rfl (fun e he => ?_) (Int.le_refl _) h.observed
      exact (mem_of_serves hserves).mpr (Or.inr he)

/-- A run without losses keeps a gate watchful, by induction on its events. -/
theorem run_watchful (hs : g.Sound) (h : g.Watchful) {es : List Event}
    (hkept : ∀ e ∈ es, e.isLoss = false) : (g.run es).1.Watchful := by
  induction es generalizing g with
  | nil => exact h
  | cons e es ih =>
      have hfirst := step_watchful hs h e (hkept e List.mem_cons_self)
      exact ih (step_sound hs e) hfirst fun x hx => hkept x (List.mem_cons_of_mem _ hx)

/-- **Nobody is forgotten.** In every state of a gate that has lost no warden, the gate
    takes the window to be watched just when it has a warden, and it never has two. While
    anybody waits it has one, which is about to look at the gate or sleeps no longer than
    until the window after the one last observed starts. -/
theorem nobody_forgotten (policy : Policy) (first : Instant) (es : List Event)
    (hkept : ∀ e ∈ es, e.isLoss = false) :
    let g := ((start policy first).run es).1
    (g.watched = true ↔ g.wardens.length = 1) ∧ g.wardens.length ≤ 1 ∧
    (g.line.toList ≠ [] → ∃ w, g.wardens = [w] ∧
      (w = .called ∨ w = .ready ∨
        ∃ target, w = .asleep target ∧ target ≤ policy.windowStart (g.window + 1))) := by
  intro g
  have hstart := sound_start policy first
  have h : g.Watchful := run_watchful hstart (watchful_start policy first) hkept
  have hpolicy : g.policy = policy := run_policy hstart es
  have hsole := h.sole
  refine ⟨?_, ?_, fun hwaiting => ?_⟩
  · rw [hsole, Bool.toNat_eq_one]
  · rw [hsole]
    exact Bool.toNat_le _
  · rw [h.waits hwaiting] at hsole
    rcases List.length_eq_one_iff.mp hsole with ⟨w, hw⟩
    have hheeds := h.heeded w (hw ▸ List.mem_cons_self)
    refine ⟨w, hw, ?_⟩
    cases w with
    | called => exact Or.inl rfl
    | ready => exact Or.inr (Or.inl rfl)
    | asleep target =>
        rw [← hpolicy]
        exact Or.inr (Or.inr ⟨target, rfl, hheeds⟩)

/-- In the rush a waiting call observes the third window while the warden sleeps until the
    second, and the warden is still in time for the fourth. -/
theorem nobody_forgotten_in_rush :
    let es := Rush.arrivals ++ [.wardenLook 0, .wake 1 Rush.third]
    let g := ((start Rush.policy Instant.epoch).run es).1
    (∀ e ∈ es, e.isLoss = false) ∧ g.line.toList ≠ [] ∧ g.window = 2 ∧
      g.wardens = [.asleep Rush.second] ∧
      ∃ w, g.wardens = [w] ∧ (w = .called ∨ w = .ready ∨ ∃ target, w = .asleep target ∧
        target ≤ Rush.policy.windowStart (g.window + 1)) := by
  intro es g
  have hkept : ∀ e ∈ es, e.isLoss = false := by decide
  have hwaiting : g.line.toList ≠ [] := by decide
  exact ⟨hkept, hwaiting, by decide, by decide,
    (nobody_forgotten Rush.policy Instant.epoch es hkept).2.2 hwaiting⟩

end Gate

end Turnstile
