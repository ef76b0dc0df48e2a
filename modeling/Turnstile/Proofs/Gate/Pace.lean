import Turnstile.Proofs.Gate.Quota
import Turnstile.Proofs.Gate.Settling
import Turnstile.Proofs.Gate.Shift
import Turnstile.Proofs.Gate.Verdict

/-!
# Nobody Wakes in Vain

Calls and wardens sleep in a loop, and no loop goes round for nothing.

Both work out how long to sleep from the instant they sleep until and from what the clock reads,
and sleep no time at all when that instant has passed. So a loop would spin if it came
round and found that it had nothing to do yet, for it would not sleep then. All that is asked of a
clock is that it does not go back, and of a sleep that it is not over before the clock has
moved by as much as was asked for. Then whoever wakes up finds the instant passed
(`slept_iff`), and what remains is that it is the instant from which there is something to do.

For a call this is its deadline, and the test that it makes when it wakes up is the one that it
slept by. For a warden it is where the next window starts, and what it looks at when it wakes
up is the window of the clock. These are two computations, of which one is held to 64 bits
and to the calendar. They agree until the last instant of the calendar: a reading that has
reached the start of a window lies in no window before it, and one that lies in a window has
not reached the start of the next. Windows that others observe meanwhile only move
the gate ahead, and it is the window observed last that a warden sleeps by.

It matters that there is one warden at most, whatever is lost. With two of them, one might wake
up in the window that the other had just observed.

## Main definitions

* `Slept`: A sleep until an instant can be over at a reading.
* `Moment.alarm?`: The timer that goes off, and when it does.
* `Moment.Stirs`: A call comes back from its own timer.
* `Gate.Honest`: The clock of a run does not go back, and nobody's timer goes off too early.

## Theorems

* `slept_iff`: A sleep is over once its instant has passed.
* `returned_of_stirs`, `parked_of_stirs`: A call that wakes up returns, and begins to wait anew
  before it wakes up again.
* `window_of_rouses`, `look_lt_of_rouses`: A warden that wakes up observes the window of its
  reading, and that is a later one than it slept by.
* `lt_of_lulls`, `windowAt_lt_of_rouses`: It sleeps again until an instant past the reading, and
  wakes up again in a later window.
* `nobody_wakes_in_vain`: All of this for a run.
-/

namespace Turnstile

/-- The nanoseconds to sleep at a reading to get to an instant, none if it has passed. -/
def Instant.sleepFor (now target : Instant) : Nat := (target.nanos - now.nanos).toNat

/-- A sleep until an instant can be over at a reading: at some reading it was asked for, and the
    clock has moved on by as much as was asked for. -/
def Slept (target now : Instant) : Prop :=
  ∃ asked : Instant, asked.nanos + asked.sleepFor target ≤ now.nanos

/-- A sleep is over once its instant has passed, and not before. -/
theorem slept_iff (target now : Instant) : Slept target now ↔ target ≤ now := by
  change (∃ asked : Instant, asked.nanos + ((target.nanos - asked.nanos).toNat : Int) ≤ now.nanos) ↔
    target.nanos ≤ now.nanos
  constructor
  · rintro ⟨asked, hmoved⟩
    omega
  · intro hpassed
    exact ⟨now, by omega⟩

instance (target now : Instant) : Decidable (Slept target now) :=
  decidable_of_iff _ (slept_iff target now).symm

namespace Moment

/-- The timer that goes off: the instant until which somebody slept, and the reading. A call has
    a timer while it waits, and a warden while it sleeps. -/
def alarm? (m : Moment) : Option (Instant × Instant) :=
  match m.event with
  | .wake call now => (m.before.callers.find? call).map fun caller => (caller.deadline, now)
  | .wardenWake n now =>
    match m.before.wardens[n]? with
    | some (.asleep target) => some (target, now)
    | _ => none
  | _ => none

/-- A call that waits comes back from its own timer. -/
def Stirs (m : Moment) (call : CallId) (now : Instant) : Prop :=
  m.event = .wake call now ∧ m.before.callers.contains call = true

variable {m : Moment} {target now : Instant}

theorem alarm?_of_rouses (h : m.Rouses target now) : m.alarm? = some (target, now) := by
  rcases h with ⟨n, hevent, hsleeps⟩
  simp only [alarm?, hevent, hsleeps]

end Moment

namespace Gate

variable {g : Gate} {target now : Instant} {call : CallId}

/-! ### Calls -/

/-- A call whose time is over returns when it wakes up. -/
theorem returned_of_due (h : g.Paired) {caller : Caller}
    (hfind : g.callers.find? call = some caller) (hdue : caller.deadline ≤ now) :
    (∃ v, .returned call v ∈ (g.step (.wake call now)).2) ∧
      (g.step (.wake call now)).1.callers.find? call = none := by
  constructor
  · rcases find?_roll h hfind now with ⟨verdict, hrolled⟩
    change ∃ v, .returned call v ∈ (g.wake call now).2
    unfold wake
    rw [if_pos (Table.contains_of_find? hfind)]
    simp only [hrolled, hdue, if_true]
    -- It was decided before it woke up, or its time is over.
    split
    next => exact ⟨_, List.mem_append_right _ List.mem_cons_self⟩
    next => exact ⟨_, List.mem_append_right _ List.mem_cons_self⟩
  · change (g.wake call now).1.callers.find? call = none
    rw [wake_of_due h hfind hdue]
    exact (Table.find?_erase_of_eq ..).trans (if_pos rfl)

theorem account_none {notices : List Notice} (h : .parked call ∉ notices) :
    notices.foldl (Notice.account call) none = none := by
  induction notices with
  | nil => rfl
  | cons n rest ih =>
      have hn : n.account call none = none := by
        cases n with
        | parked c =>
            refine if_neg fun heq => h ?_
            rw [heq]
            exact List.mem_cons_self
        | granted c | denied c | returned c v => exact ite_self _
      rw [List.foldl_cons, hn]
      exact ih fun hmem => h (List.mem_cons_of_mem _ hmem)

/-- A call that is not there and is there later began to wait in between. -/
theorem parked_of_contains (h : g.Sound) {es : List Event}
    (hnone : g.callers.find? call = none)
    (hthere : (g.run es).1.callers.contains call = true) :
    ∃ m ∈ g.history es, .parked call ∈ m.notices := by
  induction es generalizing g with
  | nil =>
      have hgone := Table.not_contains_of_find? hnone
      exact nomatch hgone.symm.trans hthere
  | cons e es ih =>
      by_cases hparked : .parked call ∈ (g.step e).2
      · exact ⟨⟨g, e⟩, List.mem_cons_self, hparked⟩
      · -- The record of a call begins only when it begins to wait.
        have hrecord := account_move h.toPaired (step_move g e) call
        rw [record, hnone, Option.map_none, ite_self, account_none hparked] at hrecord
        have hnext := Option.map_eq_none_iff.mp hrecord.symm
        rcases ih (step_sound h e) hnext hthere with ⟨m, hm, hlater⟩
        exact ⟨m, List.mem_cons_of_mem _ hm, hlater⟩

/-- A call that slept out its time returns when its timer goes off. -/
theorem returned_of_stirs {m : Moment} (h : m.before.Paired)
    (hslept : ∀ target now, m.alarm? = some (target, now) → Slept target now)
    (hstirs : m.Stirs call now) :
    (∃ v, .returned call v ∈ m.notices) ∧ m.after.callers.find? call = none := by
  rcases m with ⟨g, e⟩
  rcases hstirs with ⟨hevent, hthere⟩
  change e = .wake call now at hevent
  subst hevent
  rcases Option.isSome_iff_exists.mp hthere with ⟨caller, hfind⟩
  have halarm : (⟨g, .wake call now⟩ : Moment).alarm? = some (caller.deadline, now) :=
    congrArg (Option.map fun caller : Caller => (caller.deadline, now)) hfind
  exact returned_of_due h hfind ((slept_iff _ _).mp (hslept _ _ halarm))

/-- A call that comes back from its timer once it had gone began to wait in between. -/
theorem parked_of_stirs (h : g.Sound) {es : List Event} {pre mid post : List Moment}
    {m m' : Moment} (hsplit : g.history es = pre ++ m :: (mid ++ m' :: post))
    (hgone : m.after.callers.find? call = none) (hstirs : m'.Stirs call now) :
    ∃ x ∈ mid, .parked call ∈ x.notices := by
  -- What lies between the two is a run from the gate that the call had left.
  rcases split_of_history hsplit with ⟨fs, gs, -, -, hbefore, hpost⟩
  rcases split_of_history hpost.symm with ⟨fs', _, -, hmid, hbefore', -⟩
  have hsound : m.after.Sound := by
    rw [Moment.after, hbefore]
    exact step_sound (run_sound h fs) _
  rw [hmid]
  refine parked_of_contains hsound hgone ?_
  rw [← hbefore']
  exact hstirs.2

/-! ### Wardens -/

/-- Windows observed later are no earlier ones. -/
theorem window_le_of_split (h : g.Sound) {es : List Event} {pre post : List Moment}
    {m x : Moment} (hsplit : g.history es = pre ++ m :: post) (hx : x ∈ post) :
    m.after.window ≤ x.before.window := by
  rcases split_of_history hsplit with ⟨fs, gs, -, -, hbefore, hpost⟩
  rw [hpost] at hx
  refine window_le_of_mem_history ?_ hx
  rw [Moment.after, hbefore]
  exact step_sound (run_sound h fs) _

/-- A moment of one row that is neither the one where another row is cut nor after it is before
    that one. -/
theorem mem_of_splits {pre mid before between : List Moment} {m look : Moment}
    (h : pre ++ m :: mid = before ++ look :: between) (hne : m ≠ look) (hnot : m ∉ between) :
    look ∈ mid := by
  rcases List.append_eq_append_iff.mp h with ⟨row, -, hrow⟩ | ⟨row, -, hrow⟩
  · cases row with
    | nil => exact absurd (List.cons.inj hrow).1 hne
    | cons x row =>
        rw [(List.cons.inj hrow).2]
        exact List.mem_append_right _ List.mem_cons_self
  · cases row with
    | nil => exact absurd (List.cons.inj hrow).1.symm hne
    | cons x row =>
        refine absurd ?_ hnot
        rw [(List.cons.inj hrow).2]
        exact List.mem_append_right _ List.mem_cons_self

/-- The start of the window after some window is not reached before that window is over. -/
theorem lt_windowAt_of_slept (p : Policy) {k : Int} (hslept : Slept (p.windowStart (k + 1)) now)
    (hlast : now < Instant.last) : k < p.windowAt now := by
  by_cases hlater : k < p.windowAt now
  · exact hlater
  · -- In that window or before it the clock has not come to the start of the next.
    have hbefore := p.lt_windowStart (k := k + 1) (by omega) hlast
    exact absurd ((slept_iff _ _).mp hslept) (Int.not_le.mpr hbefore)

/-- The clock of a run does not go back and does not reach the last instant, and nobody's timer
    goes off before the clock has moved on by as much as it was set to. -/
structure Honest (policy : Policy) (first : Instant) (es : List Event) : Prop where
  /-- The clock does not go back. -/
  timely : Timely first es
  /-- The clock does not reach the last instant. -/
  unended : ∀ e ∈ es, ∀ now, e.reading? = some now → now < Instant.last
  /-- Timers do not go off too early. -/
  slept : ∀ m ∈ (start policy first).history es, ∀ target now,
    m.alarm? = some (target, now) → Slept target now

section Honest

variable {policy : Policy} {first : Instant} {es : List Event} {pre post : List Moment}
  {m : Moment}

theorem reading_of_rouses (hrouses : m.Rouses target now) : m.event.reading? = some now := by
  rcases hrouses with ⟨n, hevent, -⟩
  rw [hevent]
  rfl

/-- A warden that wakes up observes the window of its reading. -/
theorem window_of_rouses (h : Honest policy first es) (hm : m ∈ (start policy first).history es)
    (hrouses : m.Rouses target now) : m.after.window = policy.windowAt now := by
  have hstart := sound_start policy first
  have hpaired := (sound_of_mem_history hstart hm).toPaired
  have hle := window_le_of_timely hstart (Int.le_refl _) h.timely hm (reading_of_rouses hrouses)
  have hpolicy : m.before.policy = policy := policy_of_mem_history hstart hm
  rcases hrouses with ⟨n, hevent, hsleeps⟩
  have hroll : m.after.window = (m.before.roll now).1.window := by
    simp only [Moment.after, hevent, step, wardenWake, hsleeps]
  rw [hroll, roll_window hpaired, hpolicy]
  exact Int.max_eq_right hle

/-- It slept by an earlier window, which had been observed when it looked, and that was since any
    warden woke up before. -/
theorem look_lt_of_rouses (h : Honest policy first es)
    (hsplit : (start policy first).history es = pre ++ m :: post)
    (hrouses : m.Rouses target now) :
    ∃ before look between, pre = before ++ look :: between ∧ look.Lulls target ∧
      (∀ x ∈ between, ∀ t u, ¬x.Rouses t u) ∧
      target = policy.windowStart (look.before.window + 1) ∧
      look.before.window < policy.windowAt now := by
  have hm : m ∈ (start policy first).history es :=
    hsplit ▸ List.mem_append_right _ List.mem_cons_self
  rcases look_of_rouses hsplit hrouses with ⟨before, look, between, hpre, hlulls, hquiet, htarget⟩
  have hslept := h.slept m hm target now (Moment.alarm?_of_rouses hrouses)
  have hlast := h.unended _ (event_mem_of_mem_history hm) now (reading_of_rouses hrouses)
  rw [htarget] at hslept
  exact ⟨before, look, between, hpre, hlulls, hquiet, htarget,
    lt_windowAt_of_slept policy hslept hlast⟩

/-- Whoever goes to sleep later does so until an instant that is past the reading. -/
theorem lt_of_lulls (h : Honest policy first es)
    (hsplit : (start policy first).history es = pre ++ m :: post)
    (hrouses : m.Rouses target now) {look : Moment} (hlook : look ∈ post) {next : Instant}
    (hlulls : look.Lulls next) : now < next := by
  have hstart := sound_start policy first
  have hm : m ∈ (start policy first).history es :=
    hsplit ▸ List.mem_append_right _ List.mem_cons_self
  have hpast : look ∈ (start policy first).history es :=
    hsplit ▸ List.mem_append_right _ (List.mem_cons_of_mem _ hlook)
  have hwindow := window_of_rouses h hm hrouses
  have hle := window_le_of_split hstart hsplit hlook
  have hlast := h.unended _ (event_mem_of_mem_history hm) now (reading_of_rouses hrouses)
  have hnext := target_of_lulls (sound_of_mem_history hstart hpast).toPaired hlulls
  have hpolicy : look.before.policy = policy := policy_of_mem_history hstart hpast
  rw [hnext, hpolicy]
  -- The window of the reading is observed by then, and the sleep is until a later one.
  exact policy.lt_windowStart (by omega) hlast

/-- Whoever wakes up later does so in a later window. -/
theorem windowAt_lt_of_rouses (h : Honest policy first es)
    (hsplit : (start policy first).history es = pre ++ m :: post)
    (hrouses : m.Rouses target now) {m' : Moment} (hm' : m' ∈ post) {next later : Instant}
    (hrouses' : m'.Rouses next later) : policy.windowAt now < policy.windowAt later := by
  have hm : m ∈ (start policy first).history es :=
    hsplit ▸ List.mem_append_right _ List.mem_cons_self
  have hwindow := window_of_rouses h hm hrouses
  rcases List.append_of_mem hm' with ⟨mid, rest, hpost⟩
  have hsplit' : (start policy first).history es = (pre ++ m :: mid) ++ m' :: rest := by
    rw [hsplit, hpost, List.append_assoc, List.cons_append]
  rcases look_lt_of_rouses h hsplit' hrouses' with
    ⟨before, look, between, hpre, hlulls, hquiet, -, hlt⟩
  -- The look that it slept by was since the first woke up, as no warden has woken up after it.
  have hlook : look ∈ mid := mem_of_splits hpre
    (fun heq => Moment.not_rouses_of_lulls hlulls (heq ▸ hrouses))
    (fun hbetween => hquiet m hbetween target now hrouses)
  have hle := window_le_of_split (sound_start policy first) hsplit
    (hpost ▸ List.mem_append_left _ hlook : look ∈ post)
  omega

end Honest

/-! ### The law -/

/-- **Nobody wakes in vain.** Let the clock of a run not go back and not reach the last instant,
    and let nobody's timer go off before the clock has moved on by as much as it was set to. Then a
    call that comes back from its timer returns and is gone, so that it comes back once at most
    before it begins to wait anew. A warden that wakes up has observed the window of its reading
    then. This is a later one than the window that had been observed when it went to sleep, which
    was since anybody last woke up, and by which its sleep was set. Whoever goes to sleep later does
    so until an instant that is past the reading, and wakes up in a later window. -/
theorem nobody_wakes_in_vain (policy : Policy) (first : Instant) (es : List Event)
    (honest : Honest policy first es) :
    let past := (start policy first).history es
    (∀ m ∈ past, ∀ call now, m.Stirs call now →
      (∃ v, .returned call v ∈ m.notices) ∧ m.after.callers.contains call = false) ∧
    (∀ pre m mid m' post call now later, past = pre ++ m :: mid ++ m' :: post →
      m.Stirs call now → m'.Stirs call later → ∃ x ∈ mid, .parked call ∈ x.notices) ∧
    (∀ pre m post target now, past = pre ++ m :: post → m.Rouses target now →
      m.after.window = policy.windowAt now ∧
      (∃ before look between, pre = before ++ look :: between ∧ look.Lulls target ∧
        (∀ x ∈ between, ∀ t u, ¬x.Rouses t u) ∧
        target = policy.windowStart (look.before.window + 1) ∧
        look.before.window < m.after.window) ∧
      (∀ look ∈ post, ∀ next, look.Lulls next → now < next) ∧
      ∀ m' ∈ post, ∀ next later, m'.Rouses next later →
        policy.windowAt now < policy.windowAt later) := by
  intro past
  have hstart := sound_start policy first
  have hmem : ∀ {pre m post}, past = pre ++ m :: post → m ∈ past := fun hsplit =>
    hsplit ▸ List.mem_append_right _ List.mem_cons_self
  have hreturned : ∀ m ∈ past, ∀ call now, m.Stirs call now →
      (∃ v, .returned call v ∈ m.notices) ∧ m.after.callers.find? call = none :=
    fun m hm _ _ => returned_of_stirs (sound_of_mem_history hstart hm).toPaired (honest.slept m hm)
  refine ⟨fun m hm call now hstirs => ?_, fun pre m mid m' post call now later hsplit hstirs => ?_,
    fun pre m post target now hsplit hrouses => ?_⟩
  · rcases hreturned m hm call now hstirs with ⟨hreturns, hgone⟩
    exact ⟨hreturns, Table.not_contains_of_find? hgone⟩
  · rw [List.append_assoc, List.cons_append] at hsplit
    exact parked_of_stirs hstart hsplit (hreturned m (hmem hsplit) call now hstirs).2
  · have hwindow := window_of_rouses honest (hmem hsplit) hrouses
    exact ⟨hwindow, hwindow ▸ look_lt_of_rouses honest hsplit hrouses,
      fun _ hlook _ hlulls => lt_of_lulls honest hsplit hrouses hlook hlulls,
      fun _ hm' _ _ hrouses' => windowAt_lt_of_rouses honest hsplit hrouses hm' hrouses'⟩

end Gate

namespace Rush

/-- The beginning of the sixth window, by which the time of all who wait is over. -/
def sixth : Instant := ⟨5000000000, by decide, by decide⟩

/-- A newcomer observes the third window while the warden sleeps until the second. -/
def overtaken : List Event :=
  arrivals ++ [.wardenLook 0, .arrive 3 request (.ofSeconds 5) third]

/-- The warden sleeps again, and a call and the warden wake up late. -/
def afterwards : List Event := [.wardenLook 0, .wake 2 sixth, .wardenWake 0 sixth]

end Rush

namespace Gate

/-- In the rush the third window has been observed already when the warden wakes up in it, and
    its next sleep is set by that window and not by the first. -/
theorem nobody_wakes_in_vain_in_rush :
    let g := start Rush.policy Instant.epoch
    let m : Moment := ⟨(g.run Rush.overtaken).1, .wardenWake 0 Rush.third⟩
    let es := Rush.overtaken ++ .wardenWake 0 Rush.third :: Rush.afterwards
    let past := g.history es
    let x : Moment := ⟨(m.after.step (.wardenLook 0)).1, .wake 2 Rush.sixth⟩
    Honest Rush.policy Instant.epoch es ∧
    m.Rouses Rush.second Rush.third ∧ m.before.window = 2 ∧
    m.after.window = Rush.policy.windowAt Rush.third ∧
    (∀ look ∈ m.after.history Rush.afterwards, ∀ next, look.Lulls next → Rush.third < next) ∧
    x ∈ past ∧ x.Stirs 2 Rush.sixth ∧ ∃ v, .returned 2 v ∈ x.notices := by
  intro g m es past x
  have hreadings : ∀ now ∈ es.filterMap Event.reading?, now < Instant.last := by decide
  have halarms : ∀ a ∈ past.filterMap Moment.alarm?, Slept a.1 a.2 := by decide +kernel
  have honest : Honest Rush.policy Instant.epoch es :=
    ⟨by decide, fun e he now hnow => hreadings now (List.mem_filterMap.mpr ⟨e, he, hnow⟩),
      fun m hm _ _ halarm => halarms _ (List.mem_filterMap.mpr ⟨m, hm, halarm⟩)⟩
  have hlaw := nobody_wakes_in_vain Rush.policy Instant.epoch es honest
  have hrouses : m.Rouses Rush.second Rush.third := ⟨0, rfl, by decide +kernel⟩
  have hsplit : past = g.history Rush.overtaken ++ m :: m.after.history Rush.afterwards :=
    history_split g Rush.overtaken _ _
  rcases hlaw.2.2 _ m _ _ _ hsplit hrouses with ⟨hwindow, -, hnext, -⟩
  -- The call comes back once the warden has had another look.
  have hlater : x ∈ m.after.history Rush.afterwards :=
    List.mem_cons_of_mem _ List.mem_cons_self
  have hx : x ∈ past := by
    rw [hsplit]
    exact List.mem_append_right _ (List.mem_cons_of_mem _ hlater)
  have hstirs : x.Stirs 2 Rush.sixth := ⟨rfl, by decide +kernel⟩
  exact ⟨honest, hrouses, by decide +kernel, hwindow, hnext, hx, hstirs,
    (hlaw.1 x hx 2 Rush.sixth hstirs).1⟩

end Gate

end Turnstile
