import Turnstile.Proofs.Gate.Precedence
import Turnstile.Proofs.Gate.Task

/-!
# Serving by Plan

Passing by those who are late is as good as looking for all of them.

When a later window begins, the line is served until the slots are used up. Those who are
met on the way and are late are refused, and those who are not met are left where they
are, late or not. They are refused when their own timers find them, or at a later window,
or they stay in line for as long as nobody looks. A planner who could see the whole line
would do without this: refuse everybody who is late first, and then give the slots to the
first of the others.

The two are compared on a gate that is left to its tasks, from any line it may have. Their
lines soon differ, since the gate keeps entries that the plan has refused. But all of these
are late, and with a clock that does not go back they remain so. What agrees, and is kept
from one event to the next, are those in time: serving takes the first of them as the plan
does, however many it passes by, and a timer takes none of them.

So the slots of each window go to the same calls in the same order. It follows that a call
the plan refuses is given none later on, since the plan gives it none, and that whatever
it hears in the end is a refusal.

## Main definitions

* `Round`, `plan`: What a planner does who sees the whole line.
* `Moment.rollover?`, `rollovers`: When a run observed later windows, and who was given
  slots then.
* `Moment.Wakes`: A task wakes up at a reading.
* `Gate.GetsOnly`: A call hears no other verdict than the one given.

## Theorems

* `not_admitted_of_refused`: A plan admits nobody it refuses.
* `step_of_task`: What an event of a task does to those in time.
* `rollover?_eq_some_iff`: The line is served whenever a task wakes up in a later window.
* `rollovers_eq_plan`: The windows of a run are served as planned.
* `windows_increase`, `grantees_run`: Each is a later one, and nothing is given away
  between them.
* `verdict_of_run`: A call hears of a slot just if it was given one.
* `promotions_follow_plan`: All of this for the gates in use.
-/

namespace Turnstile

/-- What a plan has for one reading. -/
structure Round where
  /-- The reading. -/
  reading : Instant
  /-- Those who are refused. -/
  refused : List (Place × Waiter)
  /-- Those who are given slots. -/
  admitted : List (Place × Waiter)
deriving DecidableEq

/-- At each reading everybody is refused whose deadline has come, and then slots are given
    to the first of those who remain. -/
def plan (quota : Nat) : List Instant → List (Place × Waiter) → List Round
  | [], _ => []
  | now :: later, waiting =>
    { reading := now
      refused := waiting.filter fun e => e.2.deadline ≤ now
      admitted := (inTime now waiting).take quota } ::
      plan quota later ((inTime now waiting).drop quota)

namespace Moment

/-- The reading at which a moment observes a later window, if it does. -/
def rollover? (m : Moment) : Option Instant :=
  if m.before.window < m.after.window then m.event.reading? else none

/-- A task that is there wakes up at a reading. -/
inductive Wakes : Moment → Instant → Prop where
  /-- A call that waits wakes up. -/
  | call {g : Gate} {call : CallId} {now : Instant} (there : g.callers.contains call = true) :
      Wakes ⟨g, .wake call now⟩ now
  /-- A warden that sleeps wakes up. -/
  | warden {g : Gate} {n : Nat} {target now : Instant}
      (sleeps : g.wardens[n]? = some (.asleep target)) : Wakes ⟨g, .wardenWake n now⟩ now

/-- When a moment observes a later window, and who is given slots then. -/
def promotions? (m : Moment) : Option (Instant × List CallId) :=
  m.rollover?.map fun now => (now, grantees m.notices)

end Moment

/-- When moments observe later windows, and who is given slots each time. -/
def rollovers (moments : List Moment) : List (Instant × List CallId) :=
  moments.filterMap Moment.promotions?

theorem nodup_of_ascending {entries : List (Place × Waiter)} (h : Ascending entries) :
    entries.Nodup := by
  refine h.imp fun {a b} hlt heq => ?_
  rw [heq] at hlt
  exact compare_self_ne_lt b.1 hlt

section Plan

variable {quota : Nat} {readings : List Instant} {waiting : List (Place × Waiter)} {r s : Round}
  {e : Place × Waiter}

theorem mem_of_mem_inTime {now : Instant} (h : e ∈ inTime now waiting) : e ∈ waiting :=
  (List.mem_filter.mp h).1

theorem inTime_drop (now : Instant) (n : Nat) (entries : List (Place × Waiter)) :
    inTime now ((inTime now entries).drop n) = (inTime now entries).drop n :=
  List.filter_eq_self.mpr fun _ he => (List.mem_filter.mp (List.mem_of_mem_drop he)).2

/-- A plan is about those who wait. -/
theorem mem_of_planned (hr : r ∈ plan quota readings waiting)
    (he : e ∈ r.refused ∨ e ∈ r.admitted) : e ∈ waiting := by
  induction readings generalizing waiting with
  | nil => exact absurd hr List.not_mem_nil
  | cons now later ih =>
      rcases List.mem_cons.mp hr with rfl | hmem
      · rcases he with hrefused | hadmitted
        · exact (List.mem_filter.mp hrefused).1
        · exact mem_of_mem_inTime (List.mem_of_mem_take hadmitted)
      · exact mem_of_mem_inTime (List.mem_of_mem_drop (ih hmem))

/-- A plan admits nobody it refuses, earlier or later. -/
theorem not_admitted_of_refused (hnodup : waiting.Nodup) (hr : r ∈ plan quota readings waiting)
    (hs : s ∈ plan quota readings waiting) (he : e ∈ r.refused) : e ∉ s.admitted := by
  intro hadmitted
  induction readings generalizing waiting with
  | nil => exact absurd hr List.not_mem_nil
  | cons now later ih =>
      have hleft : (inTime now waiting).Nodup := hnodup.sublist List.filter_sublist
      -- Who is in time is not refused, and who is given a slot does not remain.
      have hlate : ∀ {x : Place × Waiter}, x ∈ inTime now waiting →
          ¬x ∈ waiting.filter fun e => e.2.deadline ≤ now := by
        intro x hx hrefused
        have htime := (x.2.onTime_iff now).mp (List.mem_filter.mp hx).2
        have hover := of_decide_eq_true (List.mem_filter.mp hrefused).2
        exact Int.not_le.mpr htime hover
      rcases List.mem_cons.mp hr with rfl | hr'
      · rcases List.mem_cons.mp hs with rfl | hs'
        · exact hlate (List.mem_of_mem_take hadmitted) he
        · exact hlate (List.mem_of_mem_drop (mem_of_planned hs' (Or.inr hadmitted))) he
      · rcases List.mem_cons.mp hs with rfl | hs'
        · have hdrop := mem_of_planned hr' (Or.inl he)
          have hsplit := (List.take_append_drop quota (inTime now waiting)).symm
          rw [hsplit] at hleft
          exact (List.nodup_append.mp hleft).2.2 e hadmitted e hdrop rfl
        · exact ih (hleft.sublist (List.drop_sublist _ _)) hr' hs'

end Plan

namespace Gate

/-- In a run a call returns with no other verdict than the one given, and is sent no other. -/
def GetsOnly (g : Gate) (es : List Event) (call : CallId) (v : Bool) : Prop :=
  (∀ w, .returned call w ∈ (g.run es).2 → w = v) ∧
    ∀ caller w, (g.run es).1.callers.find? call = some caller →
      caller.verdict = some w → w = v

variable {g : Gate} {call : CallId} {caller : Caller}

/-- What an event of a task does to those in time: nothing if no later window has begun,
    and otherwise it gives the slots to the first of them. -/
theorem step_of_task (h : g.Sound) (e : Event) (htask : e.isOutside = false) :
    ((⟨g, e⟩ : Moment).rollover? = none ∧ (g.step e).1.window = g.window ∧
      grantees (g.step e).2 = [] ∧
      ∀ later, (∀ now, e.reading? = some now → now ≤ later) →
        inTime later (g.step e).1.line.toList = inTime later g.line.toList) ∨
    ∃ now, (⟨g, e⟩ : Moment).rollover? = some now ∧ e.reading? = some now ∧
      g.window < (g.step e).1.window ∧ (g.step e).1.window = g.policy.windowAt now ∧
      grantees (g.step e).2 =
        ((inTime now g.line.toList).take g.policy.quota.toNat).map (·.2.call) ∧
      inTime now (g.step e).1.line.toList =
        (inTime now g.line.toList).drop g.policy.quota.toNat := by
  rcases looks_acts_of_move h.toPaired (step_move g e) htask with
    ⟨rollover, mid, seen, done, hlooks, hacts, hnotices⟩
  have hmid := (sound_of_looks h hlooks).toPaired
  have hgrantees : grantees (g.step e).2 = grantees seen := by
    rw [hnotices, grantees_append, grantees_of_acts hacts, List.append_nil]
  have hmoment : (⟨g, e⟩ : Moment).rollover? =
      if g.window < mid.window then e.reading? else none := by
    rw [← window_of_acts hacts]
    rfl
  rw [hmoment, hgrantees, window_of_acts hacts]
  cases rollover with
  | none =>
      rcases eq_of_looks_none hlooks with ⟨rfl, hnobody⟩
      rw [if_neg (Int.lt_irrefl _)]
      exact Or.inl ⟨rfl, rfl, hnobody, fun later hlater => inTime_of_acts hmid hacts hlater⟩
  | some now =>
      rcases window_of_looks h.toPaired hlooks with ⟨hreading, hlater, hwindow⟩
      rcases inTime_of_looks h.toPaired hlooks with ⟨hgiven, hleft⟩
      rw [if_pos hlater]
      refine Or.inr ⟨now, hreading, hreading, hlater, hwindow, hgiven, ?_⟩
      rw [← hleft]
      refine inTime_of_acts hmid hacts fun t ht => ?_
      rw [hreading] at ht
      exact Int.le_of_eq (congrArg Instant.nanos (Option.some.inj ht).symm)

theorem window_wake {now : Instant} (there : g.callers.contains call = true) :
    (g.wake call now).1.window = (g.roll now).1.window := by
  unfold wake
  rw [if_pos there]
  simp only []
  split
  next => rfl
  next =>
    split
    next => rfl
    next => split <;> rfl

theorem window_wardenWake {n : Nat} {target now : Instant}
    (sleeps : g.wardens[n]? = some (.asleep target)) :
    (g.wardenWake n now).1.window = (g.roll now).1.window := by
  unfold wardenWake
  rw [sleeps]

/-- The line is served whenever a task wakes up in a later window, and only then. -/
theorem rollover?_eq_some_iff (h : g.Paired) {e : Event} (htask : e.isOutside = false)
    (now : Instant) : (⟨g, e⟩ : Moment).rollover? = some now ↔
      (⟨g, e⟩ : Moment).Wakes now ∧ g.window < g.policy.windowAt now := by
  have hwindow := roll_window h now
  have hlater : ∀ {later : Gate}, later.window = (g.roll now).1.window →
      (g.window < later.window ↔ g.window < g.policy.windowAt now) := by
    intro later heq
    omega
  unfold Moment.rollover? Moment.after
  constructor
  · intro hsome
    split at hsome
    next hmoved =>
      cases e with
      | wake call t =>
          cases hsome
          by_cases there : g.callers.contains call = true
          · exact ⟨.call there, (hlater (window_wake there)).mp hmoved⟩
          · -- Nobody is there to look, so the window cannot have moved.
            change g.window < (g.wake call now).1.window at hmoved
            rw [wake, if_neg there] at hmoved
            exact absurd hmoved (Int.lt_irrefl _)
      | wardenWake n t =>
          cases hsome
          by_cases hsleeps : ∃ target, g.wardens[n]? = some (.asleep target)
          · rcases hsleeps with ⟨target, sleeps⟩
            exact ⟨.warden sleeps, (hlater (window_wardenWake sleeps)).mp hmoved⟩
          · have hsame : g.wardenWake n now = (g, []) := by
              unfold wardenWake
              split
              next target sleeps => exact absurd ⟨target, sleeps⟩ hsleeps
              next => rfl
            change g.window < (g.wardenWake n now).1.window at hmoved
            rw [hsame] at hmoved
            exact absurd hmoved (Int.lt_irrefl _)
      | arrive => exact nomatch htask
      | collect | drop | wardenLook | wardenLost | close | read => exact nomatch hsome
    next => exact nomatch hsome
  · rintro ⟨hwakes, hnew⟩
    cases hwakes with
    | call there => exact if_pos ((hlater (window_wake there)).mpr hnew)
    | warden sleeps => exact if_pos ((hlater (window_wardenWake sleeps)).mpr hnew)

/-- The later windows of a run are those of its first event and those of the rest. -/
theorem rollovers_history (g : Gate) (e : Event) (es : List Event) :
    rollovers (g.history (e :: es)) =
      match (⟨g, e⟩ : Moment).rollover? with
      | none => rollovers ((g.step e).1.history es)
      | some now => (now, grantees (g.step e).2) :: rollovers ((g.step e).1.history es) := by
  unfold rollovers
  rw [history, List.filterMap_cons, Moment.promotions?]
  cases (⟨g, e⟩ : Moment).rollover? <;> rfl

/-- The windows of a run are served as planned, for any plan that starts with the same
    entries in time. -/
theorem rollovers_eq_plan (h : g.Sound) {es : List Event} {since : Instant}
    (htimely : Timely since es) (htasks : ∀ e ∈ es, e.isOutside = false)
    {waiting : List (Place × Waiter)}
    (hsame : inTime since g.line.toList = inTime since waiting) :
    rollovers (g.history es) =
      (plan g.policy.quota.toNat ((rollovers (g.history es)).map (·.1)) waiting).map fun r =>
        (r.reading, r.admitted.map (·.2.call)) := by
  induction es generalizing g since waiting with
  | nil => rfl
  | cons e es ih =>
      rcases timely_step htimely with ⟨hforward, hrest⟩
      have htasks' : ∀ x ∈ es, x.isOutside = false := fun x hx =>
        htasks x (List.mem_cons_of_mem _ hx)
      have hpolicy := move_policy h.toPaired (step_move g e)
      rw [rollovers_history]
      rcases step_of_task h e (htasks e List.mem_cons_self) with
        ⟨hnone, -, -, hkept⟩ | ⟨now, hsome, hreading, -, -, hgiven, hleft⟩
      · -- Those in time at the next reading were so before, in the line and in the plan.
        rw [hnone, ← hpolicy]
        refine ih (step_sound h e) hrest htasks' ?_
        have hle : since ≤ e.reading?.getD since := by
          cases hnow : e.reading? with
          | none => exact Int.le_refl _
          | some now => exact hforward now hnow
        rw [hkept _ fun now hnow => by rw [hnow]; exact Int.le_refl _, ← inTime_inTime hle,
          hsame, inTime_inTime hle]
      · have hle := hforward now hreading
        have hnow : inTime now g.line.toList = inTime now waiting := by
          rw [← inTime_inTime hle, hsame, inTime_inTime hle]
        -- What the plan leaves for later readings are those that the line has left in time.
        have hagree : inTime (e.reading?.getD since) (g.step e).1.line.toList =
            inTime (e.reading?.getD since)
              ((inTime now waiting).drop g.policy.quota.toNat) := by
          rw [hreading, Option.getD_some, hleft, hnow, inTime_drop]
        have hlater := ih (step_sound h e) hrest htasks' hagree
        rw [hpolicy] at hlater
        rw [hsome, List.map_cons, plan, List.map_cons, hgiven, hnow, ← hlater]

/-- Each time the line is served a later window is observed than ever before. -/
theorem windows_increase (h : g.Sound) {es : List Event}
    (htasks : ∀ e ∈ es, e.isOutside = false) :
    (g.window :: (rollovers (g.history es)).map fun r => g.policy.windowAt r.1).Pairwise
      (· < ·) := by
  induction es generalizing g with
  | nil => exact List.pairwise_singleton _ _
  | cons e es ih =>
      have hrest := ih (step_sound h e) fun x hx => htasks x (List.mem_cons_of_mem _ hx)
      rw [move_policy h.toPaired (step_move g e)] at hrest
      rw [rollovers_history]
      rcases step_of_task h e (htasks e List.mem_cons_self) with
        ⟨hnone, hwindow, -, -⟩ | ⟨now, hsome, -, hlater, hwindow, -, -⟩
      · rw [hnone, ← hwindow]
        exact hrest
      · rw [hsome, List.map_cons, ← hwindow]
        refine List.pairwise_cons.mpr ⟨fun w hw => ?_, hrest⟩
        rcases List.mem_cons.mp hw with rfl | hmem
        · exact hlater
        · exact Int.lt_trans hlater ((List.pairwise_cons.mp hrest).1 w hmem)

/-- Slots are given away when the line is served, and at no other time. -/
theorem grantees_run (h : g.Sound) {es : List Event}
    (htasks : ∀ e ∈ es, e.isOutside = false) :
    grantees (g.run es).2 = (rollovers (g.history es)).flatMap (·.2) := by
  induction es generalizing g with
  | nil => rfl
  | cons e es ih =>
      have hrest := ih (step_sound h e) fun x hx => htasks x (List.mem_cons_of_mem _ hx)
      rw [run_cons, grantees_append, hrest, rollovers_history]
      rcases step_of_task h e (htasks e List.mem_cons_self) with
        ⟨hnone, -, hnobody, -⟩ | ⟨now, hsome, -⟩
      · rw [hnone, hnobody, List.nil_append]
      · rw [hsome, List.flatMap_cons]

/-- A call that is not there stays away and hears nothing. -/
theorem absent_run (h : g.Sound) {es : List Event} (htasks : ∀ e ∈ es, e.isOutside = false)
    (hnone : g.callers.find? call = none) :
    (g.run es).1.callers.find? call = none ∧ ∀ n ∈ (g.run es).2, n.call ≠ call := by
  induction es generalizing g with
  | nil => exact ⟨hnone, fun _ hn => absurd hn List.not_mem_nil⟩
  | cons e es ih =>
      rcases looks_acts_of_move h.toPaired (step_move g e) (htasks e List.mem_cons_self) with
        ⟨rollover, mid, seen, done, hlooks, hacts, hnotices⟩
      rcases absent_of_looks h.toPaired hlooks hnone with ⟨hmid, hseen⟩
      rcases absent_of_acts hacts hmid with ⟨hnext, hdone⟩
      rcases ih (step_sound h e) (fun x hx => htasks x (List.mem_cons_of_mem _ hx)) hnext with
        ⟨hlast, hrest⟩
      rw [run_cons, hnotices]
      refine ⟨hlast, fun n hn => ?_⟩
      rcases List.mem_append.mp hn with hfirst | hmem
      · rcases List.mem_append.mp hfirst with hmem | hmem
        · exact hseen n hmem
        · exact hdone n hmem
      · exact hrest n hmem

/-- A call that waits hears of a slot just if it was sent one before or is given one, be it
    that it returns or that the verdict is there to be seen. -/
theorem verdict_of_run (h : g.Sound) {es : List Event}
    (htasks : ∀ e ∈ es, e.isOutside = false) (hfind : g.callers.find? call = some caller) :
    (∀ w, .returned call w ∈ (g.run es).2 →
      (w = true ↔ caller.verdict = some true ∨ call ∈ grantees (g.run es).2)) ∧
    ∀ caller', (g.run es).1.callers.find? call = some caller' →
      (caller'.verdict = some true ↔
        caller.verdict = some true ∨ call ∈ grantees (g.run es).2) := by
  induction es generalizing g caller with
  | nil =>
      refine ⟨fun w hw => absurd hw List.not_mem_nil, fun caller' hfind' => ?_⟩
      cases hfind.symm.trans hfind'
      exact (or_iff_left List.not_mem_nil).symm
  | cons e es ih =>
      have htasks' : ∀ x ∈ es, x.isOutside = false := fun x hx =>
        htasks x (List.mem_cons_of_mem _ hx)
      rcases looks_acts_of_move h.toPaired (step_move g e) (htasks e List.mem_cons_self) with
        ⟨rollover, mid, seen, done, hlooks, hacts, hnotices⟩
      have hmid := (sound_of_looks h hlooks).toPaired
      rcases caller_of_looks h.toPaired hlooks hfind with ⟨caller₁, hfind₁, hsent⟩
      have hsplit : call ∈ grantees (g.run (e :: es)).2 ↔
          call ∈ grantees seen ∨ call ∈ grantees ((g.step e).1.run es).2 := by
        rw [run_cons, hnotices, grantees_append, grantees_append, grantees_of_acts hacts,
          List.append_nil, List.mem_append]
      have hreturned : ∀ w, .returned call w ∈ (g.run (e :: es)).2 →
          .returned call w ∈ done ∨ .returned call w ∈ ((g.step e).1.run es).2 := by
        intro w hw
        rw [run_cons, hnotices] at hw
        rcases List.mem_append.mp hw with hfirst | hrest
        · rcases List.mem_append.mp hfirst with hseen | hdone
          · exact absurd hseen (returned_not_mem_looks h.toPaired hlooks call w)
          · exact Or.inl hdone
        · exact Or.inr hrest
      rw [hsplit, ← or_assoc, ← hsent]
      rcases caller_of_acts hmid hacts hfind₁ with ⟨hstays, hsilent⟩ | ⟨hends, hverdict⟩
      · -- The call goes on to wait, and the rest of the run decides what it hears.
        rcases ih (step_sound h e) htasks' hstays with ⟨hret, hend⟩
        refine ⟨fun w hw => ?_, hend⟩
        rcases hreturned w hw with hdone | hrest
        · exact absurd hdone (hsilent w)
        · exact hret w hrest
      · -- The call has returned, and the rest of the run does not concern it.
        rcases absent_run (step_sound h e) htasks' hends with ⟨hlast, hothers⟩
        have hnever : call ∉ grantees ((g.step e).1.run es).2 := fun hgrant =>
          hothers _ ((mem_grantees _ _).mp hgrant) rfl
        rw [or_iff_left hnever]
        refine ⟨fun w hw => ?_, fun caller' hfind' => nomatch hlast.symm.trans hfind'⟩
        rcases hreturned w hw with hdone | hrest
        · exact hverdict w hdone
        · exact absurd rfl (hothers _ hrest)

/-- A call in line hears of a slot if it is given one, and of none if it is not. -/
theorem getsOnly_of_mem (h : g.Sound) {es : List Event}
    (htasks : ∀ e ∈ es, e.isOutside = false) {e : Place × Waiter} (he : e ∈ g.line.toList)
    {v : Bool} (hv : v = true ↔ e.2.call ∈ grantees (g.run es).2) :
    g.GetsOnly es e.2.call v := by
  -- It was sent nothing yet, so all depends on what the run gives it.
  rcases verdict_of_run h htasks (h.attended e he) with ⟨hreturned, hthere⟩
  rw [or_iff_right fun hnone => (nomatch hnone), ← hv] at hreturned hthere
  constructor
  · exact fun w hw => Bool.eq_iff_iff.mpr (hreturned w hw)
  · intro caller w hfind hsent
    have hiff := hthere caller hfind
    rw [hsent, Option.some.injEq] at hiff
    exact Bool.eq_iff_iff.mpr hiff

/-- **Slots are given away as planned.** Take any state of a gate, and leave the gate to its
    tasks for a run whose readings do not go back. Its line is in the order of service, and
    is served whenever a task wakes up in a later window than the one observed. Each time
    slots are given to the calls that the plan for these readings admits, in the order of
    the plan, and none are given away at other times. A call that the plan refuses is given
    no slot in the run and hears of nothing but a refusal, and one that the plan admits
    hears of nothing but its slot. -/
theorem promotions_follow_plan (policy : Policy) (first : Instant) (es fs : List Event)
    (since : Instant) (htimely : Timely since fs)
    (htasks : ∀ e ∈ fs, e.isOutside = false) :
    let g := ((start policy first).run es).1
    let rolled := rollovers (g.history fs)
    let rounds := plan policy.quota.toNat (rolled.map (·.1)) g.line.toList
    g.line.toList.Pairwise (fun a b => (start policy first).Precedes es a.1 b.1) ∧
    (∀ m ∈ g.history fs, ∀ now, m.rollover? = some now ↔
      m.Wakes now ∧ m.before.window < policy.windowAt now) ∧
    (g.window :: rolled.map fun r => policy.windowAt r.1).Pairwise (· < ·) ∧
    rolled = rounds.map (fun r => (r.reading, r.admitted.map (·.2.call))) ∧
    grantees (g.run fs).2 = rolled.flatMap (·.2) ∧
    ∀ r ∈ rounds,
      (∀ e ∈ r.refused, .granted e.2.call ∉ (g.run fs).2 ∧ g.GetsOnly fs e.2.call false) ∧
      ∀ e ∈ r.admitted, g.GetsOnly fs e.2.call true := by
  intro g rolled rounds
  have h : g.Sound := sound_of_start policy first es
  have hpolicy : g.policy = policy := run_policy (sound_start policy first) es
  have hasc := g.line.ascending_toList
  have hplanned : rolled = rounds.map (fun r => (r.reading, r.admitted.map (·.2.call))) := by
    have hsame : inTime since g.line.toList = inTime since g.line.toList := rfl
    have hrolled := rollovers_eq_plan h htimely htasks hsame
    rw [hpolicy] at hrolled
    exact hrolled
  have hgiven : grantees (g.run fs).2 = rolled.flatMap (·.2) := grantees_run h htasks
  have hwindows := windows_increase h htasks
  rw [hpolicy] at hwindows
  -- The calls that are given slots are those that some round admits.
  have hadmitted : ∀ c, c ∈ grantees (g.run fs).2 ↔
      ∃ s ∈ rounds, ∃ x ∈ s.admitted, x.2.call = c := by
    intro c
    rw [hgiven, hplanned, List.mem_flatMap]
    constructor
    · rintro ⟨p, hp, hc⟩
      rcases List.mem_map.mp hp with ⟨s, hs, rfl⟩
      exact ⟨s, hs, List.mem_map.mp hc⟩
    · rintro ⟨s, hs, hx⟩
      exact ⟨_, List.mem_map_of_mem hs, List.mem_map.mpr hx⟩
  refine ⟨?_, fun m hm now => ?_, hwindows, hplanned, hgiven,
    fun r hr => ⟨fun e he => ?_, fun e he => ?_⟩⟩
  · refine hasc.imp_of_mem fun {a b} ha hb hlt => ?_
    exact (precedes_iff policy first (Line.contains_of_mem ha) (Line.contains_of_mem hb)).mpr
      ((Place.compare_eq_lt_iff a.1 b.1).mp hlt)
  · have hsame : m.before.policy = policy := by
      rcases exists_split_of_mem_history hm with ⟨pre, -, -, hbefore⟩
      rw [hbefore, run_policy h, hpolicy]
    have htask := htasks _ (event_mem_of_mem_history hm)
    rw [← hsame]
    exact rollover?_eq_some_iff (sound_of_mem_history h hm).toPaired htask now
  · have hline := mem_of_planned hr (Or.inl he)
    have hnever : e.2.call ∉ grantees (g.run fs).2 := by
      intro hgrant
      rcases (hadmitted _).mp hgrant with ⟨s, hs, x, hx, hcall⟩
      -- Entries of one call are one entry, which cannot be refused and admitted.
      have hsame := eq_of_call_eq h.attended (mem_of_planned hs (Or.inr hx)) hline hcall
      rw [hsame] at hx
      exact not_admitted_of_refused (nodup_of_ascending hasc) hr hs he hx
    refine ⟨fun hgrant => hnever ((mem_grantees _ _).mpr hgrant), ?_⟩
    exact getsOnly_of_mem h htasks hline ⟨fun heq => (nomatch heq), fun hc => absurd hc hnever⟩
  · have hline := mem_of_planned hr (Or.inr he)
    have hgrant := (hadmitted e.2.call).mpr ⟨r, hr, e, he, rfl⟩
    exact getsOnly_of_mem h htasks hline ⟨fun _ => hgrant, fun _ => rfl⟩

/-- In the rush let the second of those who wait have time for one second only. The slot of
    the second window goes to the first, so that nobody comes to the second, who is in line
    still when the plan has refused it. In the third window it is refused by the gate as
    well, and is told so. -/
theorem promotions_follow_plan_in_rush :
    let es : List Event :=
      [.arrive 0 Rush.request (.ofSeconds 5) Instant.epoch,
        .arrive 1 Rush.request (.ofSeconds 5) Instant.epoch,
        .arrive 2 Rush.request (.ofSeconds 1) Instant.epoch]
    let fs : List Event :=
      [.wardenLook 0, .wardenWake 0 Rush.second, .wardenLook 0, .wardenWake 0 Rush.third,
        .collect 2]
    let g := ((start Rush.policy Instant.epoch).run es).1
    let late : Place × Waiter := (Rush.behind.1, ⟨2, Rush.request.deadline (.ofSeconds 1)⟩)
    Timely Instant.epoch fs ∧ (∀ e ∈ fs, e.isOutside = false) ∧
    plan 1 [Rush.second, Rush.third] g.line.toList =
      [⟨Rush.second, [late], [Rush.ahead]⟩, ⟨Rush.third, [], []⟩] ∧
    rollovers (g.history fs) = [(Rush.second, [1]), (Rush.third, [])] ∧
    late ∈ (g.run (fs.take 2)).1.line.toList ∧
    .returned 2 false ∈ (g.run fs).2 ∧ g.GetsOnly fs 2 false ∧ g.GetsOnly fs 1 true := by
  intro es fs g late
  have htimely : Timely Instant.epoch fs := by decide
  have htasks : ∀ e ∈ fs, e.isOutside = false := by decide
  have hrolled : rollovers (g.history fs) = [(Rush.second, [1]), (Rush.third, [])] := by decide
  have hplan : plan 1 [Rush.second, Rush.third] g.line.toList =
      [⟨Rush.second, [late], [Rush.ahead]⟩, ⟨Rush.third, [], []⟩] := by decide
  have hkept := promotions_follow_plan Rush.policy Instant.epoch es fs Instant.epoch
    htimely htasks
  have hround : (⟨Rush.second, [late], [Rush.ahead]⟩ : Round) ∈
      plan Rush.policy.quota.toNat ((rollovers (g.history fs)).map (·.1)) g.line.toList := by
    rw [hrolled]
    exact hplan ▸ List.mem_cons_self
  have hverdicts := hkept.2.2.2.2.2 _ hround
  refine ⟨htimely, htasks, hplan, hrolled, by decide, by decide, ?_, ?_⟩
  · exact (hverdicts.1 late List.mem_cons_self).2
  · exact hverdicts.2 Rush.ahead List.mem_cons_self

end Gate

end Turnstile
