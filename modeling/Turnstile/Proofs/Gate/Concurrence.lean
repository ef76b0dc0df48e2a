import Turnstile.Proofs.Gate.Crossing

/-!
# Several Tasks at One Reading

When a window begins, much is due at once. The warden wakes up, and so do the calls whose
deadline is the same instant, and a newcomer may arrive as well. Each of them observes the
window before it does anything else, and which of them comes first is up to chance.

It makes no difference. The window is observed by whoever comes first, and the others find
it observed. What they do then can be done in any order, and a call that was decided before
could have ended at any time. So the gate in the end is the gate that has observed the
window, with the same things done to it one after the other.

There is one trap. A call may be due because its timer went off, and find when its turn
comes that somebody else has had it decided, so that it returns without a look at the
clock. It is then of importance that the one who decided it has observed the same window.

The wardens are left out of the comparison. One that looks before the newcomer begins to
wait may find nobody there and go, and then the newcomer calls another one.

## Main definitions

* `Turn`: What is due at a reading: a warden, a call that waits, or an arrival.
* `Turn.Apart`: Two turns are not of one call, nor both of wardens or arrivals.
* `Turn.Takes`: The events by which a turn is taken.
* `Schedule`: Turns are taken one after the other, while wardens look as they please.
* `Gate.Fits`: A turn can be due at a gate.

## Theorems

* `acts_perm`: What is done in an observed window can be done in any order.
* `performs_turns`: The window can be observed before anything else is done.
* `performs_perm`: Turns can be taken in any order.
* `schedule_performs`: A schedule comes to the turns that are taken.
* `any_order_will_do`: All schedules of the same turns come to the same.
-/

namespace Turnstile

/-- What is due at a reading of the clock. -/
inductive Turn where
  /-- A warden wakes up. -/
  | observe
  /-- The timer of a call that waits goes off. -/
  | wake (call : CallId)
  /-- A call looks for the verdict it was sent. -/
  | collect (call : CallId)
  /-- A call arrives. -/
  | arrive (call : CallId) (request : Request) (ttl : Span)
deriving DecidableEq

namespace Turn

/-- The call whose turn it is, unless it is that of a warden. -/
def call? : Turn → Option CallId
  | .observe => none
  | .wake call => some call
  | .collect call => some call
  | .arrive call .. => some call

def isArrival : Turn → Bool
  | .arrive .. => true
  | _ => false

/-- Two turns are not of one call, nor both of wardens, nor both of arrivals. -/
def Apart (t u : Turn) : Prop :=
  t.call? ≠ u.call? ∧ ¬(t.isArrival = true ∧ u.isArrival = true)

instance : DecidableRel Apart :=
  fun t u => inferInstanceAs (Decidable (t.call? ≠ u.call? ∧ _))

theorem Apart.symm {t u : Turn} (h : t.Apart u) : u.Apart t :=
  ⟨h.1.symm, fun hboth => h.2 hboth.symm⟩

/-- The events by which a turn is taken at a reading. A call whose timer went off may
    have been sent a verdict in the meantime, and then it may see the verdict first. -/
inductive Takes (now : Instant) (g : Gate) : Turn → Event → Prop where
  | warden {n : Nat} {target : Instant} (sleeps : g.wardens[n]? = some (.asleep target)) :
      Takes now g .observe (.wardenWake n now)
  | timer {call : CallId} : Takes now g (.wake call) (.wake call now)
  | told {call : CallId} {caller : Caller} (there : g.callers.find? call = some caller)
      (sent : caller.verdict.isSome = true) : Takes now g (.wake call) (.collect call)
  | verdict {call : CallId} : Takes now g (.collect call) (.collect call)
  | arrival {call : CallId} {request : Request} {ttl : Span} :
      Takes now g (.arrive call request ttl) (.arrive call request ttl now)

/-- What is done to a gate when a turn is taken. -/
def deed (now : Instant) : Turn → Deed
  | .observe => .rollover now
  | .wake call => .wake call now
  | .collect call => .collect call
  | .arrive call request ttl => .arrive call request ttl now

/-- Whether the window is observed when a turn is taken. -/
def observes : Turn → Bool
  | .collect _ => false
  | _ => true

end Turn

/-- Turns are taken one after the other, and wardens look in between as they please. -/
inductive Schedule (now : Instant) : Gate → List Turn → List Event → Prop where
  | done {g : Gate} : Schedule now g [] []
  | turn {g : Gate} {t : Turn} {ts : List Turn} {e : Event} {es : List Event}
      (takes : t.Takes now g e) (rest : Schedule now (g.step e).1 ts es) :
      Schedule now g (t :: ts) (e :: es)
  | look {g : Gate} {n : Nat} {ts : List Turn} {es : List Event}
      (rest : Schedule now (g.step (.wardenLook n)).1 ts es) :
      Schedule now g ts (.wardenLook n :: es)

namespace Gate

/-- A turn can be due at a gate: a warden is asleep, a call waits and was sent nothing, a
    call was sent a verdict, or a call is new. -/
inductive Fits (g : Gate) : Turn → Prop where
  | observe {n : Nat} {target : Instant} (sleeps : g.wardens[n]? = some (.asleep target)) :
      Fits g .observe
  | wake {call : CallId} {caller : Caller} (there : g.callers.find? call = some caller)
      (untold : caller.verdict = none) : Fits g (.wake call)
  | collect {call : CallId} {caller : Caller} (there : g.callers.find? call = some caller)
      (sent : caller.verdict.isSome = true) : Fits g (.collect call)
  | arrive {call : CallId} {request : Request} {ttl : Span}
      (new : g.callers.find? call = none) : Fits g (.arrive call request ttl)

/-- What is left to do for a turn when the window has been observed. -/
def act (now : Instant) (g : Gate) : Turn → Gate × List Notice
  | .observe => (g, [])
  | .wake call => g.settle call (·.outcome now)
  | .collect call => g.settle call (·.verdict)
  | .arrive call request ttl => g.receive call request ttl now

/-- What is left to do for some turns. -/
def acts (now : Instant) (g : Gate) : List Turn → Gate × List Notice
  | [] => (g, [])
  | t :: ts => ((acts now (g.act now t).1 ts).1, (g.act now t).2 ++ (acts now (g.act now t).1 ts).2)

/-- The call of a turn is at the gate as it has to be. -/
def Ready (g : Gate) : Turn → Prop
  | .observe => True
  | .wake call => ∃ caller, g.callers.find? call = some caller
  | .collect call => ∃ caller, g.callers.find? call = some caller ∧ caller.verdict.isSome = true
  | .arrive call .. => g.callers.find? call = none

variable {g g' : Gate} {now : Instant} {t u : Turn} {ts us : List Turn} {event : Event}
  {events : List Event} {call : CallId} {caller : Caller}

theorem ready_of_fits (h : g.Fits t) : g.Ready t := by
  cases h with
  | observe => exact trivial
  | wake there => exact ⟨_, there⟩
  | collect there sent => exact ⟨_, there, sent⟩
  | arrive new => exact new

/-- What is known of the call is all that matters. -/
theorem ready_congr (hfind : ∀ c, t.call? = some c → g'.callers.find? c = g.callers.find? c)
    (h : g.Ready t) : g'.Ready t := by
  cases t with
  | observe => exact trivial
  | wake c | collect c | arrive c request ttl =>
      simp only [Ready, hfind c rfl] at h ⊢
      exact h

/-- Acting for a turn changes no other call. -/
theorem find?_act_of_ne (g : Gate) (now : Instant) (hne : t.call? ≠ some call) :
    (g.act now t).1.callers.find? call = g.callers.find? call := by
  cases t with
  | observe => rfl
  | wake c | collect c =>
      exact find?_settle_of_ne g _ fun heq => hne (congrArg some heq)
  | arrive c request ttl =>
      exact find?_receive_of_ne g request ttl now fun heq => hne (congrArg some heq)

theorem ready_act (h : g.Ready u) (hapart : t.Apart u) : (g.act now t).1.Ready u :=
  ready_congr (fun _ hc => find?_act_of_ne g now fun ht => hapart.1 (ht.trans hc.symm)) h

/-- A decided call is not among those served, as it is out of line. -/
theorem not_served_of_decided (hp : g.Paired) (there : g.callers.find? call = some caller)
    (sent : caller.verdict.isSome = true) (now : Instant) :
    ∀ e ∈ g.served now, e.1 ≠ caller.place := by
  intro e he hplace
  have hnone := (entry_of_place hp there (mem_of_mem_served hp he) hplace).2
  rw [hnone] at sent
  exact Bool.false_ne_true sent

theorem ready_roll (hp : g.Paired) (h : g.Ready t) (now : Instant) : (g.roll now).1.Ready t := by
  cases t with
  | observe => exact trivial
  | wake c =>
      rcases h with ⟨caller, there⟩
      rcases find?_roll hp there now with ⟨verdict, hrolled⟩
      exact ⟨_, hrolled⟩
  | collect c =>
      rcases h with ⟨caller, there, sent⟩
      have hserved := not_served_of_decided hp there sent now
      exact ⟨caller, find?_roll_of_not_served hp there hserved, sent⟩
  | arrive c request ttl => exact roll_find?_eq_none hp now h

theorem paired_settle (hp : g.Paired) (call : CallId) (answer : Caller → Option Bool) :
    (g.settle call answer).1.Paired := by
  rcases settle_cases g call answer with hidle | ⟨caller, v, there, hv⟩
  · rw [settle_of_none hidle]
    exact hp
  · rw [settle_of_answer answer there hv]
    exact paired_finish hp there

theorem paired_act (hp : g.Paired) (h : g.Ready t) (now : Instant) : (g.act now t).1.Paired := by
  cases t with
  | observe => exact hp
  | wake c | collect c => exact paired_settle hp c _
  | arrive c request ttl =>
      change (g.receive c request ttl now).1.Paired
      unfold receive
      split
      next => exact paired_of_eq hp rfl rfl
      next =>
        split
        next => exact hp
        next => exact paired_park hp h request _

/-- Acting for a turn leaves the window as it was observed. -/
theorem act_window (g : Gate) (now : Instant) (t : Turn) :
    (g.act now t).1.policy = g.policy ∧ (g.act now t).1.window = g.window := by
  have hsettle : ∀ c answer, (g.settle c answer).1.policy = g.policy ∧
      (g.settle c answer).1.window = g.window := by
    intro c answer
    unfold settle
    split
    next => exact ⟨rfl, rfl⟩
    next => split <;> exact ⟨rfl, rfl⟩
  cases t with
  | observe => exact ⟨rfl, rfl⟩
  | wake c | collect c => exact hsettle c _
  | arrive c request ttl =>
      change (g.receive c request ttl now).1.policy = _ ∧ (g.receive c request ttl now).1.window = _
      unfold receive
      split
      next => exact ⟨rfl, rfl⟩
      next =>
        split
        next => exact ⟨rfl, rfl⟩
        next =>
          rw [park_frame]
          exact ⟨rfl, rfl⟩

/-- Two turns that are apart are acted for in any order. -/
theorem crosses_act (hp : g.Paired) (now : Instant) (hapart : t.Apart u) :
    Crosses (·.act now t) (·.act now u) g := by
  have hne : ∀ {c d : CallId}, t.call? = some c → u.call? = some d → c ≠ d := by
    intro c d hc hd heq
    exact hapart.1 (by rw [hc, hd, heq])
  have hidle : ∀ k : Gate → Gate × List Notice, Crosses (fun g => (g, [])) k g :=
    fun k => ⟨rfl, rfl, rfl⟩
  cases t with
  | observe => exact hidle _
  | wake c | collect c =>
      cases u with
      | observe => exact (hidle _).symm
      | wake d | collect d => exact crosses_settle_settle hp.exact (hne rfl rfl) _ _
      | arrive d request ttl => exact crosses_settle_receive hp (hne rfl rfl) _ request ttl now
  | arrive c request ttl =>
      cases u with
      | observe => exact (hidle _).symm
      | wake d | collect d =>
          exact (crosses_settle_receive hp (hne rfl rfl).symm _ request ttl now).symm
      | arrive d request' ttl' => exact absurd ⟨rfl, rfl⟩ hapart.2

/-- What is done in an observed window can be done in any order, by induction on how the
    orders differ. -/
theorem acts_perm (hperm : ts.Perm us) (hp : g.Paired) (hready : ∀ t ∈ ts, g.Ready t)
    (hapart : ts.Pairwise Turn.Apart) (now : Instant) :
    (g.acts now ts).1 = (g.acts now us).1 ∧ (g.acts now ts).2.Perm (g.acts now us).2 := by
  induction hperm generalizing g with
  | nil => exact ⟨rfl, List.Perm.refl _⟩
  | cons t _ ih =>
      have hc := List.pairwise_cons.mp hapart
      have hrest := ih (paired_act hp (hready t List.mem_cons_self) now)
        (fun u hu => ready_act (hready u (List.mem_cons_of_mem _ hu)) (hc.1 u hu)) hc.2
      exact ⟨hrest.1, hrest.2.append_left _⟩
  | swap t u rest =>
      have hcross := crosses_act hp now ((List.pairwise_cons.mp hapart).1 t List.mem_cons_self)
      unfold acts
      unfold acts
      rw [hcross.gate_eq, hcross.left, hcross.right, ← List.append_assoc, ← List.append_assoc]
      exact ⟨rfl, List.perm_append_comm.append_right _⟩
  | trans hfirst _ ih₁ ih₂ =>
      have hmid := ih₁ hp hready hapart
      have hlast := ih₂ hp (fun t ht => hready t (hfirst.mem_iff.mpr ht))
        ((hfirst.pairwise_iff fun h => h.symm).mp hapart)
      exact ⟨hmid.1.trans hlast.1, hmid.2.trans hlast.2⟩

/-- A turn is taken by observing the window, if it does, and acting then. -/
theorem perform_turn (hp : g.Paired) (h : g.Ready t) (hobserves : t.observes = true) :
    g.perform (t.deed now) =
      (((g.roll now).1.act now t).1, (g.roll now).2 ++ ((g.roll now).1.act now t).2) := by
  cases t with
  | observe => exact Prod.ext rfl (List.append_nil _).symm
  | wake c => exact wake_eq hp h.choose_spec now
  | collect c => exact nomatch hobserves
  | arrive c request ttl => exact arrive_eq h request ttl now

theorem perform_collect (hp : g.Paired) (hobserves : t.observes = false) :
    g.perform (t.deed now) = g.act now t := by
  cases t with
  | collect c => exact collect_eq hp c
  | observe | wake | arrive => exact nomatch hobserves

/-- In an observed window there is nothing to observe. -/
theorem perform_observed (hp : g.Paired) (h : g.Ready t)
    (hwindow : g.policy.windowAt now ≤ g.window) : g.perform (t.deed now) = g.act now t := by
  cases hobserves : t.observes with
  | true =>
      rw [perform_turn hp h hobserves, roll_of_le hwindow]
      exact Prod.ext rfl (List.nil_append _)
  | false => exact perform_collect hp hobserves

/-- Turns in an observed window come to what is left to do for them, by induction on the
    turns. -/
theorem performs_observed (hp : g.Paired) (hready : ∀ t ∈ ts, g.Ready t)
    (hapart : ts.Pairwise Turn.Apart) (hwindow : g.policy.windowAt now ≤ g.window) :
    g.performs (ts.map (·.deed now)) = g.acts now ts := by
  induction ts generalizing g with
  | nil => rfl
  | cons t ts ih =>
      have hc := List.pairwise_cons.mp hapart
      have hfirst := hready t List.mem_cons_self
      have hstays := act_window g now t
      rw [List.map_cons, performs, perform_observed hp hfirst hwindow, acts,
        ih (paired_act hp hfirst now)
          (fun u hu => ready_act (hready u (List.mem_cons_of_mem _ hu)) (hc.1 u hu)) hc.2
          (by rw [hstays.1, hstays.2]; exact hwindow)]

/-- A decided call returns before the window is observed or after it. -/
theorem roll_collect (hp : g.Paired) (h : g.Ready t) (hobserves : t.observes = false)
    (now : Instant) :
    (g.act now t).1.roll now = (((g.roll now).1.act now t).1, (g.roll now).2) ∧
      ((g.roll now).1.act now t).2 = (g.act now t).2 := by
  cases t with
  | observe | wake | arrive => exact nomatch hobserves
  | collect c =>
      rcases h with ⟨caller, there, sent⟩
      rcases Option.isSome_iff_exists.mp sent with ⟨v, hv⟩
      have hserved := not_served_of_decided hp there sent now
      have hrolled := find?_roll_of_not_served hp there hserved
      have hact : g.act now (.collect c) = (g.finish c caller.place, [.returned c v]) :=
        settle_of_answer _ there hv
      have hact' : (g.roll now).1.act now (.collect c) =
          ((g.roll now).1.finish c caller.place, [.returned c v]) :=
        settle_of_answer _ hrolled hv
      rw [hact, hact']
      exact ⟨roll_finish hp there hserved, rfl⟩

/-- Turns of decided calls come to their ends, whatever the window. -/
theorem performs_collects (hp : g.Paired) (hready : ∀ t ∈ ts, g.Ready t)
    (hapart : ts.Pairwise Turn.Apart) (hcollect : ∀ t ∈ ts, t.observes = false) :
    g.performs (ts.map (·.deed now)) = g.acts now ts := by
  induction ts generalizing g with
  | nil => rfl
  | cons t ts ih =>
      have hc := List.pairwise_cons.mp hapart
      rw [List.map_cons, performs, perform_collect hp (hcollect t List.mem_cons_self), acts,
        ih (paired_act hp (hready t List.mem_cons_self) now)
          (fun u hu => ready_act (hready u (List.mem_cons_of_mem _ hu)) (hc.1 u hu)) hc.2
          fun u hu => hcollect u (List.mem_cons_of_mem _ hu)]

/-- If any of the turns observes the window, it may as well be observed first, by induction
    on the turns: those before the first that does are of decided calls. -/
theorem performs_turns (hp : g.Paired) (hready : ∀ t ∈ ts, g.Ready t)
    (hapart : ts.Pairwise Turn.Apart) (hobserves : ∃ t ∈ ts, t.observes = true)
    (now : Instant) :
    (g.performs (ts.map (·.deed now))).1 = ((g.roll now).1.acts now ts).1 ∧
      (g.performs (ts.map (·.deed now))).2.Perm
        ((g.roll now).2 ++ ((g.roll now).1.acts now ts).2) := by
  induction ts generalizing g with
  | nil =>
      rcases hobserves with ⟨t, ht, -⟩
      exact absurd ht List.not_mem_nil
  | cons t ts ih =>
      have hc := List.pairwise_cons.mp hapart
      have hfirst := hready t List.mem_cons_self
      have hrest : ∀ u ∈ ts, g.Ready u := fun u hu => hready u (List.mem_cons_of_mem _ hu)
      rw [List.map_cons, performs, acts]
      cases hobs : t.observes with
      | true =>
          have hrolled := paired_roll hp now
          have hstays := act_window (g.roll now).1 now t
          have hwindow := roll_window hp now
          have hpolicy := roll_policy hp now
          have hacts : ((g.roll now).1.act now t).1.performs (ts.map (·.deed now)) =
              ((g.roll now).1.act now t).1.acts now ts := by
            refine performs_observed (paired_act hrolled (ready_roll hp hfirst now) now)
              (fun u hu => ready_act (ready_roll hp (hrest u hu) now) (hc.1 u hu)) hc.2 ?_
            rw [hstays.1, hstays.2, hpolicy, hwindow]
            exact Int.le_max_right _ _
          rw [perform_turn hp hfirst hobs, hacts]
          exact ⟨rfl, List.Perm.of_eq (List.append_assoc _ _ _)⟩
      | false =>
          -- The window is observed later, by one of the others.
          have hlater : ∃ u ∈ ts, u.observes = true := by
            rcases hobserves with ⟨u, hu, hobs'⟩
            rcases List.mem_cons.mp hu with rfl | hu
            · exact absurd (hobs.symm.trans hobs') Bool.false_ne_true
            · exact ⟨u, hu, hobs'⟩
          have hcross := roll_collect hp hfirst hobs now
          have hih := ih (paired_act hp hfirst now)
            (fun u hu => ready_act (hrest u hu) (hc.1 u hu)) hc.2 hlater
          rw [hcross.1] at hih
          rw [perform_collect hp hobs, hcross.2]
          refine ⟨hih.1, (hih.2.append_left _).trans ?_⟩
          rw [← List.append_assoc, ← List.append_assoc]
          exact List.perm_append_comm.append_right _

/-- Turns can be taken in any order. -/
theorem performs_perm (hperm : ts.Perm us) (hp : g.Paired) (hready : ∀ t ∈ ts, g.Ready t)
    (hapart : ts.Pairwise Turn.Apart) (now : Instant) :
    (g.performs (ts.map (·.deed now))).1 = (g.performs (us.map (·.deed now))).1 ∧
      (g.performs (ts.map (·.deed now))).2.Perm (g.performs (us.map (·.deed now))).2 := by
  have hready' : ∀ u ∈ us, g.Ready u := fun u hu => hready u (hperm.mem_iff.mpr hu)
  have hapart' : us.Pairwise Turn.Apart := (hperm.pairwise_iff fun h => h.symm).mp hapart
  by_cases hobserves : ∃ t ∈ ts, t.observes = true
  · have hobserves' : ∃ u ∈ us, u.observes = true := by
      rcases hobserves with ⟨t, ht, hobs⟩
      exact ⟨t, hperm.mem_iff.mp ht, hobs⟩
    have hts := performs_turns hp hready hapart hobserves now
    have hus := performs_turns hp hready' hapart' hobserves' now
    have hacts := acts_perm hperm (paired_roll hp now)
      (fun t ht => ready_roll hp (hready t ht) now) hapart now
    refine ⟨hts.1.trans (hacts.1.trans hus.1.symm), ?_⟩
    exact hts.2.trans ((hacts.2.append_left _).trans hus.2.symm)
  · have hcollect : ∀ t ∈ ts, t.observes = false := fun t ht =>
      Bool.eq_false_iff.mpr fun hobs => hobserves ⟨t, ht, hobs⟩
    rw [performs_collects hp hready hapart hcollect,
      performs_collects hp hready' hapart' fun u hu => hcollect u (hperm.mem_iff.mpr hu)]
    exact acts_perm hperm hp hready hapart now

/-- A turn that was taken leaves the turns of others to be taken. -/
theorem ready_perform (hp : g.Paired) (ht : g.Ready t) (hu : g.Ready u) (hapart : t.Apart u) :
    (g.perform (t.deed now)).1.Ready u := by
  cases hobserves : t.observes with
  | true =>
      rw [perform_turn hp ht hobserves]
      exact ready_act (ready_roll hp hu now) hapart
  | false =>
      rw [perform_collect hp hobserves]
      exact ready_act hu hapart

/-- A call that waits was sent nothing, or else the window has been observed. -/
def Ripe (now : Instant) (g : Gate) (call : CallId) : Prop :=
  ∀ caller, g.callers.find? call = some caller →
    caller.verdict = none ∨ g.policy.windowAt now ≤ g.window

theorem ripe_perform (hp : g.Paired) (ht : g.Ready t) (h : g.Ripe now call)
    (hne : t.call? ≠ some call) : (g.perform (t.deed now)).1.Ripe now call := by
  intro caller hcaller
  cases hobserves : t.observes with
  | true =>
      -- Whoever decided the call has observed the window.
      rw [perform_turn hp ht hobserves]
      have hstays := act_window (g.roll now).1 now t
      rw [hstays.1, hstays.2, roll_policy hp, roll_window hp]
      exact Or.inr (Int.le_max_right _ _)
  | false =>
      rw [perform_collect hp hobserves] at hcaller ⊢
      rw [find?_act_of_ne g now hne] at hcaller
      have hstays := act_window g now t
      rw [hstays.1, hstays.2]
      exact h caller hcaller

/-- An event by which a turn is taken comes to what is done then, apart from the wardens. -/
theorem step_of_takes (hp : g.Paired) (htakes : t.Takes now g event)
    (hripe : ∀ c, t = .wake c → g.Ripe now c) :
    (g.step event).1.bare = (g.perform (t.deed now)).1.bare ∧
      (g.step event).2 = (g.perform (t.deed now)).2 := by
  cases htakes with
  | warden sleeps =>
      change (g.wardenWake _ now).1.bare = (g.roll now).1.bare ∧
        (g.wardenWake _ now).2 = (g.roll now).2
      unfold wardenWake
      rw [sleeps]
      exact ⟨rfl, rfl⟩
  | timer | verdict | arrival => exact ⟨rfl, rfl⟩
  | @told call caller there sent =>
      -- The window was observed when the call was decided, so the timer would find the same.
      rcases hripe call rfl caller there with hnone | hwindow
      · exact nomatch hnone ▸ sent
      · rcases Option.isSome_iff_exists.mp sent with ⟨v, hv⟩
        have houtcome : caller.outcome now = some v := by
          rw [Caller.outcome, hv, Option.some_or]
        change (g.collect call).1.bare = (g.wake call now).1.bare ∧
          (g.collect call).2 = (g.wake call now).2
        rw [collect_eq hp, wake_eq hp there, roll_of_le hwindow,
          settle_of_answer (·.verdict) there hv,
          settle_of_answer (·.outcome now) there houtcome]
        exact ⟨rfl, rfl⟩

/-- A schedule comes to the turns that are taken in it, by induction on the schedule. -/
theorem schedule_performs (hs : g.Sound) (hready : ∀ t ∈ ts, g.Ready t)
    (hapart : ts.Pairwise Turn.Apart) (hripe : ∀ call, .wake call ∈ ts → g.Ripe now call)
    (hschedule : Schedule now g ts events) :
    (g.run events).1.bare = (g.performs (ts.map (·.deed now))).1.bare ∧
      (g.run events).2 = (g.performs (ts.map (·.deed now))).2 := by
  -- Gates that differ in their wardens are ready for the same.
  have hready_bare : ∀ {g g' : Gate}, g.bare = g'.bare → ∀ {t : Turn}, g'.Ready t → g.Ready t :=
    fun hbare _ h => ready_congr (fun c _ => by rw [(fields_of_bare hbare).2.2.2.2.2]) h
  have hripe_bare : ∀ {g g' : Gate}, g.bare = g'.bare → ∀ {call : CallId},
      g'.Ripe now call → g.Ripe now call := by
    intro g g' hbare call h caller hcaller
    rcases fields_of_bare hbare with ⟨hpolicy, hwindow, -, -, -, hcallers⟩
    rw [hcallers] at hcaller
    rw [hpolicy, hwindow]
    exact h caller hcaller
  induction hschedule with
  | done => exact ⟨rfl, rfl⟩
  | @turn g t ts e es takes _ ih =>
      have hc := List.pairwise_cons.mp hapart
      have hfirst := hready t List.mem_cons_self
      have hstep := step_of_takes hs.toPaired takes fun call heq =>
        hripe call (heq ▸ List.mem_cons_self)
      have hrest := ih (step_sound hs e)
        (fun u hu => hready_bare hstep.1 (ready_perform hs.toPaired hfirst
          (hready u (List.mem_cons_of_mem _ hu)) (hc.1 u hu))) hc.2
        fun call hcall => hripe_bare hstep.1 (ripe_perform hs.toPaired hfirst
          (hripe call (List.mem_cons_of_mem _ hcall)) (hc.1 _ hcall).1)
      have hcongr := performs_congr hstep.1 (ts.map (·.deed now))
      rw [run_cons, List.map_cons, performs]
      exact ⟨hrest.1.trans hcongr.1, by rw [hstep.2, hrest.2, hcongr.2]⟩
  | @look g n ts es _ ih =>
      have hbare : (g.step (.wardenLook n)).1.bare = g.bare := (step_deed g (.wardenLook n)).1
      have hrest := ih (step_sound hs _) (fun u hu => hready_bare hbare (hready u hu)) hapart
        fun call hcall => hripe_bare hbare (hripe call hcall)
      have hcongr := performs_congr hbare (ts.map (·.deed now))
      exact ⟨hrest.1.trans hcongr.1, hrest.2.trans hcongr.2⟩

/-- What is taken by a call leaves the wardens there are as they are. -/
theorem wardens_of_perform (hp : g.Paired) (ht : g.Ready t) {n : Nat} {w : Warden}
    (hw : g.wardens[n]? = some w) : (g.perform (t.deed now)).1.wardens[n]? = some w := by
  have hact : ∀ k : Gate, k.wardens[n]? = some w → (k.act now t).1.wardens[n]? = some w := by
    intro k hk
    have hsettle : ∀ c answer, (k.settle c answer).1.wardens = k.wardens := by
      intro c answer
      unfold settle
      split
      next => rfl
      next => split <;> rfl
    cases t with
    | observe => exact hk
    | wake c | collect c =>
        unfold act
        rw [hsettle]
        exact hk
    | arrive c request ttl =>
        change (k.receive c request ttl now).1.wardens[n]? = some w
        unfold receive park watch
        split
        next => exact hk
        next =>
          split
          next => exact hk
          next =>
            -- A warden that is called is the last one, and so in nobody's place.
            simp only []
            split
            next => exact hk
            next =>
              rcases List.getElem?_eq_some_iff.mp hk with ⟨hn, -⟩
              rw [List.getElem?_append_left hn]
              exact hk
  cases hobserves : t.observes with
  | true =>
      rw [perform_turn hp ht hobserves]
      exact hact _ ((roll_wardens hp now).1 ▸ hw)
  | false =>
      rw [perform_collect hp hobserves]
      exact hact _ hw

/-- Turns can be taken one after the other, in the order in which they are given. -/
theorem exists_schedule (hs : g.Sound) (hready : ∀ t ∈ ts, g.Ready t)
    (hsleeps : Turn.observe ∈ ts →
      ∃ (n : Nat) (target : Instant), g.wardens[n]? = some (Warden.asleep target))
    (hapart : ts.Pairwise Turn.Apart) (now : Instant) : ∃ events, Schedule now g ts events := by
  induction ts generalizing g with
  | nil => exact ⟨[], .done⟩
  | cons t ts ih =>
      have hc := List.pairwise_cons.mp hapart
      have hfirst := hready t List.mem_cons_self
      have hothers : ∀ u ∈ ts, (g.perform (t.deed now)).1.Ready u := fun u hu =>
        ready_perform hs.toPaired hfirst (hready u (List.mem_cons_of_mem _ hu)) (hc.1 u hu)
      -- A call takes its turn by an event that is the deed, and disturbs no sleeping warden.
      have hcall : ∀ e, t.Takes now g e → (g.step e).1 = (g.perform (t.deed now)).1 →
          ∃ events, Schedule now g (t :: ts) events := by
        intro e htakes hstep
        have hsleeps' : Turn.observe ∈ ts →
            ∃ (n : Nat) (target : Instant),
              (g.step e).1.wardens[n]? = some (Warden.asleep target) := by
          intro hmem
          rcases hsleeps (List.mem_cons_of_mem _ hmem) with ⟨n, target, hn⟩
          exact ⟨n, target, hstep ▸ wardens_of_perform hs.toPaired hfirst hn⟩
        rcases ih (step_sound hs e) (fun u hu => hstep ▸ hothers u hu) hsleeps' hc.2 with
          ⟨events, hrest⟩
        exact ⟨e :: events, .turn htakes hrest⟩
      cases t with
      | observe =>
          rcases hsleeps List.mem_cons_self with ⟨n, target, hn⟩
          have htakes : Turn.observe.Takes now g (.wardenWake n now) := .warden hn
          have hbare := (step_of_takes hs.toPaired htakes fun c heq => nomatch heq).1
          have hcallers := (fields_of_bare hbare).2.2.2.2.2
          have hready' : ∀ u ∈ ts, (g.step (.wardenWake n now)).1.Ready u := fun u hu =>
            ready_congr (fun c _ => by rw [hcallers]) (hothers u hu)
          -- No other turn is one of a warden.
          rcases ih (step_sound hs _) hready' (fun hmem => absurd rfl (hc.1 _ hmem).1) hc.2 with
            ⟨events, hrest⟩
          exact ⟨_, .turn htakes hrest⟩
      | wake c => exact hcall _ .timer rfl
      | collect c => exact hcall _ .verdict rfl
      | arrive c request ttl => exact hcall _ .arrival rfl

/-- **Any order will do.** At every state of a gate and every reading of the clock, let a
    warden wake up, calls that wait wake up, and a call arrive. They can take their turns in
    whichever order, and whichever order it is, the gate ends with the same window, the same
    slots given away, the same line and the same calls that wait, and the same is noticed
    on the way: each call returns with the same verdict or goes on waiting. -/
theorem any_order_will_do (policy : Policy) (first now : Instant) (past : List Event)
    (ts us : List Turn) (hperm : ts.Perm us) :
    let g := ((start policy first).run past).1
    (∀ t ∈ ts, g.Fits t) → ts.Pairwise Turn.Apart →
      (∃ fs, Schedule now g us fs) ∧
      ∀ es fs, Schedule now g ts es → Schedule now g us fs →
        let a := g.run es
        let b := g.run fs
        a.1.window = b.1.window ∧ a.1.admitted = b.1.admitted ∧ a.1.closed = b.1.closed ∧
          a.1.line = b.1.line ∧ a.1.callers = b.1.callers ∧ a.2.Perm b.2 := by
  intro g hfits hapart
  have hs : g.Sound := sound_of_start policy first past
  have hapart' : us.Pairwise Turn.Apart := (hperm.pairwise_iff fun h => h.symm).mp hapart
  have hready : ∀ t ∈ ts, g.Ready t := fun t ht => ready_of_fits (hfits t ht)
  have hready' : ∀ t ∈ us, g.Ready t := fun t ht => hready t (hperm.mem_iff.mpr ht)
  have hripe : ∀ call, .wake call ∈ ts → g.Ripe now call := by
    intro call hcall caller hcaller
    cases hfits _ hcall with
    | wake there untold =>
        cases there.symm.trans hcaller
        exact Or.inl untold
  refine ⟨exists_schedule hs hready' (fun hmem => ?_) hapart' now, fun es fs hes hfs => ?_⟩
  · cases hfits _ (hperm.mem_iff.mpr hmem) with
    | observe sleeps => exact ⟨_, _, sleeps⟩
  · have hleft := schedule_performs hs hready hapart hripe hes
    have hright := schedule_performs hs hready' hapart'
      (fun call hcall => hripe call (hperm.mem_iff.mpr hcall)) hfs
    have hdeeds := performs_perm hperm hs.toPaired hready hapart now
    have hbare : (g.run es).1.bare = (g.run fs).1.bare := by
      rw [hleft.1, hright.1, hdeeds.1]
    rcases fields_of_bare hbare with ⟨-, hwindow, hadmitted, hclosed, hline, hcallers⟩
    refine ⟨hwindow, hadmitted, hclosed, hline, hcallers, ?_⟩
    rw [hleft.2, hright.2]
    exact hdeeds.2

/-- In the rush the second window begins for everybody at once: the time of one who waits is
    over, another one gets the slot, and a newcomer begins to wait, whether the warden comes
    first or last. -/
theorem any_order_will_do_in_rush :
    let past : List Event :=
      [.arrive 0 Rush.request (.ofSeconds 5) Instant.epoch,
        .arrive 1 Rush.request (.ofSeconds 1) Instant.epoch,
        .arrive 2 Rush.request (.ofSeconds 5) Instant.epoch, .wardenLook 0]
    let g := ((start Rush.policy Instant.epoch).run past).1
    let ts : List Turn := [.observe, .wake 1, .wake 2, .arrive 3 Rush.request (.ofSeconds 5)]
    let es : List Event := [.wardenWake 0 Rush.second, .collect 1, .wardenLook 0, .collect 2,
      .arrive 3 Rush.request (.ofSeconds 5) Rush.second]
    let fs : List Event := [.arrive 3 Rush.request (.ofSeconds 5) Rush.second,
      .wake 2 Rush.second, .wake 1 Rush.second, .wardenWake 0 Rush.second]
    (∀ t ∈ ts, g.Fits t) ∧ ts.Pairwise Turn.Apart ∧ Schedule Rush.second g ts es ∧
      Schedule Rush.second g ts.reverse fs ∧
      .returned 1 false ∈ (g.run es).2 ∧ .returned 2 true ∈ (g.run es).2 ∧
      (g.run es).1.line = (g.run fs).1.line ∧ (g.run es).2.Perm (g.run fs).2 := by
  intro past g ts es fs
  have hwarden : g.wardens[0]? = some (.asleep Rush.second) := by decide
  -- Those who wait in line, and how they stand once the warden has observed the window.
  have hfirst : g.callers.find? 1 =
      some ⟨⟨0, Instant.epoch, 0⟩, Rush.request.deadline (.ofSeconds 1), none⟩ := by decide
  have hsecond : g.callers.find? 2 =
      some ⟨⟨0, Instant.epoch, 1⟩, Rush.request.deadline (.ofSeconds 5), none⟩ := by decide
  have hdenied : (g.step (.wardenWake 0 Rush.second)).1.callers.find? 1 =
      some ⟨⟨0, Instant.epoch, 0⟩, Rush.request.deadline (.ofSeconds 1), some false⟩ := by decide
  have hgranted : (g.run [.wardenWake 0 Rush.second, .collect 1, .wardenLook 0]).1.callers.find? 2 =
      some ⟨⟨0, Instant.epoch, 1⟩, Rush.request.deadline (.ofSeconds 5), some true⟩ := by decide
  have hfits : ∀ t ∈ ts, g.Fits t := by
    intro t ht
    simp only [ts, List.mem_cons, List.not_mem_nil, or_false] at ht
    rcases ht with rfl | rfl | rfl | rfl
    · exact .observe hwarden
    · exact .wake hfirst rfl
    · exact .wake hsecond rfl
    · exact .arrive (by decide)
  have hapart : ts.Pairwise Turn.Apart := by decide
  have hes : Schedule Rush.second g ts es :=
    .turn (.warden hwarden) <| .turn (.told hdenied rfl) <| .look <|
      .turn (.told hgranted rfl) <| .turn .arrival .done
  have hasleep : (g.run [.arrive 3 Rush.request (.ofSeconds 5) Rush.second, .wake 2 Rush.second,
      .wake 1 Rush.second]).1.wardens[0]? = some (.asleep Rush.second) := by decide
  have hfs : Schedule Rush.second g ts.reverse fs :=
    .turn .arrival <| .turn .timer <| .turn .timer <| .turn (.warden hasleep) .done
  have hsame := (any_order_will_do Rush.policy Instant.epoch Rush.second past ts ts.reverse
    ts.reverse_perm.symm hfits hapart).2 es fs hes hfs
  exact ⟨hfits, hapart, hes, hfs, by decide, by decide, hsame.2.2.2.1, hsame.2.2.2.2.2⟩

end Gate

end Turnstile
