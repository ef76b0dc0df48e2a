import Turnstile.Proofs.Gate.Passage

/-!
# Gates without Their Wardens

Whoever observes the window, the gate that has observed it is the same. A warden does
nothing else, and it depends on the wardens alone when it does. So a run can be told
without them: as the row of what was done to the gate apart from its wardens, where the
rollover of a warden stands beside the arrivals and the wake-ups of calls.

Two runs are compared by their deeds. This leaves out what has to differ between them and
what nobody at the gate can see: which call had a warden called, and when the warden had a
look.

## Main definitions

* `Deed`: What can be done to a gate apart from its wardens.
* `Gate.bare`: The gate apart from its wardens.
* `Gate.perform`, `Gate.performs`: One deed, and a row of deeds.
* `Gate.deed?`, `Gate.deeds`: What an event does, and what a run does.
* `Minute`: A deed, what came of it, and how many waited after it.
* `Gate.minutes`, `Gate.minutesOf`: The minutes of a row of deeds, and of a run.

## Theorems

* `fields_of_bare`: What two gates share that differ in their wardens only.
* `roll_bare`, `perform_bare`: Deeds neither see the wardens nor depend on them.
* `step_deed`, `run_deeds`: Apart from the wardens, an event and a run come to their deeds.
* `perform_sound`, `performs_sound`: Deeds keep a gate sound.
* `minutes_append`: Minutes of one row and then of another.
* `minutesOf_eq`: The minutes of a run are those of its deeds.
-/

namespace Turnstile

/-- What can be done to a gate apart from its wardens. -/
inductive Deed where
  /-- Somebody observes the window. -/
  | rollover (now : Instant)
  /-- A call arrives with a request and a limit on the time it may wait. -/
  | arrive (call : CallId) (request : Request) (ttl : Span) (now : Instant)
  /-- The timer of a waiting call goes off. -/
  | wake (call : CallId) (now : Instant)
  /-- A call looks for the verdict it was sent. -/
  | collect (call : CallId)
  /-- A waiting call is given up by its caller. -/
  | drop (call : CallId)
  /-- The gate is closed. -/
  | close
deriving DecidableEq

/-- What is put down of a deed: what came of it, and how many of each priority waited when
    it was done. -/
structure Minute where
  /-- The deed. -/
  deed : Deed
  /-- What came of it. -/
  notices : List Notice
  /-- The numbers of those who wait, after it. -/
  counts : Table Priority Nat

/-- The call whose deed it is, if it is that of a call. -/
def Deed.call? : Deed → Option CallId
  | .arrive call .. => some call
  | .wake call _ => some call
  | .collect call => some call
  | .drop call => some call
  | .rollover _ => none
  | .close => none

namespace Gate

/-- The gate apart from its wardens. -/
def bare (g : Gate) : Gate :=
  { g with wardens := [], watched := false }

/-- One deed. -/
def perform (g : Gate) : Deed → Gate × List Notice
  | .rollover now => g.roll now
  | .arrive call request ttl now => g.arrive call request ttl now
  | .wake call now => g.wake call now
  | .collect call => g.collect call
  | .drop call => (g.drop call, [])
  | .close => g.close

/-- A row of deeds. -/
def performs (g : Gate) : List Deed → Gate × List Notice
  | [] => (g, [])
  | d :: ds => (((g.perform d).1.performs ds).1, (g.perform d).2 ++ ((g.perform d).1.performs ds).2)

/-- What an event does to the gate apart from its wardens. A warden that is not asleep
    does not observe the window. -/
def deed? (g : Gate) : Event → Option Deed
  | .arrive call request ttl now => some (.arrive call request ttl now)
  | .wake call now => some (.wake call now)
  | .collect call => some (.collect call)
  | .drop call => some (.drop call)
  | .wardenWake n now =>
    match g.wardens[n]? with
    | some (.asleep _) => some (.rollover now)
    | _ => none
  | .wardenLook _ => none
  | .wardenLost _ => none
  | .close => some .close
  | .read => none

/-- What a run does to the gate apart from its wardens. -/
def deeds (g : Gate) : List Event → List Deed
  | [] => []
  | e :: es => (g.deed? e).toList ++ (g.step e).1.deeds es

/-- The minutes of a row of deeds. -/
def minutes (g : Gate) : List Deed → List Minute
  | [] => []
  | d :: ds => ⟨d, (g.perform d).2, (g.perform d).1.counts⟩ :: (g.perform d).1.minutes ds

/-- The minutes of a run, taken from its own steps; what the wardens do among themselves is
    not put down. -/
def minutesOf (g : Gate) : List Event → List Minute
  | [] => []
  | e :: es =>
    ((g.deed? e).map fun d => ⟨d, (g.step e).2, (g.step e).1.counts⟩).toList ++
      (g.step e).1.minutesOf es

variable {g h : Gate}

/-- Two gates that are the same apart from their wardens agree in all other fields. -/
theorem fields_of_bare (hbare : g.bare = h.bare) :
    g.policy = h.policy ∧ g.window = h.window ∧ g.admitted = h.admitted ∧ g.closed = h.closed ∧
      g.line = h.line ∧ g.callers = h.callers := by
  injection hbare with hpolicy hwindow hadmitted hline hcallers _ _ hclosed
  exact ⟨hpolicy, hwindow, hadmitted, hclosed, hline, hcallers⟩

theorem send?_bare (g : Gate) (call : CallId) (verdict : Bool) :
    g.bare.send? call verdict = (g.send? call verdict).map bare := by
  unfold send?
  rw [Option.map_map]
  rfl

theorem send_bare (g : Gate) (call : CallId) (verdict : Bool) :
    g.bare.send call verdict = (g.send call verdict).bare := by
  unfold send
  rw [send?_bare]
  cases g.send? call verdict <;> rfl

/-- The loop that promotes does not look at the wardens. -/
theorem promote_bare (fuel : Nat) (now : Instant) (g : Gate) :
    promote fuel now g.bare = ((promote fuel now g).1.bare, (promote fuel now g).2) := by
  induction fuel generalizing g with
  | zero => rfl
  | succ fuel ih =>
      have hquota : g.bare.hasQuota = g.hasQuota := rfl
      have hline : g.bare.line = g.line := rfl
      rw [promote, promote, hquota, hline]
      split
      next =>
        split
        next => rfl
        next place waiter line hnext =>
          -- Taking the first out of line and leaving the wardens out are done in any order.
          have hfirst : { g.bare with line } = { g with line : Gate }.bare := rfl
          simp only [hfirst, send_bare, send?_bare]
          split
          next => simp only [ih]
          next =>
            cases hsend : { g with line : Gate }.send? waiter.call true with
            | none => simp only [Option.map_none, ih]
            | some told =>
                have hslot : { told.bare with admitted := told.bare.admitted + 1 } =
                    { told with admitted := told.admitted + 1 : Gate }.bare := rfl
                simp only [Option.map_some, hslot, ih]
      next => rfl

theorem roll_bare (g : Gate) (now : Instant) :
    g.bare.roll now = ((g.roll now).1.bare, (g.roll now).2) := by
  unfold roll
  simp only [show g.bare.policy = g.policy from rfl, show g.bare.window = g.window from rfl,
    show g.bare.line = g.line from rfl]
  split
  next => rfl
  next =>
    exact promote_bare g.line.size now { g with window := g.policy.windowAt now, admitted := 0 }

theorem finish_bare (g : Gate) (call : CallId) (place : Place) :
    g.bare.finish call place = (g.finish call place).bare :=
  rfl

theorem watch_bare (g : Gate) : g.watch.bare = g.bare := by
  unfold watch
  split <;> rfl

theorem park_bare (g : Gate) (call : CallId) (request : Request) (deadline : Instant) :
    (g.bare.park call request deadline).bare = (g.park call request deadline).bare := by
  unfold park
  simp only [watch_bare]
  rfl

theorem arrive_bare (g : Gate) (call : CallId) (request : Request) (ttl : Span)
    (now : Instant) :
    (g.bare.arrive call request ttl now).1.bare = (g.arrive call request ttl now).1.bare ∧
      (g.bare.arrive call request ttl now).2 = (g.arrive call request ttl now).2 := by
  unfold arrive
  simp only [show g.bare.callers = g.callers from rfl, roll_bare,
    show ∀ k : Gate, k.bare.closed = k.closed from fun _ => rfl,
    show ∀ k : Gate, k.bare.hasQuota = k.hasQuota from fun _ => rfl]
  split
  next => exact ⟨rfl, rfl⟩
  next =>
    split
    next => exact ⟨rfl, rfl⟩
    next =>
      split
      next => exact ⟨rfl, rfl⟩
      next => exact ⟨park_bare _ _ _ _, rfl⟩

theorem wake_bare (g : Gate) (call : CallId) (now : Instant) :
    g.bare.wake call now = ((g.wake call now).1.bare, (g.wake call now).2) := by
  unfold wake
  simp only [show g.bare.callers = g.callers from rfl, roll_bare,
    show ∀ k : Gate, k.bare.callers = k.callers from fun _ => rfl,
    show ∀ k : Gate, k.bare.line = k.line from fun _ => rfl, finish_bare]
  split
  next =>
    split
    next => rfl
    next =>
      split
      next => rfl
      next => split <;> rfl
  next => rfl

theorem collect_bare (g : Gate) (call : CallId) :
    g.bare.collect call = ((g.collect call).1.bare, (g.collect call).2) := by
  unfold collect
  simp only [show g.bare.callers = g.callers from rfl, show g.bare.line = g.line from rfl,
    finish_bare]
  split
  next => rfl
  next => split <;> rfl

theorem drop_bare (g : Gate) (call : CallId) : g.bare.drop call = (g.drop call).bare := by
  unfold drop
  simp only [show g.bare.callers = g.callers from rfl, finish_bare]
  split <;> rfl

theorem close_bare (g : Gate) :
    g.bare.close = ((g.close).1.bare, (g.close).2) := by
  have hsends : ∀ (calls : List CallId) (k : Gate),
      calls.foldl (fun g call => g.send call false) k.bare =
        (calls.foldl (fun g call => g.send call false) k).bare := by
    intro calls
    induction calls with
    | nil => exact fun _ => rfl
    | cons call calls ih =>
        intro k
        rw [List.foldl_cons, List.foldl_cons, send_bare, ih]
  unfold close
  simp only [show g.bare.closed = g.closed from rfl, show g.bare.line = g.line from rfl]
  split
  next => rfl
  next =>
    exact Prod.ext (hsends _ { g with closed := true, line := g.line.clear }) rfl

/-- A deed neither sees the wardens nor depends on them. -/
theorem perform_bare (g : Gate) (d : Deed) :
    (g.bare.perform d).1.bare = (g.perform d).1.bare ∧
      (g.bare.perform d).2 = (g.perform d).2 := by
  -- All deeds but arrivals, which may call a warden, commute with leaving the wardens out.
  have hsame : ∀ r k : Gate × List Notice, r = (k.1.bare, k.2) →
      r.1.bare = k.1.bare ∧ r.2 = k.2 := by
    rintro _ k rfl
    exact ⟨rfl, rfl⟩
  cases d with
  | rollover now => exact hsame _ _ (roll_bare g now)
  | arrive call request ttl now => exact arrive_bare g call request ttl now
  | wake call now => exact hsame _ _ (wake_bare g call now)
  | collect call => exact hsame _ _ (collect_bare g call)
  | drop call => exact hsame _ _ (Prod.ext (drop_bare g call) rfl)
  | close => exact hsame _ _ (close_bare g)

theorem perform_congr (hbare : g.bare = h.bare) (d : Deed) :
    (g.perform d).1.bare = (h.perform d).1.bare ∧ (g.perform d).2 = (h.perform d).2 := by
  have hg := perform_bare g d
  rw [hbare] at hg
  exact ⟨hg.1.symm.trans (perform_bare h d).1, hg.2.symm.trans (perform_bare h d).2⟩

/-- Gates that differ in their wardens only stay so in a row of deeds, and what is noticed is
    the same, by induction on the row. -/
theorem performs_congr (hbare : g.bare = h.bare) (ds : List Deed) :
    (g.performs ds).1.bare = (h.performs ds).1.bare ∧
      (g.performs ds).2 = (h.performs ds).2 := by
  induction ds generalizing g h with
  | nil => exact ⟨hbare, rfl⟩
  | cons d ds ih =>
      have hfirst := perform_congr hbare d
      have hrest := ih hfirst.1
      simp only [performs]
      exact ⟨hrest.1, by rw [hfirst.2, hrest.2]⟩

theorem performs_append (g : Gate) (ds fs : List Deed) :
    g.performs (ds ++ fs) =
      (((g.performs ds).1.performs fs).1,
        (g.performs ds).2 ++ ((g.performs ds).1.performs fs).2) := by
  induction ds generalizing g with
  | nil => rfl
  | cons d ds ih => simp only [List.cons_append, performs, ih, List.append_assoc]

/-- An event is its deed, if it has one, and otherwise nothing apart from the wardens. -/
theorem step_deed (g : Gate) (e : Event) :
    (g.step e).1.bare = (g.performs (g.deed? e).toList).1.bare ∧
      (g.step e).2 = (g.performs (g.deed? e).toList).2 := by
  cases e with
  | arrive | wake | collect | drop | close =>
      exact ⟨rfl, (List.append_nil _).symm⟩
  | read => exact ⟨rfl, rfl⟩
  | wardenLook n =>
      refine ⟨?_, rfl⟩
      change (g.wardenLook n).bare = g.bare
      unfold wardenLook
      split
      · split <;> rfl
      · split <;> rfl
      · rfl
  | wardenLost n =>
      refine ⟨?_, rfl⟩
      change (g.wardenLost n).bare = g.bare
      unfold wardenLost
      split <;> rfl
  | wardenWake n now =>
      simp only [step, wardenWake, deed?]
      cases hwarden : g.wardens[n]? with
      | none => exact ⟨rfl, rfl⟩
      | some warden =>
          cases warden with
          | called | ready => exact ⟨rfl, rfl⟩
          | asleep target => exact ⟨rfl, (List.append_nil _).symm⟩

/-- Apart from the wardens a run is the row of its deeds, by induction on its events. -/
theorem run_deeds (g : Gate) (es : List Event) :
    (g.run es).1.bare = (g.performs (g.deeds es)).1.bare ∧
      (g.run es).2 = (g.performs (g.deeds es)).2 := by
  induction es generalizing g with
  | nil => exact ⟨rfl, rfl⟩
  | cons e es ih =>
      have hfirst := step_deed g e
      have hrest := performs_congr hfirst.1 ((g.step e).1.deeds es)
      rw [run_cons, deeds, performs_append]
      exact ⟨(ih _).1.trans hrest.1, by rw [hfirst.2, (ih _).2, hrest.2]⟩

/-- Deeds keep a gate sound. -/
theorem perform_sound (h : g.Sound) (d : Deed) : (g.perform d).1.Sound := by
  cases d with
  | rollover now => exact sound_roll h now
  | arrive call request ttl now => exact step_sound h (.arrive call request ttl now)
  | wake call now => exact step_sound h (.wake call now)
  | collect call => exact step_sound h (.collect call)
  | drop call => exact step_sound h (.drop call)
  | close => exact step_sound h .close

theorem performs_sound (h : g.Sound) (ds : List Deed) : (g.performs ds).1.Sound := by
  induction ds generalizing g with
  | nil => exact h
  | cons d ds ih => exact ih (perform_sound h d)

theorem minutes_congr (hbare : g.bare = h.bare) (ds : List Deed) : g.minutes ds = h.minutes ds := by
  induction ds generalizing g h with
  | nil => rfl
  | cons d ds ih =>
      have hfirst := perform_congr hbare d
      have hline := (fields_of_bare hfirst.1).2.2.2.2.1
      rw [minutes, minutes, ih hfirst.1, hfirst.2, counts, counts, hline]

theorem minutes_append (g : Gate) (ds fs : List Deed) :
    g.minutes (ds ++ fs) = g.minutes ds ++ (g.performs ds).1.minutes fs := by
  induction ds generalizing g with
  | nil => rfl
  | cons d ds ih => simp only [List.cons_append, minutes, performs, ih]

/-- The minutes of a run are those of its deeds, by induction on its events. -/
theorem minutesOf_eq (g : Gate) (es : List Event) : g.minutesOf es = g.minutes (g.deeds es) := by
  induction es generalizing g with
  | nil => rfl
  | cons e es ih =>
      have hstep := step_deed g e
      rw [minutesOf, deeds, minutes_append, ih, minutes_congr hstep.1]
      cases hdeed : g.deed? e with
      | none => rfl
      | some d =>
          rw [hdeed] at hstep
          have hline : (g.step e).1.line = (g.perform d).1.line :=
            (fields_of_bare hstep.1).2.2.2.2.1
          have hnotices : (g.step e).2 = (g.perform d).2 :=
            hstep.2.trans (List.append_nil _)
          rw [Option.map_some, Option.toList_some, Option.toList_some, minutes, minutes, hnotices,
            counts, counts, hline]

theorem deeds_append (g : Gate) (es fs : List Event) :
    g.deeds (es ++ fs) = g.deeds es ++ (g.run es).1.deeds fs := by
  induction es generalizing g with
  | nil => rfl
  | cons e es ih => rw [List.cons_append, deeds, deeds, ih, run_cons, List.append_assoc]

end Gate

end Turnstile
