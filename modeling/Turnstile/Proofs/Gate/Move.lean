import Turnstile.Proofs.Gate.Serving

/-!
# What an Event Can Do

The step function of a gate, turned around. `Move` lists the ways in which an event
can change a gate, one constructor a way, with the conditions under which it is the
one taken. `step_move` says that each step is a move, and is the only place where the
step function is unfolded: an invariant is a case analysis over moves.

Events with a reading observe the window first, and then act on the gate that has
observed it. So `(g.roll now).1` stands for the gate in nearly every condition.

## Main definitions

* `Gate.Move`: The ways in which an event can change a gate.
* `Event.reading?`: The reading of the clock that an event carries.

## Theorems

* `step_move`: Every step is a move.
-/

namespace Turnstile

/-- The reading of the clock that comes with an event. -/
def Event.reading? : Event → Option Instant
  | .arrive _ _ _ now => some now
  | .wake _ now => some now
  | .wardenWake _ now => some now
  | _ => none

namespace Gate

/-- The ways in which an event can change a gate. -/
inductive Move (g : Gate) : Event → Gate → List Notice → Prop where
  /-- The event concerns nobody; if it gives up a call, the call is not there. -/
  | nothing (e : Event) (absent : ∀ call, e = .drop call → g.callers.find? call = none) :
      Move g e g []
  /-- An arriving call takes a slot. -/
  | slot {call : CallId} {request : Request} {ttl : Span} {now : Instant}
      (new : g.callers.find? call = none) (isOpen : (g.roll now).1.closed = false)
      (quota : (g.roll now).1.hasQuota = true) :
      Move g (.arrive call request ttl now)
        { (g.roll now).1 with admitted := (g.roll now).1.admitted + 1 }
        ((g.roll now).2 ++ [.granted call, .returned call true])
  /-- An arriving call is refused because the gate is closed. -/
  | shut {call : CallId} {request : Request} {ttl : Span} {now : Instant}
      (new : g.callers.find? call = none) (isClosed : (g.roll now).1.closed = true) :
      Move g (.arrive call request ttl now) (g.roll now).1
        ((g.roll now).2 ++ [.returned call false])
  /-- An arriving call finds no slot and has no time to wait. -/
  | late {call : CallId} {request : Request} {ttl : Span} {now : Instant}
      (new : g.callers.find? call = none) (isOpen : (g.roll now).1.closed = false)
      (noQuota : (g.roll now).1.hasQuota = false)
      (noTime : ttl.isZero = true ∨ request.deadline ttl ≤ now) :
      Move g (.arrive call request ttl now) (g.roll now).1
        ((g.roll now).2 ++ [.returned call false])
  /-- An arriving call finds no slot and begins to wait. -/
  | park {call : CallId} {request : Request} {ttl : Span} {now : Instant}
      (new : g.callers.find? call = none) (isOpen : (g.roll now).1.closed = false)
      (noQuota : (g.roll now).1.hasQuota = false) (someTime : ttl.isZero = false)
      (inTime : now < request.deadline ttl) :
      Move g (.arrive call request ttl now)
        ((g.roll now).1.park call request (request.deadline ttl))
        ((g.roll now).2 ++ [.parked call])
  /-- A call that wakes up finds itself decided. -/
  | decided {call : CallId} {now : Instant} {caller : Caller}
      (there : (g.roll now).1.callers.find? call = some caller)
      (out : (g.roll now).1.line.contains caller.place = false) :
      Move g (.wake call now) ((g.roll now).1.finish call caller.place)
        ((g.roll now).2 ++ [.returned call (caller.verdict.getD false)])
  /-- A call that wakes up finds itself in line, but its time over. -/
  | expire {call : CallId} {now : Instant} {caller : Caller}
      (there : (g.roll now).1.callers.find? call = some caller)
      (waits : (g.roll now).1.line.contains caller.place = true)
      (timeUp : caller.deadline ≤ now) :
      Move g (.wake call now) ((g.roll now).1.finish call caller.place)
        ((g.roll now).2 ++ [.returned call false])
  /-- A call that wakes up goes on waiting. -/
  | goOn {call : CallId} {now : Instant}
      (waits : ∀ caller, (g.roll now).1.callers.find? call = some caller →
        (g.roll now).1.line.contains caller.place = true ∧ now < caller.deadline) :
      Move g (.wake call now) (g.roll now).1 (g.roll now).2
  /-- A call sees the verdict that was sent to it, or that none can come any more. -/
  | collect {call : CallId} {caller : Caller} (there : g.callers.find? call = some caller)
      (ready : caller.verdict.isSome = true ∨ g.line.contains caller.place = false) :
      Move g (.collect call) (g.finish call caller.place)
        [.returned call (caller.verdict.getD false)]
  /-- A call is given up. -/
  | drop {call : CallId} {caller : Caller} (there : g.callers.find? call = some caller) :
      Move g (.drop call) (g.finish call caller.place) []
  /-- A warden wakes up. -/
  | wardenWake {n : Nat} {target now : Instant}
      (sleeps : g.wardens[n]? = some (.asleep target)) :
      Move g (.wardenWake n now)
        { (g.roll now).1 with wardens := (g.roll now).1.wardens.set n .ready } (g.roll now).2
  /-- A warden has a look, and touches nothing but the wardens. -/
  | wardenLook {n : Nat} {wardens : List Warden} {watched : Bool}
      (look : g.wardenLook n = { g with wardens, watched }) :
      Move g (.wardenLook n) { g with wardens, watched } []
  /-- A warden is lost, and touches nothing but the wardens. -/
  | wardenLost {n : Nat} {wardens : List Warden} {watched : Bool}
      (lost : g.wardenLost n = { g with wardens, watched }) :
      Move g (.wardenLost n) { g with wardens, watched } []
  /-- The gate closes. -/
  | close (isOpen : g.closed = false) : Move g .close g.close.1 g.close.2

theorem arrive_move (g : Gate) (call : CallId) (request : Request) (ttl : Span)
    (now : Instant) :
    g.Move (.arrive call request ttl now) (g.arrive call request ttl now).1
      (g.arrive call request ttl now).2 := by
  unfold arrive
  by_cases hthere : g.callers.contains call = true
  · rw [if_pos hthere]
    exact .nothing _ fun _ heq => Event.noConfusion heq
  rw [if_neg hthere]
  -- The tests come in the order of the arrival: a slot, then the gate, then the time.
  have hnew : g.callers.find? call = none := by
    rw [Table.contains, Option.not_isSome_iff_eq_none] at hthere
    exact hthere
  simp only []
  by_cases hslot : (!(g.roll now).1.closed && (g.roll now).1.hasQuota) = true
  · rw [if_pos hslot]
    rw [Bool.and_eq_true, Bool.not_eq_true'] at hslot
    exact .slot hnew hslot.1 hslot.2
  rw [if_neg hslot]
  by_cases hclosed : (g.roll now).1.closed = true
  · rw [if_pos (by rw [hclosed, Bool.true_or, Bool.true_or])]
    exact .shut hnew hclosed
  have hopen := Bool.eq_false_iff.mpr hclosed
  have hquota : (g.roll now).1.hasQuota = false := by
    rw [hopen, Bool.not_false, Bool.true_and] at hslot
    exact Bool.eq_false_iff.mpr hslot
  rw [hopen, Bool.false_or]
  by_cases htime : (ttl.isZero || decide (request.deadline ttl ≤ now)) = true
  · rw [if_pos htime]
    rw [Bool.or_eq_true, decide_eq_true_iff] at htime
    exact .late hnew hopen hquota htime
  · rw [if_neg htime]
    rw [Bool.or_eq_true, decide_eq_true_iff, not_or] at htime
    exact .park hnew hopen hquota (Bool.eq_false_iff.mpr htime.1) (Int.not_le.mp htime.2)

theorem wake_move (g : Gate) (call : CallId) (now : Instant) :
    g.Move (.wake call now) (g.wake call now).1 (g.wake call now).2 := by
  unfold wake
  by_cases hthere : g.callers.contains call = true
  · rw [if_pos hthere]
    simp only []
    cases hfind : (g.roll now).1.callers.find? call with
    | none => exact .goOn fun caller hcaller => nomatch hfind.symm.trans hcaller
    | some caller =>
        simp only []
        -- The line is asked before the clock, so a decided call is never too late.
        by_cases hwaits : (g.roll now).1.line.contains caller.place = true
        · rw [if_neg (by rw [hwaits]; exact Bool.false_ne_true)]
          by_cases hover : caller.deadline ≤ now
          · rw [if_pos hover]
            exact .expire hfind hwaits hover
          · rw [if_neg hover]
            refine .goOn fun other hother => ?_
            cases hfind.symm.trans hother
            exact ⟨hwaits, Int.not_le.mp hover⟩
        · have hout := Bool.eq_false_iff.mpr hwaits
          rw [if_pos (by rw [hout]; rfl)]
          exact .decided hfind hout
  · rw [if_neg hthere]
    exact .nothing _ fun _ heq => Event.noConfusion heq

theorem collect_move (g : Gate) (call : CallId) :
    g.Move (.collect call) (g.collect call).1 (g.collect call).2 := by
  unfold collect
  cases hfind : g.callers.find? call with
  | none => exact .nothing _ fun _ heq => Event.noConfusion heq
  | some caller =>
      simp only []
      by_cases hwaits : (caller.verdict.isNone && g.line.contains caller.place) = true
      · rw [if_pos hwaits]
        exact .nothing _ fun _ heq => Event.noConfusion heq
      · rw [if_neg hwaits]
        refine .collect hfind ?_
        cases hverdict : caller.verdict with
        | some verdict => exact Or.inl rfl
        | none =>
            rw [hverdict, Option.isNone_none, Bool.true_and, Bool.not_eq_true] at hwaits
            exact Or.inr hwaits

theorem wardenWake_move (g : Gate) (n : Nat) (now : Instant) :
    g.Move (.wardenWake n now) (g.wardenWake n now).1 (g.wardenWake n now).2 := by
  unfold wardenWake
  split
  next target hsleeps => exact .wardenWake hsleeps
  next => exact .nothing _ fun _ heq => Event.noConfusion heq

theorem wardenLook_move (g : Gate) (n : Nat) :
    g.Move (.wardenLook n) (g.wardenLook n) [] := by
  have hframe : g.wardenLook n =
      { g with wardens := (g.wardenLook n).wardens, watched := (g.wardenLook n).watched } := by
    unfold wardenLook
    split
    · split <;> rfl
    · split <;> rfl
    · rfl
  rw [hframe]
  exact .wardenLook hframe

theorem wardenLost_move (g : Gate) (n : Nat) :
    g.Move (.wardenLost n) (g.wardenLost n) [] := by
  have hframe : g.wardenLost n =
      { g with wardens := (g.wardenLost n).wardens, watched := (g.wardenLost n).watched } := by
    unfold wardenLost
    split <;> rfl
  rw [hframe]
  exact .wardenLost hframe

/-- Every step is a move. -/
theorem step_move (g : Gate) (e : Event) : g.Move e (g.step e).1 (g.step e).2 := by
  cases e with
  | arrive call request ttl now => exact arrive_move g call request ttl now
  | wake call now => exact wake_move g call now
  | collect call => exact collect_move g call
  | drop call =>
      change g.Move (.drop call) (g.drop call) []
      unfold drop
      cases hfind : g.callers.find? call with
      | none =>
          refine .nothing _ fun other heq => ?_
          cases heq
          exact hfind
      | some caller => exact .drop hfind
  | wardenWake n now => exact wardenWake_move g n now
  | wardenLook n => exact wardenLook_move g n
  | wardenLost n => exact wardenLost_move g n
  | close =>
      by_cases hclosed : g.closed = true
      · change g.Move .close g.close.1 g.close.2
        rw [close, if_pos hclosed]
        exact .nothing _ fun _ heq => Event.noConfusion heq
      · exact .close (Bool.eq_false_iff.mpr hclosed)
  | read => exact .nothing _ fun _ heq => Event.noConfusion heq

end Gate

end Turnstile
