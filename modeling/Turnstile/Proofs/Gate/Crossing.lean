import Turnstile.Proofs.Gate.Deed
import Turnstile.Proofs.Gate.Settling
import Turnstile.Proofs.Gate.Task

/-!
# What Can Be Done in Any Order

Once the window is observed, nobody at a gate stands in the way of anybody else. A call
that wakes up ends or goes on waiting by what is known of it alone: the verdict that it was
sent, or else its deadline. In particular it frees no slot when it leaves the line, so an
arrival that comes after it finds what it would have found before it. The arrival takes a
slot or joins the line, and neither concerns those who are there.

So wake-ups and arrivals are taken apart into the part that observes the window and the
part that does not, `Gate.settle` and `Gate.receive`. The second parts are exchanged
freely. As to the first, a call may end before the window is observed or after it, unless it
is among those who are served.

## Main definitions

* `Caller.outcome`: What a call returns that wakes up in an observed window, if it does.
* `Gate.settle`: A call ends if it has an answer.
* `Gate.receive`: An arrival in an observed window.
* `Crosses`: Two things can be done in any order and come to the same.

## Theorems

* `serves_unique`: A head of the line is served in one way.
* `roll_finish`, `finish_comm`, `finish_park`: A call ends before or after the window is
  observed, another call ends, and a third one begins to wait.
* `wake_eq`, `collect_eq`, `arrive_eq`: Events of calls in terms of `settle` and `receive`.
* `settle_finish`, `receive_finish`: Neither depends on whether another call has ended.
* `crosses_settle_settle`, `crosses_settle_receive`: They can be done in any order.
-/

namespace Turnstile

/-- What a call returns whose timer goes off when the window has been observed; `none` if
    it goes on waiting. -/
def Caller.outcome (caller : Caller) (now : Instant) : Option Bool :=
  caller.verdict.or (if caller.deadline ≤ now then some false else none)

namespace Gate

/-- A call ends if it has an answer, and is left alone otherwise. -/
def settle (g : Gate) (call : CallId) (answer : Caller → Option Bool) : Gate × List Notice :=
  match g.callers.find? call with
  | none => (g, [])
  | some caller =>
    match answer caller with
    | none => (g, [])
    | some v => (g.finish call caller.place, [.returned call v])

/-- A call arrives when the window has been observed. -/
def receive (g : Gate) (call : CallId) (request : Request) (ttl : Span) (now : Instant) :
    Gate × List Notice :=
  if !g.closed && g.hasQuota then
    ({ g with admitted := g.admitted + 1 }, [.granted call, .returned call true])
  else if g.closed || ttl.isZero || request.deadline ttl ≤ now then
    (g, [.returned call false])
  else (g.park call request (request.deadline ttl), [.parked call])

variable {g g' g'' : Gate} {verdict : Waiter → Bool} {entries : List (Place × Waiter)}
  {notices notices' : List Notice} {call other : CallId} {caller : Caller}

/-- A head of the line is served in one way. -/
theorem serves_unique (hp : g.Paired) (h : Serves verdict entries g g' notices)
    (h' : Serves verdict entries g g'' notices') : g' = g'' := by
  have hline : g'.line = g''.line := by
    refine Line.eq_of_toList_eq (h.line_exact hp.exact) (h'.line_exact hp.exact) ?_ ?_
    · exact List.append_cancel_left (h.toList_eq.symm.trans h'.toList_eq)
    · rw [h.nextTicket_eq, h'.nextTicket_eq]
  have hcallers : g'.callers = g''.callers := by
    refine Table.eq_of_find?_eq fun c => ?_
    by_cases hc : ∃ e ∈ entries, e.2.call = c
    · rcases hc with ⟨e, he, rfl⟩
      rw [h.told.told e he, h'.told.told e he]
    · have hnone : ∀ e ∈ entries, e.2.call ≠ c := fun e he heq => hc ⟨e, he, heq⟩
      rw [h.told.untold c hnone, h'.told.untold c hnone]
  rw [h.frame, h'.frame, hline, hcallers, h.admitted_eq, h'.admitted_eq]

/-- The served are served as well without some of those who are not. -/
theorem servedOf_filter (keep : Place × Waiter → Bool) (now : Instant) (slots : Nat)
    (l : List (Place × Waiter)) (h : ∀ e ∈ servedOf now slots l, keep e = true) :
    servedOf now slots (l.filter keep) = servedOf now slots l := by
  induction l generalizing slots with
  | nil => rfl
  | cons e rest ih =>
      cases slots with
      | zero => rw [servedOf_zero, servedOf_zero]
      | succ slots =>
          rw [servedOf] at h
          rw [List.filter_cons, if_pos (h e List.mem_cons_self), servedOf, servedOf,
            ih _ fun x hx => h x (List.mem_cons_of_mem _ hx)]

/-- A call that is not among those served ends before or after. -/
theorem serves_finish (hexact : g.line.Exact) (h : Serves verdict entries g g' notices)
    {place : Place} (hcall : ∀ e ∈ entries, e.2.call ≠ call) (hplace : ∀ e ∈ entries, e.1 ≠ place) :
    Serves verdict entries (g.finish call place) (g'.finish call place) notices where
  toList_eq := by
    change (g.line.leave place).toList = entries ++ (g'.line.leave place).toList
    rw [Line.toList_leave, Line.toList_leave, h.toList_eq, eraseKey, List.filter_append]
    refine congrArg (· ++ _) (List.filter_eq_self.mpr fun e he => bne_iff_ne.mpr fun heq => ?_)
    exact hplace e he (Std.LawfulEqOrd.eq_of_compare heq)
  nextTicket_eq := by
    change (g'.line.leave place).nextTicket = (g.line.leave place).nextTicket
    rw [Line.nextTicket_leave, Line.nextTicket_leave, h.nextTicket_eq]
  line_exact := fun _ => Line.exact_leave (h.line_exact hexact) place
  told := by
    change Told _ _ (g.callers.erase call) (g'.callers.erase call)
    constructor
    · intro e he
      rw [Table.find?_erase_of_eq, if_neg fun heq => hcall e he heq.symm]
      exact h.told.told e he
    · intro c hc
      rw [Table.find?_erase_of_eq, Table.find?_erase_of_eq, h.told.untold c hc]
  admitted_eq := h.admitted_eq
  notices_eq := h.notices_eq
  frame := by
    unfold finish
    rw [h.frame]

/-- A call ends before the window is observed or after it, unless it is served. -/
theorem roll_finish (hp : g.Paired) (there : g.callers.find? call = some caller) {now : Instant}
    (hserved : ∀ e ∈ g.served now, e.1 ≠ caller.place) :
    (g.finish call caller.place).roll now =
      ((g.roll now).1.finish call caller.place, (g.roll now).2) := by
  have hpaired := paired_finish hp there
  have hserves := roll_serves hp.attended now
  have hserves' := roll_serves hpaired.attended now
  have hcall : ∀ e ∈ g.served now, e.2.call ≠ call := by
    intro e he heq
    have hcaller := hp.attended e (mem_of_mem_served hp he)
    rw [heq, there] at hcaller
    cases hcaller
    exact hserved e he rfl
  have hobserved : (g.finish call caller.place).observed now =
      (g.observed now).finish call caller.place := by
    unfold observed
    by_cases hwindow : g.policy.windowAt now ≤ g.window
    · simp only [finish, hwindow, if_true]
    · simp only [finish, hwindow, if_false]
  -- Both gates serve the same entries, as the one that is missing is not among them.
  have hsame : (g.finish call caller.place).served now = g.served now := by
    have hline : (g.finish call caller.place).line.toList =
        g.line.toList.filter fun e => compare e.1 caller.place != .eq :=
      Line.toList_leave g.line caller.place
    have hkeep : ∀ e ∈ g.served now, (compare e.1 caller.place != .eq) = true := fun e he =>
      bne_iff_ne.mpr fun heq => hserved e he (Std.LawfulEqOrd.eq_of_compare heq)
    have hpolicy : (g.finish call caller.place).policy = g.policy := rfl
    have hwindow : (g.finish call caller.place).window = g.window := rfl
    unfold served at hkeep ⊢
    rw [hpolicy, hwindow, hline]
    split
    next => rfl
    next hnew =>
      rw [if_neg hnew] at hkeep
      exact servedOf_filter _ now _ _ hkeep
  rw [hsame, hobserved] at hserves'
  have hexact : (g.observed now).line.Exact := (paired_observed hp now).exact
  refine Prod.ext (serves_unique (hobserved ▸ paired_observed hpaired now) hserves'
    (serves_finish hexact hserves hcall hserved)) ?_
  rw [hserves'.notices_eq, hserves.notices_eq]

/-- Nobody is served whose place is still taken when the window has been observed. -/
theorem not_served_of_contains (hp : g.Paired) {now : Instant} {place : Place}
    (hstays : (g.roll now).1.line.contains place = true) : ∀ e ∈ g.served now, e.1 ≠ place := by
  rintro e he rfl
  have hgone := not_contains_of_serves (roll_serves hp.attended now) he
  exact absurd hstays (Bool.eq_false_iff.mp hgone)

/-- A call that is not served is left as it is when the window is observed. -/
theorem find?_roll_of_not_served (hp : g.Paired) (there : g.callers.find? call = some caller)
    {now : Instant} (hserved : ∀ e ∈ g.served now, e.1 ≠ caller.place) :
    (g.roll now).1.callers.find? call = some caller := by
  have hserves := roll_serves hp.attended now
  rw [hserves.told.untold call fun e he heq => ?_, observed_callers, there]
  have hcaller := hp.attended e (mem_of_mem_served hp he)
  rw [heq, there] at hcaller
  cases hcaller
  exact hserved e he rfl

theorem find?_finish_of_ne (g : Gate) (place : Place) (h : call ≠ other) :
    (g.finish call place).callers.find? other = g.callers.find? other := by
  change (g.callers.erase call).find? other = _
  rw [Table.find?_erase_of_eq, if_neg h]

/-- Two calls end in any order. -/
theorem finish_comm (h : g.line.Exact) (place place' : Place) :
    (g.finish call place).finish other place' = (g.finish other place').finish call place := by
  unfold finish
  simp only [Line.leave_comm h place place', Table.erase_comm g.callers call other]

/-- A call ends before another one begins to wait or after it. -/
theorem finish_park (h : g.line.Exact) {place : Place} (hplace : place.ticket < g.line.nextTicket)
    (hne : other ≠ call) (request : Request) (deadline : Instant) :
    (g.park other request deadline).finish call place =
      (g.finish call place).park other request deadline := by
  have hjoin := Line.leave_join h hplace request.priority request.arrived
    (⟨other, deadline⟩ : Waiter)
  have hticket : ((g.line.leave place).join request.priority request.arrived
      (⟨other, deadline⟩ : Waiter)).2 =
      (g.line.join request.priority request.arrived ⟨other, deadline⟩).2 := by
    unfold Line.join
    rw [Line.nextTicket_leave]
  have hcallers := Table.erase_insert_of_ne g.callers
    (⟨(g.line.join request.priority request.arrived (⟨other, deadline⟩ : Waiter)).2, deadline,
      none⟩ : Caller) hne
  unfold park watch finish
  simp only [hticket]
  split
  next => simp only [hjoin, hcallers]
  next => simp only [hjoin, hcallers]

theorem settle_of_answer (answer : Caller → Option Bool)
    (there : g.callers.find? call = some caller) {v : Bool} (hanswer : answer caller = some v) :
    g.settle call answer = (g.finish call caller.place, [.returned call v]) := by
  unfold settle
  rw [there]
  simp only [hanswer]

theorem settle_of_none {answer : Caller → Option Bool}
    (h : ∀ caller, g.callers.find? call = some caller → answer caller = none) :
    g.settle call answer = (g, []) := by
  unfold settle
  cases hfind : g.callers.find? call with
  | none => rfl
  | some caller => simp only [h caller hfind]

/-- A call is settled in one of two ways. -/
theorem settle_cases (g : Gate) (call : CallId) (answer : Caller → Option Bool) :
    (∀ caller, g.callers.find? call = some caller → answer caller = none) ∨
      ∃ caller v, g.callers.find? call = some caller ∧ answer caller = some v := by
  cases hfind : g.callers.find? call with
  | none => exact Or.inl fun _ hcaller => nomatch hcaller
  | some caller =>
      cases hanswer : answer caller with
      | none =>
          refine Or.inl fun other hother => ?_
          cases hother
          exact hanswer
      | some v => exact Or.inr ⟨caller, v, rfl, hanswer⟩

/-- Whether a call is in line need not be asked, for it is just when it has no verdict. -/
theorem wake_eq (hp : g.Paired) (there : g.callers.find? call = some caller) (now : Instant) :
    g.wake call now =
      (((g.roll now).1.settle call (·.outcome now)).1,
        (g.roll now).2 ++ ((g.roll now).1.settle call (·.outcome now)).2) := by
  have hfind := (find?_roll hp there now).choose_spec
  generalize (find?_roll hp there now).choose = sent at hfind
  have hsettle : (g.roll now).1.settle call (·.outcome now) =
      match ({ caller with verdict := sent } : Caller).outcome now with
      | none => ((g.roll now).1, [])
      | some v => ((g.roll now).1.finish call caller.place, [.returned call v]) := by
    unfold settle
    rw [hfind]
  have hwake : g.wake call now =
      if !(g.roll now).1.line.contains caller.place then
        ((g.roll now).1.finish call caller.place,
          (g.roll now).2 ++ [.returned call (sent.getD false)])
      else if caller.deadline ≤ now then
        ((g.roll now).1.finish call caller.place, (g.roll now).2 ++ [.returned call false])
      else ((g.roll now).1, (g.roll now).2) := by
    unfold wake
    rw [if_pos (Table.contains_of_find? there)]
    simp only [hfind]
  rw [hwake, hsettle, Caller.outcome]
  rcases in_line_or_decided (paired_roll hp now) hfind with ⟨hwaits, hnone⟩ | ⟨hout, v, hsome⟩
  · cases hnone
    simp only [hwaits, Bool.not_true, Bool.false_eq_true, if_false, Option.none_or]
    split
    next => rfl
    next => rw [List.append_nil]
  · cases hsome
    simp only [hout, Bool.not_false, if_true, Option.some_or, Option.getD_some]

theorem collect_eq (hp : g.Paired) (call : CallId) :
    g.collect call = g.settle call (·.verdict) := by
  unfold collect settle
  cases hfind : g.callers.find? call with
  | none => rfl
  | some caller =>
      rcases in_line_or_decided hp hfind with ⟨hwaits, hnone⟩ | ⟨hout, v, hsome⟩
      · simp only [hwaits, hnone, Option.isNone_none, Bool.and_true, if_true]
      · simp only [hout, hsome, Option.isNone_some, Bool.and_false, Bool.false_eq_true, if_false,
          Option.getD_some]

theorem arrive_eq (new : g.callers.find? call = none) (request : Request) (ttl : Span)
    (now : Instant) :
    g.arrive call request ttl now =
      (((g.roll now).1.receive call request ttl now).1,
        (g.roll now).2 ++ ((g.roll now).1.receive call request ttl now).2) := by
  unfold arrive receive
  rw [if_neg (Bool.eq_false_iff.mp (Table.not_contains_of_find? new))]
  simp only []
  split
  next => rfl
  next => split <;> rfl

/-- A call that is not at the gate has no timer to wake it. -/
theorem wake_of_absent (hnone : g.callers.find? call = none) (now : Instant) :
    g.wake call now = (g, []) := by
  unfold wake
  rw [Table.not_contains_of_find? hnone, if_neg Bool.false_ne_true]

/-- A call that is at the gate does not arrive again. -/
theorem arrive_of_there (there : g.callers.find? call = some caller) (request : Request)
    (ttl : Span) (now : Instant) : g.arrive call request ttl now = (g, []) := by
  unfold arrive
  rw [if_pos (Table.contains_of_find? there)]

/-- Two things can be done to a gate in any order, and come to the same. -/
structure Crosses (f k : Gate → Gate × List Notice) (g : Gate) : Prop where
  /-- The gate in the end is the same. -/
  gate_eq : (k (f g).1).1 = (f (k g).1).1
  /-- The first comes to what it would have come to alone. -/
  left : (f (k g).1).2 = (f g).2
  /-- So does the second. -/
  right : (k (f g).1).2 = (k g).2

theorem Crosses.symm {f k : Gate → Gate × List Notice} (h : Crosses f k g) : Crosses k f g :=
  ⟨h.gate_eq.symm, h.right, h.left⟩

/-- A call is settled before or after anything that leaves it alone and for which it makes
    no difference whether the call has ended. -/
theorem crosses_settle {k : Gate → Gate × List Notice}
    (hfind : (k g).1.callers.find? call = g.callers.find? call)
    (hfinish : ∀ caller, g.callers.find? call = some caller →
      k (g.finish call caller.place) = ((k g).1.finish call caller.place, (k g).2))
    (answer : Caller → Option Bool) : Crosses (·.settle call answer) k g := by
  rcases settle_cases g call answer with hidle | ⟨caller, v, there, hv⟩
  · have hbefore := settle_of_none hidle
    have hafter : (k g).1.settle call answer = ((k g).1, []) :=
      settle_of_none fun caller hcaller => hidle caller (hfind ▸ hcaller)
    constructor
    · simp only [hbefore, hafter]
    · simp only [hbefore, hafter]
    · simp only [hbefore]
  · have hbefore := settle_of_answer answer there hv
    have hafter := settle_of_answer answer (hfind.trans there) hv
    constructor
    · simp only [hbefore, hafter, hfinish caller there]
    · simp only [hbefore, hafter]
    · simp only [hbefore, hfinish caller there]

theorem find?_settle_of_ne (g : Gate) (answer : Caller → Option Bool) (hne : call ≠ other) :
    (g.settle call answer).1.callers.find? other = g.callers.find? other := by
  rcases settle_cases g call answer with hidle | ⟨caller, v, there, hv⟩
  · rw [settle_of_none hidle]
  · rw [settle_of_answer answer there hv, find?_finish_of_ne g caller.place hne]

theorem find?_receive_of_ne (g : Gate) (request : Request) (ttl : Span) (now : Instant)
    (hne : call ≠ other) :
    (g.receive call request ttl now).1.callers.find? other = g.callers.find? other := by
  unfold receive
  split
  next => rfl
  next =>
    split
    next => rfl
    next => rw [park_callers, Table.find?_insert_of_eq, if_neg hne]

/-- A call is settled whether another one has ended or not. -/
theorem settle_finish (h : g.line.Exact) (hne : call ≠ other) (place : Place)
    (answer : Caller → Option Bool) :
    (g.finish call place).settle other answer =
      ((g.settle other answer).1.finish call place, (g.settle other answer).2) := by
  have hsame := find?_finish_of_ne g place hne
  rcases settle_cases g other answer with hidle | ⟨caller, v, there, hv⟩
  · rw [settle_of_none hidle, settle_of_none fun x hx => hidle x (hsame ▸ hx)]
  · rw [settle_of_answer answer there hv, settle_of_answer answer (hsame.trans there) hv,
      finish_comm h]

/-- An arrival finds the same whether a call has ended or not, as a call that ends does not
    give back a slot. -/
theorem receive_finish (h : g.line.Exact) {place : Place}
    (hplace : place.ticket < g.line.nextTicket) (hne : call ≠ other) (request : Request)
    (ttl : Span) (now : Instant) :
    (g.finish call place).receive other request ttl now =
      ((g.receive other request ttl now).1.finish call place,
        (g.receive other request ttl now).2) := by
  have hquota : (g.finish call place).hasQuota = g.hasQuota := rfl
  have hclosed : (g.finish call place).closed = g.closed := rfl
  unfold receive
  rw [hquota, hclosed]
  split
  next => rfl
  next =>
    split
    next => rfl
    next => rw [finish_park h hplace hne.symm]

/-- Two calls are settled in any order. -/
theorem crosses_settle_settle (h : g.line.Exact) (hne : call ≠ other)
    (answer answer' : Caller → Option Bool) :
    Crosses (·.settle call answer) (·.settle other answer') g :=
  crosses_settle (find?_settle_of_ne g answer' hne.symm)
    (fun caller _ => settle_finish h hne caller.place answer') answer

/-- A call is settled before another one arrives or after it. -/
theorem crosses_settle_receive (hp : g.Paired) (hne : call ≠ other)
    (answer : Caller → Option Bool) (request : Request) (ttl : Span) (now : Instant) :
    Crosses (·.settle call answer) (·.receive other request ttl now) g :=
  crosses_settle (find?_receive_of_ne g request ttl now hne.symm)
    (fun caller there => receive_finish hp.exact (hp.ticket_lt call caller there) hne request ttl
      now) answer

end Gate

end Turnstile
