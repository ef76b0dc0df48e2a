import Turnstile.Proofs.Gate.History
import Turnstile.Proofs.Gate.Likeness

/-!
# Calls That Are Given Up in Line

A call that begins to wait and is given up while it is still in line has been at the gate
for nothing: everything else goes on as if it had never come. The line is served from the
head, and whoever stands behind the last one served has no part in it, so that a call in
line could have left at any time before.

Two runs are compared for this. In one of them the call arrives, waits through whatever is
done in the meantime, and is given up. In the other one the same is done at the same
readings without it. The call is in line from its arrival to its end, so its end can be moved
forward over all that is done in between until it meets the arrival. What is left of the two
together is a ticket that nobody has, and gates that differ in their tickets are alike.

The runs are compared by their minutes. Until the end of the call they differ in one
number: there is one more who waits with the priority of its request.

## Main definitions

* `Event.isOf`: A call arrives, is woken by its timer, or is given up.
* `Minute.withOne`: What is put down if there is one more of some priority.

## Theorems

* `perform_finish`: A call in line ends before or after a deed of another, if it is in line
  after it.
* `finish_park_alike`: A call that ends at once leaves the gate as it was, up to a ticket.
* `counts_finish`: There is one fewer when a call in line ends.
* `minutes_of_waiting`: What is put down while a call is in line.
* `minutes_of_withdrawal`: What is put down from its arrival on, if it is given up in line.
* `no_trace_left`: A call that is given up in line leaves no trace.
-/

namespace Turnstile

/-- What is put down if there is one more who waits with a priority. -/
def Minute.withOne (priority : Priority) (m : Minute) : Minute :=
  { m with counts := Line.countUp m.counts priority }

/-- Whether a call arrives, is woken by its own timer, or is given up. -/
def Event.isOf (call : CallId) : Event → Bool
  | .arrive c .. => c == call
  | .wake c _ => c == call
  | .drop c => c == call
  | _ => false

namespace Gate

variable {g h : Gate} {call : CallId} {caller : Caller} {d : Deed} {e : Place × Waiter}
  {place : Place}

/-- A deed is that of an event, unless somebody observes the window and does nothing else. -/
theorem perform_eq_step (g : Gate) (d : Deed) :
    (∃ now, d = .rollover now) ∨
      ∃ event, (∀ k : Gate, k.deed? event = some d) ∧ g.perform d = g.step event := by
  cases d with
  | rollover now => exact Or.inl ⟨now, rfl⟩
  | arrive c request ttl now => exact Or.inr ⟨.arrive c request ttl now, fun _ => rfl, rfl⟩
  | wake c now => exact Or.inr ⟨.wake c now, fun _ => rfl, rfl⟩
  | collect c => exact Or.inr ⟨.collect c, fun _ => rfl, rfl⟩
  | drop c => exact Or.inr ⟨.drop c, fun _ => rfl, rfl⟩
  | close => exact Or.inr ⟨.close, fun _ => rfl, rfl⟩

/-- Whoever is in line after a deed was there before, or arrives and gets a new ticket. -/
theorem mem_of_perform (hs : g.Sound) (he : e ∈ (g.perform d).1.line.toList) :
    e ∈ g.line.toList ∨ g.line.nextTicket ≤ e.1.ticket ∧
      ∃ request ttl now, d = .arrive e.2.call request ttl now := by
  rcases perform_eq_step g d with ⟨now, rfl⟩ | ⟨event, hdeed, hstep⟩
  · exact Or.inl (mem_of_mem_roll hs.toPaired he)
  · rw [hstep] at he
    rcases mem_of_move hs (step_move g event) he with hmem | ⟨c, request, ttl, now, rfl, rfl⟩
    · exact Or.inl hmem
    · exact Or.inr ⟨Nat.le_refl _, request, ttl, now, (Option.some.inj (hdeed g)).symm⟩

theorem nextTicket_le_perform (hs : g.Sound) (d : Deed) :
    g.line.nextTicket ≤ (g.perform d).1.line.nextTicket := by
  rcases perform_eq_step g d with ⟨now, rfl⟩ | ⟨event, -, hstep⟩
  · have hticket := (roll_serves hs.attended now).nextTicket_eq
    rw [observed_line] at hticket
    exact Nat.le_of_eq hticket.symm
  · rw [hstep]
    exact nextTicket_le_move hs (step_move g event)

/-- Whoever is in line in the end, at a place that was given out before, was there all the
    time. -/
theorem contains_of_performs (hs : g.Sound) (hticket : place.ticket < g.line.nextTicket)
    {ds : List Deed} (hin : (g.performs ds).1.line.contains place = true) :
    g.line.contains place = true := by
  induction ds generalizing g with
  | nil => exact hin
  | cons d ds ih =>
      have hafter := ih (perform_sound hs d)
        (Nat.lt_of_lt_of_le hticket (nextTicket_le_perform hs d)) hin
      rcases (Line.contains_iff _ _).mp hafter with ⟨w, hw⟩
      rcases mem_of_perform hs hw with hmem | ⟨hnew, -⟩
      · exact Line.contains_of_mem hmem
      · exact absurd hticket (Nat.not_lt.mpr hnew)

/-- The entry of a call that does not arrive in a row of deeds is one from before. -/
theorem mem_of_performs (hs : g.Sound) {ds : List Deed}
    (harrival : ∀ d ∈ ds, ∀ request ttl now, d ≠ .arrive e.2.call request ttl now)
    (he : e ∈ (g.performs ds).1.line.toList) : e ∈ g.line.toList := by
  induction ds generalizing g with
  | nil => exact he
  | cons d ds ih =>
      have hafter := ih (perform_sound hs d) (fun x hx => harrival x (List.mem_cons_of_mem _ hx)) he
      rcases mem_of_perform hs hafter with hmem | ⟨-, request, ttl, now, hd⟩
      · exact hmem
      · exact absurd hd (harrival d List.mem_cons_self request ttl now)

theorem mem_of_settle {other : CallId} {answer : Caller → Option Bool}
    (he : e ∈ (g.settle other answer).1.line.toList) : e ∈ g.line.toList := by
  rcases settle_cases g other answer with hidle | ⟨caller, v, there, hv⟩
  · rw [settle_of_none hidle] at he
    exact he
  · rw [settle_of_answer answer there hv] at he
    exact ((Line.mem_leave _ _ _).mp he).1

/-- Whoever is in line after an arrival was there before, or is the newcomer. -/
theorem contains_of_receive (hexact : g.line.Exact) (hticket : place.ticket < g.line.nextTicket)
    {other : CallId} {request : Request} {ttl : Span} {now : Instant}
    (hin : (g.receive other request ttl now).1.line.contains place = true) :
    g.line.contains place = true := by
  unfold receive at hin
  split at hin
  next => exact hin
  next =>
    split at hin
    next => exact hin
    next =>
      rcases (Line.contains_iff _ _).mp hin with ⟨w, hw⟩
      rw [park_line] at hw
      rcases (Line.mem_join hexact _ _ _ _).mp hw with hnew | hmem
      · -- The newcomer has the next ticket, which nobody has.
        have hsame : place.ticket = g.line.nextTicket := congrArg (fun x => x.1.ticket) hnew
        omega
      · exact Line.contains_of_mem hmem

/-- What another one settles is the same whether a call in line has ended before or not. -/
theorem settle_roll_finish (hp : g.Paired) (there : g.callers.find? call = some caller)
    {other : CallId} (hne : call ≠ other) {answer : Caller → Option Bool} {now : Instant}
    (hstays : ((g.roll now).1.settle other answer).1.line.contains caller.place = true) :
    ((g.finish call caller.place).roll now).2 = (g.roll now).2 ∧
      ((g.finish call caller.place).roll now).1.settle other answer =
        (((g.roll now).1.settle other answer).1.finish call caller.place,
          ((g.roll now).1.settle other answer).2) ∧
      ((g.roll now).1.settle other answer).1.callers.find? call = some caller := by
  have hrolled : (g.roll now).1.line.contains caller.place = true := by
    rcases (Line.contains_iff _ _).mp hstays with ⟨w, hw⟩
    exact Line.contains_of_mem (mem_of_settle hw)
  have hserved := not_served_of_contains hp hrolled
  rw [roll_finish hp there hserved, find?_settle_of_ne _ answer hne.symm,
    find?_roll_of_not_served hp there hserved]
  exact ⟨rfl, settle_finish (paired_roll hp now).exact hne caller.place answer, rfl⟩

/-- A call in line ends before or after a deed of another, if it is in line after it. If it
    looks for a verdict itself, it finds none and can as well have ended. -/
theorem perform_finish (hp : g.Paired) (there : g.callers.find? call = some caller)
    (hown : d.call? = some call → d = .collect call)
    (hwaits : g.line.contains caller.place = true)
    (hstays : (g.perform d).1.line.contains caller.place = true) :
    (g.finish call caller.place).perform d =
        ((g.perform d).1.finish call caller.place, (g.perform d).2) ∧
      (g.perform d).1.callers.find? call = some caller := by
  have hpaired := paired_finish hp there
  have hfind : ∀ {c : CallId}, call ≠ c →
      (g.finish call caller.place).callers.find? c = g.callers.find? c :=
    fun hne => find?_finish_of_ne g caller.place hne
  cases d with
  | rollover now =>
      have hserved := not_served_of_contains hp hstays
      exact ⟨roll_finish hp there hserved, find?_roll_of_not_served hp there hserved⟩
  | collect c =>
      change (g.finish call caller.place).collect c =
          ((g.collect c).1.finish call caller.place, (g.collect c).2) ∧
        (g.collect c).1.callers.find? call = some caller
      by_cases hc : c = call
      · -- The call has no verdict while it is in line.
        subst hc
        have hidle : g.settle c (·.verdict) = (g, []) := by
          refine settle_of_none fun other hother => ?_
          cases there.symm.trans hother
          rcases in_line_or_decided hp there with ⟨-, hnone⟩ | ⟨hout, -⟩
          · exact hnone
          · exact absurd (hout.symm.trans hwaits) Bool.false_ne_true
        have hgone : (g.finish c caller.place).settle c (·.verdict) =
            (g.finish c caller.place, []) := by
          refine settle_of_none fun other hother => ?_
          change (g.callers.erase c).find? c = _ at hother
          rw [Table.find?_erase_of_eq, if_pos rfl] at hother
          exact nomatch hother
        rw [collect_eq hp, collect_eq hpaired, hidle, hgone]
        exact ⟨rfl, there⟩
      · have hne : call ≠ c := fun heq => hc heq.symm
        rw [collect_eq hp, collect_eq hpaired, find?_settle_of_ne g _ hc]
        exact ⟨settle_finish hp.exact hne caller.place _, there⟩
  | drop c =>
      have hne : call ≠ c := fun heq => nomatch hown (congrArg some heq.symm)
      change ((g.finish call caller.place).drop c, []) = ((g.drop c).finish call caller.place, []) ∧
        (g.drop c).callers.find? call = some caller
      unfold drop
      rw [hfind hne]
      cases hother : g.callers.find? c with
      | none => exact ⟨rfl, there⟩
      | some other =>
          refine ⟨Prod.ext (finish_comm hp.exact _ _) rfl, ?_⟩
          exact (find?_finish_of_ne g other.place hne.symm).trans there
  | wake c now =>
      have hne : call ≠ c := fun heq => nomatch hown (congrArg some heq.symm)
      change (g.finish call caller.place).wake c now =
          ((g.wake c now).1.finish call caller.place, (g.wake c now).2) ∧
        (g.wake c now).1.callers.find? call = some caller
      cases hother : g.callers.find? c with
      | none =>
          rw [wake_of_absent hother, wake_of_absent ((hfind hne).trans hother)]
          exact ⟨rfl, there⟩
      | some other =>
          change (g.wake c now).1.line.contains caller.place = true at hstays
          rw [wake_eq hp hother] at hstays ⊢
          rw [wake_eq hpaired ((hfind hne).trans hother)]
          rcases settle_roll_finish hp there hne hstays with ⟨hseen, hsettle, hkept⟩
          rw [hseen, hsettle]
          exact ⟨rfl, hkept⟩
  | arrive c request ttl now =>
      have hne : call ≠ c := fun heq => nomatch hown (congrArg some heq.symm)
      change (g.finish call caller.place).arrive c request ttl now =
          ((g.arrive c request ttl now).1.finish call caller.place,
            (g.arrive c request ttl now).2) ∧
        (g.arrive c request ttl now).1.callers.find? call = some caller
      cases hother : g.callers.find? c with
      | some other =>
          rw [arrive_of_there hother, arrive_of_there ((hfind hne).trans hother)]
          exact ⟨rfl, there⟩
      | none =>
          change (g.arrive c request ttl now).1.line.contains caller.place = true at hstays
          rw [arrive_eq hother] at hstays ⊢
          rw [arrive_eq ((hfind hne).trans hother)]
          have hrolled := paired_roll hp now
          have hticket : caller.place.ticket < (g.roll now).1.line.nextTicket := by
            rw [(roll_serves hp.attended now).nextTicket_eq, observed_line]
            exact hp.ticket_lt call caller there
          have hserved := not_served_of_contains hp
            (contains_of_receive hrolled.exact hticket hstays)
          rw [roll_finish hp there hserved, receive_finish hrolled.exact hticket hne,
            find?_receive_of_ne _ request ttl now hne.symm,
            find?_roll_of_not_served hp there hserved]
          exact ⟨rfl, rfl⟩
  | close =>
      cases hclosed : g.closed with
      | true =>
          have hnothing : ∀ k : Gate, k.closed = true → k.close = (k, []) := fun k hk => if_pos hk
          change (g.finish call caller.place).close =
              (g.close.1.finish call caller.place, g.close.2) ∧
            g.close.1.callers.find? call = some caller
          rw [hnothing g hclosed, hnothing (g.finish call caller.place) hclosed]
          exact ⟨rfl, there⟩
      | false =>
          -- Closing leaves nobody in line.
          have hline := (close_serves hp.attended hclosed).toList_eq
          have hnobody : g.close.1.line.toList = [] := List.self_eq_append_right.mp hline
          rcases (Line.contains_iff _ _).mp hstays with ⟨w, hw⟩
          change (caller.place, w) ∈ g.close.1.line.toList at hw
          rw [hnobody] at hw
          exact absurd hw List.not_mem_nil

/-- A call that begins to wait and ends at once leaves the gate as it was, up to a ticket. -/
theorem finish_park_alike (hp : g.Paired) (hnew : g.callers.find? call = none)
    (request : Request) (deadline : Instant)
    (there : (g.park call request deadline).callers.find? call = some caller) :
    ((g.park call request deadline).finish call caller.place).Alike g ∧
      caller.place.priority = request.priority := by
  rw [park_callers, Table.find?_insert_of_eq, if_pos rfl] at there
  cases there
  refine ⟨?_, rfl⟩
  have hline : ((g.line.join request.priority request.arrived (⟨call, deadline⟩ : Waiter)).1.leave
      (g.line.join request.priority request.arrived (⟨call, deadline⟩ : Waiter)).2).toList =
      g.line.toList := by
    rw [Line.toList_leave, Line.toList_join]
    refine congrArg Table.entries (Table.erase_insert_self ?_ _)
    -- Nobody stands at the new place, as its ticket is the next one.
    refine Option.eq_none_iff_forall_ne_some.mpr fun w hw => ?_
    exact Nat.lt_irrefl _ (hp.exact.ticket_lt _ ((Table.find?_eq_some_iff _ _ _).mp hw))
  unfold finish
  rw [park_line, park_callers, Table.erase_insert_self hnew, park_frame]
  exact ⟨rfl, rfl, rfl, rfl, congrArg (List.map shape) hline, fun _ => rfl⟩

/-- While a call is in line there is one more who waits than when it has ended. -/
theorem counts_finish (hp : g.Paired) (hwaits : g.line.contains place = true) (call : CallId) :
    g.counts = Line.countUp (g.finish call place).counts place.priority := by
  rcases (Line.contains_iff _ _).mp hwaits with ⟨w, hw⟩
  have hperm := eraseKey_perm place w g.line.ascending_toList hw
  have hexact := Line.exact_leave hp.exact place
  have hwaiting : ∀ q, g.line.waiting q =
      (g.line.leave place).waiting q + if place.priority = q then 1 else 0 := by
    intro q
    rw [Line.waiting, hperm.countP_eq, List.countP_cons, Line.waiting, Line.toList_leave]
    simp only [beq_iff_eq]
  refine Table.eq_of_find?_eq fun q => ?_
  change g.line.counts.find? q =
    (Line.countUp (g.line.leave place).counts place.priority).find? q
  rw [Line.find?_countUp (hexact.counts_eq _), hp.exact.counts_eq, hexact.counts_eq, hwaiting]
  by_cases hq : place.priority = q
  · rw [if_pos hq, if_pos hq, if_neg (Nat.succ_ne_zero _), hq]
  · rw [if_neg hq, if_neg hq, Nat.add_zero]

/-- What is put down while a call is in line is what would be put down if it had ended, with
    one more who waits. At the end it can end just as well as at the beginning. -/
theorem minutes_of_waiting (hs : g.Sound) (there : g.callers.find? call = some caller)
    {ds : List Deed} (hown : ∀ d ∈ ds, d.call? = some call → d = .collect call)
    (hstays : (g.performs ds).1.line.contains caller.place = true) :
    g.minutes ds = ((g.finish call caller.place).minutes ds).map
        (·.withOne caller.place.priority) ∧
      ((g.finish call caller.place).performs ds).1 =
        (g.performs ds).1.finish call caller.place ∧
      (g.performs ds).1.callers.find? call = some caller := by
  induction ds generalizing g with
  | nil => exact ⟨rfl, rfl, there⟩
  | cons d ds ih =>
      have hs' := perform_sound hs d
      have hticket := hs.ticket_lt call caller there
      have hticket' := Nat.lt_of_lt_of_le hticket (nextTicket_le_perform hs d)
      -- The call is in line at the end, so it is in line after the first deed and before it.
      have hafter := contains_of_performs hs' hticket' hstays
      have hbefore := contains_of_performs hs hticket hstays
      have hfirst := perform_finish hs.toPaired there (hown d List.mem_cons_self) hbefore hafter
      have hrest := ih hs' hfirst.2 (fun x hx => hown x (List.mem_cons_of_mem _ hx)) hstays
      rw [minutes, minutes, performs, hfirst.1, List.map_cons, ← hrest.1,
        counts_finish hs'.toPaired hafter call]
      exact ⟨rfl, hrest.2⟩

/-- An arrival in an observed window begins to wait if that is all that is noticed of it. -/
theorem park_of_notices {request : Request} {ttl : Span} {now : Instant}
    (hquiet : g.policy.windowAt now ≤ g.window)
    (hparks : (g.arrive call request ttl now).2 = [.parked call]) :
    g.callers.find? call = none ∧
      (g.arrive call request ttl now).1 = g.park call request (request.deadline ttl) := by
  cases hfind : g.callers.find? call with
  | some caller =>
      rw [arrive_of_there hfind] at hparks
      exact nomatch hparks
  | none =>
      refine ⟨rfl, ?_⟩
      rw [arrive_eq hfind, roll_of_le hquiet, List.nil_append] at hparks
      rw [arrive_eq hfind, roll_of_le hquiet]
      unfold receive at hparks ⊢
      split at hparks
      next => exact nomatch hparks
      next hslot =>
        split at hparks
        next => exact nomatch hparks
        next htime => rw [if_neg hslot, if_neg htime]

theorem there_of_park (g : Gate) (call : CallId) (request : Request) (deadline : Instant) :
    ∃ caller, (g.park call request deadline).callers.find? call = some caller := by
  rw [park_callers, Table.find?_insert_of_eq, if_pos rfl]
  exact ⟨_, rfl⟩

/-- The deeds of a run are those of its events. -/
theorem exists_of_mem_deeds {es : List Event} (hd : d ∈ g.deeds es) :
    ∃ event ∈ es, ∃ k : Gate, k.deed? event = some d := by
  induction es generalizing g with
  | nil => exact absurd hd List.not_mem_nil
  | cons event es ih =>
      rcases List.mem_append.mp hd with hfirst | hrest
      · exact ⟨event, List.mem_cons_self, g, Option.mem_toList.mp hfirst⟩
      · rcases ih hrest with ⟨later, hlater, k, hk⟩
        exact ⟨later, List.mem_cons_of_mem _ hlater, k, hk⟩

/-- A call that neither arrives nor is woken nor given up can at most look for a verdict. -/
theorem collect_of_not_isOf {event : Event} (hnot : event.isOf call = false)
    (hdeed : g.deed? event = some d) (hcall : d.call? = some call) : d = .collect call := by
  cases event with
  | arrive c | wake c | drop c =>
      cases hdeed
      cases hcall
      simp only [Event.isOf, beq_self_eq_true, Bool.true_eq_false] at hnot
  | collect c =>
      cases hdeed
      cases hcall
      rfl
  | close =>
      cases hdeed
      cases hcall
  | wardenLook | wardenLost | read => cases hdeed
  | wardenWake n now =>
      simp only [deed?] at hdeed
      split at hdeed
      next =>
        cases hdeed
        cases hcall
      next => cases hdeed

/-- What is put down when a call begins to wait, others do this and that while it is in line,
    it is given up, and others go on. -/
theorem minutes_of_withdrawal (hs : g.Sound) {request : Request} {ttl : Span} {now : Instant}
    {ds : List Deed} (fs : List Deed) (hquiet : g.policy.windowAt now ≤ g.window)
    (hparks : (g.arrive call request ttl now).2 = [.parked call])
    (hown : ∀ d ∈ ds, d.call? = some call → d = .collect call)
    (hwaits : ∃ e ∈ ((g.arrive call request ttl now).1.performs ds).1.line.toList,
      e.2.call = call) :
    g.minutes (.arrive call request ttl now :: (ds ++ .drop call :: fs)) =
      ⟨.arrive call request ttl now, [.parked call], Line.countUp g.counts request.priority⟩ ::
        ((g.minutes ds).map (·.withOne request.priority) ++
          ⟨.drop call, [], (g.performs ds).1.counts⟩ :: (g.performs ds).1.minutes fs) := by
  have ha : (g.arrive call request ttl now).1.Sound :=
    perform_sound hs (.arrive call request ttl now)
  rcases park_of_notices hquiet hparks with ⟨hnew, hpark⟩
  rcases there_of_park g call request (request.deadline ttl) with ⟨caller, there⟩
  rcases finish_park_alike hs.toPaired hnew request _ there with ⟨halike, hpriority⟩
  rw [← hpark] at there halike
  rw [minutes, minutes_append, perform, hparks]
  generalize (g.arrive call request ttl now).1 = a at ha hwaits there halike
  -- Its entry is the one with which it began to wait, so it was in line all the time.
  have hstays : (a.performs ds).1.line.contains caller.place = true := by
    rcases hwaits with ⟨e, he, rfl⟩
    have hold : e ∈ a.line.toList := by
      refine mem_of_performs ha (fun d hd r t n heq => ?_) he
      cases heq.symm.trans (hown d hd (heq ▸ rfl))
    have hcaller := ha.attended e hold
    rw [there] at hcaller
    cases hcaller
    exact Line.contains_of_mem he
  have hin := contains_of_performs ha (ha.ticket_lt call caller there) hstays
  rcases minutes_of_waiting ha there hown hstays with ⟨hwaiting, hend, there'⟩
  have hgone : (a.finish call caller.place).Sound := sound_finish ha there
  have harrives : a.counts = Line.countUp g.counts request.priority := by
    rw [counts_finish ha.toPaired hin call, hpriority,
      counts_of_alike hgone.toPaired hs.toPaired halike]
  rcases minutes_of_alike hgone hs halike ds with ⟨hmeanwhile, hlike⟩
  -- Then it ends, and what is left is like the gate at which it never was.
  have hdrop : (a.performs ds).1.drop call = ((a.finish call caller.place).performs ds).1 := by
    unfold drop
    rw [there', hend]
  have hgone' : ((a.finish call caller.place).performs ds).1.Sound := performs_sound hgone ds
  have hrest := performs_sound hs ds
  have hlast : (a.performs ds).1.minutes (.drop call :: fs) =
      ⟨.drop call, [], (g.performs ds).1.counts⟩ :: (g.performs ds).1.minutes fs := by
    rw [minutes, perform, hdrop, counts_of_alike hgone'.toPaired hrest.toPaired hlike,
      (minutes_of_alike hgone' hrest hlike fs).1]
  rw [harrives, hwaiting, hmeanwhile, hpriority, hlast]

/-- **No trace left.** Let a call arrive at a gate that has observed the window, begin to
    wait, and be given up while its entry is in line and before its timer went off. Let the
    same be done at the same readings without it, by whomever. Then the same comes of each
    deed, and the numbers of those who wait are the same too, but for one more of the
    priority of the call from its arrival to its end. -/
theorem no_trace_left (policy : Policy) (first : Instant) (before during after : List Event)
    (x : CallId) (request : Request) (ttl : Span) (now : Instant) :
    let g := start policy first
    let arrival := (g.run before).1.step (.arrive x request ttl now)
    let last := (arrival.1.run during).1
    policy.windowAt now ≤ (g.run before).1.window → arrival.2 = [.parked x] →
    (∀ e ∈ during, e.isOf x = false) → (∃ e ∈ last.line.toList, e.2.call = x) →
      let d₁ := g.deeds before
      let d₂ := arrival.1.deeds during
      let d₃ := (last.step (.drop x)).1.deeds after
      let b := (g.performs d₁).1
      let c := (b.performs d₂).1
      g.minutesOf (before ++ .arrive x request ttl now :: (during ++ .drop x :: after)) =
          g.minutes d₁ ++
            ⟨.arrive x request ttl now, [.parked x], Line.countUp b.counts request.priority⟩ ::
              ((b.minutes d₂).map (·.withOne request.priority) ++
                ⟨.drop x, [], c.counts⟩ :: c.minutes d₃) ∧
        g.minutes (d₁ ++ (d₂ ++ d₃)) = g.minutes d₁ ++ (b.minutes d₂ ++ c.minutes d₃) ∧
        ∀ others, g.deeds others = d₁ ++ (d₂ ++ d₃) →
          g.minutesOf others = g.minutes (d₁ ++ (d₂ ++ d₃)) := by
  intro g arrival last hquiet hparks hnot hwaits d₁ d₂ d₃ b c
  have hg : g.Sound := sound_start policy first
  have hdeeds : g.deeds (before ++ .arrive x request ttl now :: (during ++ .drop x :: after)) =
      d₁ ++ .arrive x request ttl now :: (d₂ ++ .drop x :: d₃) := by
    rw [deeds_append]
    refine congrArg (d₁ ++ ·) (congrArg (_ :: ·) ?_)
    exact deeds_append _ _ _
  -- The gate of the run and that of its deeds differ in their wardens only.
  have hbefore : (g.run before).1.bare = b.bare := (run_deeds g before).1
  have harrival := perform_congr hbefore (.arrive x request ttl now)
  have hobserved : b.policy.windowAt now ≤ b.window := by
    rcases fields_of_bare hbefore with ⟨hpolicy, hwindow, -⟩
    rw [← hpolicy, ← hwindow, run_policy hg before]
    exact hquiet
  have hown : ∀ d ∈ d₂, d.call? = some x → d = .collect x := by
    intro d hd
    rcases exists_of_mem_deeds hd with ⟨event, hmem, k, hk⟩
    exact collect_of_not_isOf (hnot event hmem) hk
  have hline : last.line = ((b.arrive x request ttl now).1.performs d₂).1.line :=
    (fields_of_bare ((run_deeds arrival.1 during).1.trans
      (performs_congr harrival.1 d₂).1)).2.2.2.2.1
  refine ⟨?_, ?_, fun others hothers => ?_⟩
  · rw [minutesOf_eq, hdeeds, minutes_append, minutes_of_withdrawal (performs_sound hg d₁) d₃
      hobserved (harrival.2.symm.trans hparks) hown (hline ▸ hwaits)]
  · rw [minutes_append, minutes_append]
  · rw [minutesOf_eq, hothers]

/-- In the rush a call of lower priority begins to wait, has the warden called, and is given
    up after another one that came later was given the slot of the second window. Without it
    the other one has the warden called, and all else is the same. -/
theorem no_trace_left_in_rush :
    let patient : Request := { Rush.request with priority := 1 }
    let before : List Event := [.arrive 0 Rush.request (.ofSeconds 5) Instant.epoch]
    let during : List Event := [.wardenLook 0,
      .arrive 2 Rush.request (.ofSeconds 5) Instant.epoch, .wardenWake 0 Rush.second, .collect 2]
    let after : List Event := [.wardenLook 0,
      .arrive 3 Rush.request (.ofSeconds 5) Rush.second]
    let others : List Event := [.arrive 0 Rush.request (.ofSeconds 5) Instant.epoch,
      .arrive 2 Rush.request (.ofSeconds 5) Instant.epoch, .wardenLook 0,
      .wardenWake 0 Rush.second, .collect 2, .wardenLook 0,
      .arrive 3 Rush.request (.ofSeconds 5) Rush.second]
    Rush.policy.windowAt Instant.epoch ≤
        ((start Rush.policy Instant.epoch).run before).1.window ∧
      (((start Rush.policy Instant.epoch).run before).1.step
        (.arrive 1 patient (.ofSeconds 5) Instant.epoch)).2 = [.parked 1] ∧
      (∀ e ∈ during, e.isOf 1 = false) ∧
      (∃ e ∈ ((((start Rush.policy Instant.epoch).run before).1.step
        (.arrive 1 patient (.ofSeconds 5) Instant.epoch)).1.run during).1.line.toList,
          e.2.call = 1) ∧
      ∃ A B C m n,
        (start Rush.policy Instant.epoch).minutesOf (before ++
          .arrive 1 patient (.ofSeconds 5) Instant.epoch :: (during ++ .drop 1 :: after)) =
            A ++ m :: (B.map (·.withOne 1) ++ n :: C) ∧
        (start Rush.policy Instant.epoch).minutesOf others = A ++ (B ++ C) ∧
        B.map Minute.notices = [[.parked 2], [.granted 2], [.returned 2 true]] := by
  intro patient before during after others
  have hquiet : Rush.policy.windowAt Instant.epoch ≤
      ((start Rush.policy Instant.epoch).run before).1.window := by decide
  have hparks : (((start Rush.policy Instant.epoch).run before).1.step
      (.arrive 1 patient (.ofSeconds 5) Instant.epoch)).2 = [.parked 1] := by decide
  have hnot : ∀ e ∈ during, e.isOf 1 = false := by decide
  have hwaits : ∃ e ∈ ((((start Rush.policy Instant.epoch).run before).1.step
      (.arrive 1 patient (.ofSeconds 5) Instant.epoch)).1.run during).1.line.toList,
        e.2.call = 1 := by decide
  rcases no_trace_left Rush.policy Instant.epoch before during after 1 patient (.ofSeconds 5)
    Instant.epoch hquiet hparks hnot hwaits with ⟨hwith, hwithout, hothers⟩
  refine ⟨hquiet, hparks, hnot, hwaits, _, _, _, _, _, hwith, ?_, ?_⟩
  · exact (hothers others (by decide)).trans hwithout
  · decide

end Gate

end Turnstile
