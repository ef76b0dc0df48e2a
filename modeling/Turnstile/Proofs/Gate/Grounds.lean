import Turnstile.Proofs.Gate.History
import Turnstile.Proofs.Gate.Passage

/-!
# Grounds of Verdicts

Every call that returns does so on a ground that can be seen at the moment at which it
was decided.

The deadline of a call is looked at in three places: when it arrives, when its entry is
served, and when its own timer goes off. Each tests it in its own way, and the moment
`now = deadline` must count as too late in all of them. `Ground` lists what may decide
a call at a moment and which verdict it gives.

A call often returns long after it was decided. So what is shown of a run is that each
call in it has a stay: the moments from its arrival on, during all of which it waits.
The deadline the gate keeps is that of the request it arrived with, and if it was sent a
verdict, some moment of the stay has a ground for it.

## Main definitions

* `Ground`: What decides a call at a moment.
* `Stay`: The moments from the arrival of a call on.
* `Gate.Grounded`: All calls have their stays, and all verdicts their grounds.

## Theorems

* `caller_of_roll`, `caller_of_move`: A call after an event, and how it got its verdict.
* `returned_of_move`: A call that returns at an event, and how it got its verdict.
* `grounded_run`: The verdicts sent in a run have grounds.
* `verdicts_grounded`: The verdicts returned in a run have grounds, and an open gate with
  a slot refuses nobody.
-/

namespace Turnstile

/-- What decides a call that arrives with a request and a limit, and its verdict. -/
inductive Ground (call : CallId) (request : Request) (ttl : Span) : Moment → Bool → Prop where
  /-- On arrival the gate is open and has a slot. -/
  | slot {g : Gate} {now : Instant} (isOpen : (g.roll now).1.closed = false)
      (quota : (g.roll now).1.admitted < g.policy.quota.toNat) :
      Ground call request ttl ⟨g, .arrive call request ttl now⟩ true
  /-- On arrival the gate is closed. -/
  | shut {g : Gate} {now : Instant} (isClosed : (g.roll now).1.closed = true) :
      Ground call request ttl ⟨g, .arrive call request ttl now⟩ false
  /-- On arrival the slots are used up and there is no time to wait. -/
  | late {g : Gate} {now : Instant}
      (used : (g.roll now).1.admitted = g.policy.quota.toNat)
      (noTime : ttl.isZero = true ∨ request.deadline ttl ≤ now) :
      Ground call request ttl ⟨g, .arrive call request ttl now⟩ false
  /-- A new window has the entry taken out of the line in time. -/
  | turn {g : Gate} {event : Event} {now : Instant} {place : Place}
      (reading : event.reading? = some now) (rollover : g.window < g.policy.windowAt now)
      (waits : (place, ⟨call, request.deadline ttl⟩) ∈ g.line.toList)
      (taken : (g.roll now).1.line.contains place = false)
      (inTime : now < request.deadline ttl) : Ground call request ttl ⟨g, event⟩ true
  /-- A new window has the entry taken out of the line too late. -/
  | missed {g : Gate} {event : Event} {now : Instant} {place : Place}
      (reading : event.reading? = some now) (rollover : g.window < g.policy.windowAt now)
      (waits : (place, ⟨call, request.deadline ttl⟩) ∈ g.line.toList)
      (taken : (g.roll now).1.line.contains place = false)
      (timeUp : request.deadline ttl ≤ now) : Ground call request ttl ⟨g, event⟩ false
  /-- The timer of the call finds it in line too late. -/
  | timer {g : Gate} {now : Instant} {place : Place}
      (waits : (place, ⟨call, request.deadline ttl⟩) ∈ (g.roll now).1.line.toList)
      (timeUp : request.deadline ttl ≤ now) : Ground call request ttl ⟨g, .wake call now⟩ false
  /-- The gate closes while the call is in line. -/
  | closed {g : Gate} {place : Place} (isOpen : g.closed = false)
      (waits : (place, ⟨call, request.deadline ttl⟩) ∈ g.line.toList) :
      Ground call request ttl ⟨g, .close⟩ false

/-- The moments of a call, from its arrival on: it is new at the first one and waits at
    all others. -/
def Stay (call : CallId) (request : Request) (ttl : Span) : List Moment → Prop
  | [] => False
  | arrival :: rest =>
    (∃ now, arrival.event = .arrive call request ttl now) ∧
      arrival.before.callers.contains call = false ∧
      ∀ m ∈ rest, m.before.callers.contains call = true

/-- A stay goes on for as long as the call waits. -/
theorem stay_append {call : CallId} {request : Request} {ttl : Span} {stay : List Moment}
    {m : Moment} (h : Stay call request ttl stay)
    (hwaits : m.before.callers.contains call = true) :
    Stay call request ttl (stay ++ [m]) := by
  cases stay with
  | nil => exact absurd h id
  | cons arrival rest =>
      refine ⟨h.1, h.2.1, fun x hx => ?_⟩
      rcases List.mem_append.mp hx with hrest | hlast
      · exact h.2.2 x hrest
      · rw [List.mem_singleton.mp hlast]
        exact hwaits

namespace Gate

/-- A verdict that a call gets at a moment has a ground there, whatever request the
    deadline of the call comes from. -/
def Decides (m : Moment) (call : CallId) (deadline : Instant) (v : Bool) : Prop :=
  ∀ request ttl, deadline = request.deadline ttl → Ground call request ttl m v

/-- All calls have their stays, and all verdicts their grounds. -/
def Grounded (past : List Moment) (g : Gate) : Prop :=
  ∀ call caller, g.callers.find? call = some caller → ∃ old stay request ttl,
    past = old ++ stay ∧ Stay call request ttl stay ∧
    caller.deadline = request.deadline ttl ∧
    ∀ v, caller.verdict = some v → ∃ m ∈ stay, Ground call request ttl m v

variable {g g' : Gate} {event : Event} {notices : List Notice} {call : CallId}
  {caller : Caller}

theorem window_lt_of_served {e : Place × Waiter} {now : Instant} (he : e ∈ g.served now) :
    g.window < g.policy.windowAt now := by
  unfold served at he
  split at he
  next => exact absurd he List.not_mem_nil
  next hwindow => exact Int.not_le.mp hwindow

/-- A call after the window was observed: it was there before, and if it got its verdict
    now, there is a ground for it. -/
theorem caller_of_roll (h : g.Paired) {now : Instant} (hreading : event.reading? = some now)
    (hfind : (g.roll now).1.callers.find? call = some caller) :
    ∃ old, g.callers.find? call = some old ∧ old.deadline = caller.deadline ∧
      ∀ v, caller.verdict = some v →
        old.verdict = some v ∨ Decides ⟨g, event⟩ call caller.deadline v := by
  have hserves := roll_serves h.attended now
  rcases find?_of_serves hserves hfind with ⟨e, he, rfl, rfl⟩ | ⟨-, hold⟩
  · -- The call was served, and its verdict is whether its deadline was still to come.
    have hline := mem_of_mem_served h he
    have hrollover := window_lt_of_served he
    have hgone := not_contains_of_serves hserves he
    refine ⟨_, h.attended e hline, rfl, fun v hv => Or.inr fun request ttl hdeadline => ?_⟩
    have hwaits : (e.1, (⟨e.2.call, request.deadline ttl⟩ : Waiter)) ∈ g.line.toList := by
      rw [← hdeadline]
      exact hline
    cases Option.some.inj hv
    cases htime : e.2.onTime now with
    | true =>
        have hintime := (e.2.onTime_iff now).mp htime
        exact .turn hreading hrollover hwaits hgone (hdeadline ▸ hintime)
    | false =>
        have hover := (e.2.onTime_eq_false_iff now).mp htime
        exact .missed hreading hrollover hwaits hgone (hdeadline ▸ hover)
  · rw [observed_callers] at hold
    exact ⟨caller, hold, rfl, fun v hv => Or.inl hv⟩

/-- A call after an event: it was there before, and if it got its verdict now, there is a
    ground for it; or it arrived and began to wait. -/
theorem caller_of_move (h : g.Paired) (hmove : g.Move event g' notices)
    (hfind : g'.callers.find? call = some caller) :
    (∃ old, g.callers.find? call = some old ∧ old.deadline = caller.deadline ∧
      ∀ v, caller.verdict = some v →
        old.verdict = some v ∨ Decides ⟨g, event⟩ call caller.deadline v) ∨
    (g.callers.find? call = none ∧ caller.verdict = none ∧ ∃ request ttl now,
      event = .arrive call request ttl now ∧ caller.deadline = request.deadline ttl) := by
  have hkeep : g.callers.find? call = some caller → ∃ old,
      g.callers.find? call = some old ∧ old.deadline = caller.deadline ∧
        ∀ v, caller.verdict = some v →
          old.verdict = some v ∨ Decides ⟨g, event⟩ call caller.deadline v :=
    fun hold => ⟨caller, hold, rfl, fun v hv => Or.inl hv⟩
  have herase : ∀ {callers : Table CallId Caller} {ended : CallId},
      (callers.erase ended).find? call = some caller → callers.find? call = some caller := by
    intro callers ended hfind
    rw [Table.find?_erase_of_eq] at hfind
    split at hfind
    next => exact nomatch hfind
    next => exact hfind
  cases hmove with
  | nothing | wardenLook | wardenLost => exact Or.inl (hkeep hfind)
  | slot | shut | late | goOn | wardenWake => exact Or.inl (caller_of_roll h rfl hfind)
  | decided | expire => exact Or.inl (caller_of_roll h rfl (herase hfind))
  | collect | drop => exact Or.inl (hkeep (herase hfind))
  | @park other request ttl now new =>
      rw [park_callers, Table.find?_insert_of_eq] at hfind
      split at hfind
      next hsame =>
        cases hsame
        cases hfind
        exact Or.inr ⟨new, rfl, request, ttl, now, rfl, rfl⟩
      next => exact Or.inl (caller_of_roll h rfl hfind)
  | close isOpen =>
      have hserves := close_serves h.attended isOpen
      rcases find?_of_serves hserves hfind with ⟨e, he, rfl, rfl⟩ | ⟨-, hold⟩
      · -- The call was in line when the gate closed.
        refine Or.inl ⟨_, h.attended e he, rfl, fun v hv => Or.inr fun request ttl hdeadline => ?_⟩
        have hwaits : (e.1, (⟨e.2.call, request.deadline ttl⟩ : Waiter)) ∈ g.line.toList := by
          rw [← hdeadline]
          exact he
        cases Option.some.inj hv
        exact .closed isOpen hwaits
      · exact Or.inl (hkeep hold)

/-- A call that returns when it arrives has its ground at once. -/
theorem ground_of_arrival (h : g.Sound) {other : CallId} {request : Request} {ttl : Span}
    {now : Instant} (hmove : g.Move (.arrive other request ttl now) g' notices) {v : Bool}
    (hreturned : .returned call v ∈ notices) :
    other = call ∧ g.callers.find? call = none ∧
      Ground call request ttl ⟨g, .arrive call request ttl now⟩ v := by
  have hpolicy := roll_policy h.toPaired now
  cases hmove with
  | nothing => exact absurd hreturned List.not_mem_nil
  | slot new isOpen quota =>
      rcases List.mem_cons.mp (mem_of_returned h.toPaired hreturned) with heq | hlast
      · exact nomatch heq
      cases List.mem_singleton.mp hlast
      have hslot := (hasQuota_iff _).mp quota
      rw [hpolicy] at hslot
      exact ⟨rfl, new, .slot isOpen hslot⟩
  | shut new isClosed =>
      cases List.mem_singleton.mp (mem_of_returned h.toPaired hreturned)
      exact ⟨rfl, new, .shut isClosed⟩
  | late new isOpen noQuota noTime =>
      cases List.mem_singleton.mp (mem_of_returned h.toPaired hreturned)
      have hused := admitted_eq_of_not_hasQuota (sound_roll h now) noQuota
      rw [hpolicy] at hused
      exact ⟨rfl, new, .late hused noTime⟩
  | park => exact nomatch List.mem_singleton.mp (mem_of_returned h.toPaired hreturned)

/-- A call that returns at an event: it was there before and was decided already or is
    now, or it arrived and is decided at once. -/
theorem returned_of_move (h : g.Sound) (hmove : g.Move event g' notices) {v : Bool}
    (hreturned : .returned call v ∈ notices) :
    (∃ old, g.callers.find? call = some old ∧
      (old.verdict = some v ∨ Decides ⟨g, event⟩ call old.deadline v)) ∨
    (g.callers.find? call = none ∧ ∃ request ttl now, event = .arrive call request ttl now ∧
      Ground call request ttl ⟨g, event⟩ v) := by
  -- Only these three events return calls, each in its own way.
  cases event with
  | arrive other request ttl now =>
      rcases ground_of_arrival h hmove hreturned with ⟨rfl, hnew, hground⟩
      exact Or.inr ⟨hnew, request, ttl, now, rfl, hground⟩
  | wake other now =>
      rcases verdict_of_wake h.toPaired hmove hreturned with ⟨rfl, caller, there, hcase⟩
      have hreading : (Event.wake call now).reading? = some now := rfl
      rcases caller_of_roll h.toPaired hreading there with ⟨old, hold, hdeadline, hground⟩
      refine Or.inl ⟨old, hold, ?_⟩
      rw [hdeadline]
      rcases hcase with hverdict | ⟨hwaits, hover, rfl⟩
      · exact hground v hverdict
      · -- The call is in line still, so what the timer finds is its own entry.
        refine Or.inr fun request ttl heq => ?_
        rcases (Line.contains_iff _ _).mp hwaits with ⟨w, hw⟩
        rw [(entry_of_place (paired_roll h.toPaired now) there hw rfl).1, heq] at hw
        exact .timer hw (heq ▸ hover)
  | collect other =>
      rcases verdict_of_collect h.toPaired hmove hreturned with ⟨rfl, caller, there, hverdict⟩
      exact Or.inl ⟨caller, there, Or.inl hverdict⟩
  | wardenWake =>
      cases hmove with
      | nothing => exact absurd hreturned List.not_mem_nil
      | wardenWake => exact absurd hreturned (returned_not_mem_roll h.toPaired _ _ _)
  | close =>
      cases hmove with
      | nothing => exact absurd hreturned List.not_mem_nil
      | close isOpen =>
          rw [(close_serves h.attended isOpen).notices_eq] at hreturned
          rcases List.mem_map.mp hreturned with ⟨e, -, heq⟩
          exact nomatch heq
  | drop | wardenLook | wardenLost | read =>
      cases hmove <;> exact absurd hreturned List.not_mem_nil

/-- An event keeps calls and verdicts grounded. -/
theorem grounded_step (h : g.Sound) {past : List Moment} (hpast : Grounded past g)
    (event : Event) : Grounded (past ++ [⟨g, event⟩]) (g.step event).1 := by
  intro call caller hfind
  rcases caller_of_move h.toPaired (step_move g event) hfind with
    ⟨old, hold, hdeadline, hverdict⟩ | ⟨hnew, hnone, request, ttl, now, hevent, hdeadline⟩
  · -- The call was there, and its stay has one moment more.
    rcases hpast call old hold with ⟨before, stay, request, ttl, hsplit, hstay, hreq, hground⟩
    have hwaits := Table.contains_of_find? hold
    refine ⟨before, stay ++ [⟨g, event⟩], request, ttl, ?_, stay_append hstay hwaits,
      hdeadline.symm.trans hreq, fun v hv => ?_⟩
    · rw [hsplit, List.append_assoc]
    · rcases hverdict v hv with hbefore | hnow
      · rcases hground v hbefore with ⟨m, hm, hreason⟩
        exact ⟨m, List.mem_append_left _ hm, hreason⟩
      · have hreason := hnow request ttl (hdeadline.symm.trans hreq)
        exact ⟨_, List.mem_append_right _ List.mem_cons_self, hreason⟩
  · -- The call is new, and its stay begins.
    have habsent := Table.not_contains_of_find? hnew
    refine ⟨past, [⟨g, event⟩], request, ttl, rfl, ?_, hdeadline, fun v hv => ?_⟩
    · exact ⟨⟨now, hevent⟩, habsent, fun _ hm => absurd hm List.not_mem_nil⟩
    · exact absurd (hv.symm.trans hnone) (Option.some_ne_none v)

/-- The verdicts sent in a run have grounds. -/
theorem grounded_run (h : g.Sound) {past : List Moment} (hpast : Grounded past g)
    (es : List Event) : Grounded (past ++ g.history es) (g.run es).1 := by
  induction es generalizing g past with
  | nil =>
      rw [history, List.append_nil]
      exact hpast
  | cons e es ih =>
      rw [history, List.append_cons, run_cons]
      exact ih (step_sound h e) (grounded_step h hpast e)

/-- An arriving call that finds the gate open and a slot takes it, however little time
    it has. -/
theorem admitted_of_slot {request : Request} {ttl : Span} {now : Instant}
    (hnew : g.callers.contains call = false) (hopen : (g.roll now).1.closed = false)
    (hslot : (g.roll now).1.hasQuota = true) :
    (g.step (.arrive call request ttl now)).2 =
      (g.roll now).2 ++ [.granted call, .returned call true] := by
  change (g.arrive call request ttl now).2 = _
  unfold arrive
  rw [hnew, if_neg Bool.false_ne_true]
  simp only [hopen, hslot, Bool.not_false, Bool.and_true, if_true]

/-- **Verdicts have grounds.** Each verdict that a run returns has a ground at a moment
    of the stay of its call, the last of which is the one that returns it. And an open
    gate that has a slot once it has observed the window gives it to whoever arrives. -/
theorem verdicts_grounded (policy : Policy) (first : Instant) (es : List Event) :
    let g := ((start policy first).run es).1
    (∀ event call v, .returned call v ∈ (g.step event).2 →
      ∃ before stay request ttl,
        (start policy first).history (es ++ [event]) = before ++ stay ∧
        Stay call request ttl stay ∧ ∃ m ∈ stay, Ground call request ttl m v) ∧
    (∀ call request ttl now, g.callers.contains call = false →
      (g.roll now).1.closed = false → (g.roll now).1.admitted < policy.quota.toNat →
      (g.step (.arrive call request ttl now)).2 =
        (g.roll now).2 ++ [.granted call, .returned call true]) := by
  intro g
  have hstart := sound_start policy first
  have hsound : g.Sound := run_sound hstart es
  have hnobody : Grounded [] (start policy first) := fun _ _ hfind => nomatch hfind
  have hgrounded : Grounded ((start policy first).history es) g :=
    grounded_run hstart hnobody es
  constructor
  · intro event call v hreturned
    have hhistory : (start policy first).history (es ++ [event]) =
        (start policy first).history es ++ [⟨g, event⟩] := history_append _ _ _
    rw [hhistory]
    rcases returned_of_move hsound (step_move g event) hreturned with
      ⟨old, hold, hcase⟩ | ⟨hnew, request, ttl, now, hevent, hground⟩
    · -- The call was there, and the moment that returns it ends its stay.
      rcases hgrounded call old hold with
        ⟨before, stay, request, ttl, hsplit, hstay, hreq, hgiven⟩
      have hwaits := Table.contains_of_find? hold
      refine ⟨before, stay ++ [⟨g, event⟩], request, ttl, ?_, stay_append hstay hwaits, ?_⟩
      · rw [hsplit, List.append_assoc]
      · rcases hcase with hverdict | hnow
        · rcases hgiven v hverdict with ⟨m, hm, hground⟩
          exact ⟨m, List.mem_append_left _ hm, hground⟩
        · exact ⟨_, List.mem_append_right _ List.mem_cons_self, hnow request ttl hreq⟩
    · -- The call arrived, and its stay is this one moment.
      have habsent := Table.not_contains_of_find? hnew
      refine ⟨_, [⟨g, event⟩], request, ttl, rfl, ?_, _, List.mem_cons_self, hground⟩
      exact ⟨⟨now, hevent⟩, habsent, fun _ hm => absurd hm List.not_mem_nil⟩
  · intro call request ttl now hnew hopen hslot
    refine admitted_of_slot hnew hopen ((hasQuota_iff _).mpr ?_)
    rw [roll_policy hsound.toPaired, run_policy hstart]
    exact hslot

/-- In the rush the call that collects its verdict has a ground for it. -/
theorem verdicts_grounded_in_rush :
    .returned 1 true ∈ ((Rush.crowd.run Rush.turn).1.step (.collect 1)).2 ∧
    ∃ before stay request ttl,
      (start Rush.policy Instant.epoch).history
        (Rush.arrivals ++ Rush.turn ++ [.collect 1]) = before ++ stay ∧
      Stay 1 request ttl stay ∧ ∃ m ∈ stay, Ground 1 request ttl m true :=
  ⟨by decide,
    (verdicts_grounded Rush.policy Instant.epoch (Rush.arrivals ++ Rush.turn)).1
      (.collect 1) 1 true (by decide)⟩

end Gate

end Turnstile
