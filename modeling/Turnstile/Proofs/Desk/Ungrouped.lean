import Turnstile.Config.Fault
import Turnstile.Proofs.Desk.Tally
import Turnstile.Proofs.Gate.Precedence

/-!
# Requests without a Group

A request whose headers name no group has the default priority, and the default is meant to be the
highest there is. But smaller priorities go first, priorities have a sign, and a configuration
may give any of them to a group. So the default is the highest only where no group is
below it.

What goes first is decided by places in line, and a place is taken once, when a request parks.
`place_of_parks` tells the place from the request: its priority from the headers, the
reading of the clock, and the ticket that is next at the gate. From then on the two places do
not change, whatever happens at the desk, and the order of service is theirs.

A desk takes a number again once its call is answered. A request parks only under a number
that is free, so an entry with the number that is in the queue afterwards is the entry of
this request and not of an older one.

## Main definitions

* `QueueRule.group?`: The priority of the group that headers name.
* `Desk.queueAt`: Who waits in the queue of a key.
* `Desk.Parks`: A step by which a call begins to wait.
* `Desk.Yields`: A step that does not pass over one who waits for another.
* `Salon`: A remedy with groups on either side of the default, for examples.

## Theorems

* `place_of_parks`: The place of a request that parks.
* `yields_of_before`: Who stands before another is not passed over for it.
* `ungrouped_first_unless_negative`: Who has no group goes before the groups of no negative
  priority, and after the others.
* `ungrouped_passed_over_for_negative`: A configuration without fault under which a group
  goes first.
-/

namespace Turnstile

/-- The priority of the group that the headers name, if they name one. -/
def QueueRule.group? (rule : QueueRule) (headers : Headers) : Option Priority := do
  let prioritization ← rule.prioritization
  let value ← headers.first? prioritization.header
  prioritization.groups.find? (← value.text?)

theorem QueueRule.priorityOf_eq (rule : QueueRule) (headers : Headers) :
    rule.priorityOf headers = (rule.group? headers).getD Priority.default := rfl

namespace Desk

/-- The reading of the clock that comes with a step. -/
def Step.reading? : Step → Option Instant
  | .request _ _ _ _ now => some now
  | .gate _ event => event.reading?
  | .closeAll => none

/-- Who waits in the queue of a key, in the order of service. -/
def queueAt (d : Desk) (key : Key) : List (Place × Waiter) :=
  match d.registry.find? key with
  | some gate => gate.line.toList
  | none => []

/-- A step by which a call begins to wait under a number that was free, and its entry. -/
structure Parks (d : Desk) (key : Key) (s : Step) (e : Place × Waiter) : Prop where
  /-- No call bore the number. -/
  free : d.dockets.contains e.2.call = false
  /-- The entry is in the queue after the step. -/
  waits : e ∈ (d.step s).1.queueAt key

/-- A step does not pass over the first of two that wait for the second: if the second is given
    a slot, then the first has its slot before, or its time is over. -/
def Yields (d : Desk) (key : Key) (first second : Place × Waiter) (s : Step) : Prop :=
  (key, .granted second.2.call) ∈ d.notices s →
    ∃ now, s.reading? = some now ∧ (now < first.2.deadline →
      [(key, .granted first.2.call), (key, .granted second.2.call)].Sublist (d.notices s))

variable {d : Desk} {key : Key} {s : Step} {rs : Registry.Step} {gate : Gate}
  {a b e : Place × Waiter}

theorem queueAt_of_find? (h : d.registry.find? key = some gate) :
    d.queueAt key = gate.line.toList := by
  rw [queueAt, h]

theorem exists_gate_of_mem (h : e ∈ d.queueAt key) :
    ∃ gate, d.registry.find? key = some gate ∧ e ∈ gate.line.toList := by
  unfold queueAt at h
  split at h
  next gate hfind => exact ⟨gate, hfind, h⟩
  next => exact absurd h List.not_mem_nil

/-- The gate of a key after a run is what events made of the gate before. -/
theorem exists_events_of_run (h : d.registry.find? key = some gate) (ss : List Step) :
    ∃ es, (d.run ss).1.registry.find? key = some (gate.run es).1 := by
  -- A gate is never dropped, so a step leaves one that the next step finds.
  induction ss generalizing d gate with
  | nil => exact ⟨[], h⟩
  | cons s ss ih =>
      have hstep : ∃ es, (d.step s).1.registry.find? key = some (gate.run es).1 := by
        rw [registry_step]
        cases d.registryStep? s with
        | none => exact ⟨[], h⟩
        | some rs => exact ⟨_, (Registry.step_of_find? key rs d.registry gate h).1⟩
      rcases hstep with ⟨es, hfirst⟩
      rcases ih hfirst with ⟨fs, hrest⟩
      exact ⟨es ++ fs, by rw [run_cons, hrest, Gate.run_append]⟩

/-- An event that reads the clock has the reading of the step that brings it about. -/
theorem reading_of_event {event : Event} {now : Instant} (hs : d.registryStep? s = some rs)
    (hevent : rs.event? key = some event) (hnow : event.reading? = some now) :
    s.reading? = some now := by
  cases s with
  | closeAll =>
      cases hs
      cases hevent
      exact hnow
  | request call remedy id headers t =>
      simp only [registryStep?] at hs
      split at hs
      · cases hs
      · split at hs
        · cases hs
        · cases hs
          simp only [Registry.Step.event?] at hevent
          split at hevent
          · cases hevent
            exact hnow
          · cases hevent
  | gate k e =>
      have hrs : rs = .gate k e := by
        cases e with
        | arrive => cases hs
        | drop call =>
            simp only [registryStep?] at hs
            split at hs
            · exact (Option.some.inj hs).symm
            · cases hs
        | wake | collect | wardenWake | wardenLook | wardenLost | close | read =>
            exact (Option.some.inj hs).symm
      rw [hrs, Registry.Step.event?] at hevent
      split at hevent
      · cases hevent
        exact hnow
      · cases hevent

theorem docketed_of_mem {r : Registry} {dockets : Table CallId Docket} (h : Known r dockets)
    (hfind : r.find? key = some gate) (he : e ∈ gate.line.toList) :
    dockets.contains e.2.call = true :=
  h.waits hfind (Table.contains_of_find? ((h.sound hfind).attended e he))

/-- A request that parks stands at the priority of its headers, at the reading of the clock, and
    at the next ticket of the gate that it comes to. -/
theorem place_of_parks (h : Known d.registry d.dockets) {remedy : Remedy} {rule : QueueRule}
    (hrule : remedy.rule = some rule) {call : CallId} {id : String} {headers : Headers}
    {now : Instant}
    (hparks : d.Parks ⟨remedy.name, rule.policy⟩ (.request call remedy id headers now) e) :
    ∃ ticket, e.1 = ⟨rule.priorityOf headers, now, ticket⟩ ∧
      ∀ gate, d.registry.find? ⟨remedy.name, rule.policy⟩ = some gate →
        ticket = gate.line.nextTicket := by
  generalize hkey : (⟨remedy.name, rule.policy⟩ : Key) = key at hparks ⊢
  rcases exists_gate_of_mem hparks.waits with ⟨gate, hfind, hmem⟩
  have hnew : ∀ {r : Registry} {gate : Gate}, Known r d.dockets → r.find? key = some gate →
      e ∉ gate.line.toList := fun hknown hgate hin =>
    Bool.false_ne_true (hparks.free.symm.trans (docketed_of_mem hknown hgate hin))
  have hstep := registry_step d (.request call remedy id headers now)
  simp only [registryStep?, hrule, hkey] at hstep
  by_cases hthere : d.dockets.contains call = true
  · -- The number is in use, so the queue is as it was, without the entry.
    rw [if_pos hthere] at hstep
    rw [hstep] at hfind
    exact absurd hmem (hnew h hfind)
  · -- The gate is there before the request comes to it, so the entry is new to this gate.
    rw [if_neg hthere] at hstep
    simp only [Registry.step_arrive_eq] at hstep
    have hself := Registry.find?_ensure_self d.registry key now
    rw [hstep, Registry.find?_visit_self hself] at hfind
    cases hfind
    have hknown := known_ensure h key now
    rcases Gate.mem_of_move (hknown.sound hself) (Gate.step_move _ _) hmem with
      hold | ⟨_, _, _, _, heq, rfl⟩
    · exact absurd hold (hnew hknown hself)
    · cases heq
      refine ⟨_, rfl, fun gate hgate => ?_⟩
      rw [Registry.ensure, hgate]

/-- Of two in one queue, the one that stands before the other is not passed over for it. -/
theorem yields_of_before (h : Known d.registry d.dockets) (ha : a ∈ d.queueAt key)
    (hb : b ∈ d.queueAt key) (hab : a.1.Before b.1) (s : Step) : d.Yields key a b s := by
  intro hgrant
  rcases exists_gate_of_mem ha with ⟨gate, hfind, hina⟩
  rw [queueAt_of_find? hfind] at hb
  have hsound := h.sound hfind
  unfold notices at hgrant ⊢
  cases hs : d.registryStep? s with
  | none =>
      rw [hs] at hgrant
      exact absurd hgrant List.not_mem_nil
  | some rs =>
      rw [hs] at hgrant
      have hat := Registry.step_of_find? key rs d.registry gate hfind
      have hnotice := hat.mem hgrant
      cases hevent : rs.event? key with
      | none =>
          rw [hevent] at hnotice
          exact absurd hnotice List.not_mem_nil
      | some event =>
          have hrun : gate.run [event] = gate.step event :=
            Prod.ext rfl (List.append_nil (gate.step event).2)
          rw [hevent, Option.toList_some, hrun] at hnotice hat
          have hmove := gate.step_move event
          -- A grant to one who was waiting comes from a roll of the window at that reading.
          rcases Gate.served_of_granted hsound hmove hb hnotice with ⟨now, hnow, -, hserved, htime⟩
          refine ⟨now, reading_of_event hs hevent hnow, fun hintime => ?_⟩
          have hfirst := Gate.served_before hsound.toPaired hina hserved hab
          have hslots := (Gate.granted_before hsound.toPaired hfirst hintime htime).trans
            (Gate.roll_sublist_of_move hmove hnow (List.ne_nil_of_mem hnotice))
          have hmine := hslots.map (key, ·)
          rw [← hat.2] at hmine
          exact hmine.trans List.filter_sublist

/-- **Who has no group goes before the groups of no negative priority.** In a run of a new desk let
    two requests for one remedy park, first one that names no group, and later, at a reading of the
    clock that is no earlier, one of a group. However the run goes on, as long as both are in the
    queue the first is never passed over for the second, if the priority of the group is
    not negative. If it is, the second is never passed over for the first. -/
theorem ungrouped_first_unless_negative {remedy : Remedy} {rule : QueueRule}
    (hrule : remedy.rule = some rule) (pre mid post : List Step) {call other : CallId}
    {id id' : String} {headers headers' : Headers} {now later : Instant} {n : Priority}
    (hungrouped : rule.group? headers = none) (hgrouped : rule.group? headers' = some n)
    (hclock : now ≤ later) {a b : Place × Waiter} :
    let key : Key := ⟨remedy.name, rule.policy⟩
    let first := Step.request call remedy id headers now
    let second := Step.request other remedy id' headers' later
    let d₁ := (empty.run pre).1
    let d₂ := ((d₁.step first).1.run mid).1
    let d₃ := ((d₂.step second).1.run post).1
    d₁.Parks key first a → d₂.Parks key second b → a ∈ d₃.queueAt key → b ∈ d₃.queueAt key →
      ∀ s, (0 ≤ n → d₃.Yields key a b s) ∧ (n < 0 → d₃.Yields key b a s) := by
  intro key first second d₁ d₂ d₃ hparks hparks' ha hb s
  have hknown₁ : Known d₁.registry d₁.dockets := known_run known_empty pre
  have hknown₂ : Known d₂.registry d₂.dockets := known_run (known_step hknown₁ first) mid
  have hknown₃ : Known d₃.registry d₃.dockets := known_run (known_step hknown₂ second) post
  rcases place_of_parks hknown₁ hrule hparks with ⟨ticket, hplace, -⟩
  rcases place_of_parks hknown₂ hrule hparks' with ⟨ticket', hplace', hnext⟩
  -- Tickets went on between the two.
  have htickets : ticket < ticket' := by
    rcases exists_gate_of_mem hparks.waits with ⟨gate, hfind, hin⟩
    rcases exists_events_of_run hfind mid with ⟨es, hlater⟩
    have hsound := (known_step hknown₁ first).sound hfind
    have hgiven := hsound.exact.ticket_lt a hin
    rw [hplace] at hgiven
    rw [hnext _ hlater]
    exact Nat.lt_of_lt_of_le hgiven (Gate.nextTicket_le_run hsound es)
  rw [QueueRule.priorityOf_eq, hungrouped, Option.getD_none] at hplace
  rw [QueueRule.priorityOf_eq, hgrouped, Option.getD_some] at hplace'
  refine ⟨fun hn => yields_of_before hknown₃ ha hb ?_ s,
    fun hn => yields_of_before hknown₃ hb ha ?_ s⟩
  · -- At one priority the clock decides, and at one reading of it the tickets do.
    rw [hplace, hplace']
    rcases Int32.lt_or_eq_of_le hn with hpositive | rfl
    · exact Or.inl hpositive
    · refine Or.inr ⟨rfl, ?_⟩
      rcases Int.lt_or_eq_of_le hclock with hearlier | hnanos
      · exact Or.inl hearlier
      · have hequal : compare now later = .eq := Int.compare_eq_eq.mpr hnanos
        exact Or.inr ⟨Std.LawfulEqOrd.eq_of_compare hequal, htickets⟩
  · rw [hplace, hplace']
    exact Or.inl hn

namespace Salon

/-- So many requests a minute, and a group on either side of the default priority. -/
def rule (quota : UInt32) : QueueRule where
  quota
  windowSeconds := 60
  ttlSeconds := 300
  prioritization := some ⟨"x-tier", Table.ofList [("gold", -1), ("iron", 0)]⟩

/-- The remedy with that rule. -/
def remedy (quota : UInt32) : Remedy where
  name := "salon"
  rule := some (rule quota)

/-- The key of its queue. -/
def queue (quota : UInt32) : Key := ⟨"salon", (rule quota).policy⟩

/-- The headers of a request of a group. -/
def headers (group : String) : Headers := [(⟨"x-tier"⟩, ⟨group⟩)]

/-- The second minute begins. -/
def minute : Instant := ⟨60000000000, by decide, by decide⟩

/-- A request of no group. -/
def plain (quota : UInt32) (call : CallId) : Step :=
  .request call (remedy quota) "plain" [] Instant.epoch

/-- A request of a group. -/
def grouped (quota : UInt32) (call : CallId) (group : String) : Step :=
  .request call (remedy quota) "grouped" (headers group) Instant.epoch

/-- Who watches the queue goes to sleep until the next minute. -/
def watch (quota : UInt32) : Step := .gate (queue quota) (.wardenLook 0)

/-- And wakes up when it begins. -/
def turn (quota : UInt32) : Step := .gate (queue quota) (.wardenWake 0 minute)

/-- The entry of a request that came at the start and may wait for five minutes. -/
def entry (call : CallId) (priority : Priority) (ticket : Nat) : Place × Waiter :=
  (⟨priority, Instant.epoch, ticket⟩, ⟨call, ⟨300000000000, by decide, by decide⟩⟩)

end Salon

/-- A request without a group and one of a group of the same priority come at once: when both
    are let in, the one without a group is let in first. -/
theorem ungrouped_first_unless_negative_in_salon :
    let d₁ := (empty.run [Salon.plain 2 0, Salon.plain 2 1]).1
    let d₂ := ((d₁.step (Salon.plain 2 2)).1.run []).1
    let d₃ := ((d₂.step (Salon.grouped 2 3 "iron")).1.run [Salon.watch 2]).1
    d₁.Parks (Salon.queue 2) (Salon.plain 2 2) (Salon.entry 2 0 0) ∧
    d₂.Parks (Salon.queue 2) (Salon.grouped 2 3 "iron") (Salon.entry 3 0 1) ∧
    [(Salon.queue 2, .granted 2), (Salon.queue 2, .granted 3)].Sublist
      (d₃.notices (Salon.turn 2)) := by
  intro d₁ d₂ d₃
  have hparks : d₁.Parks (Salon.queue 2) (Salon.plain 2 2) (Salon.entry 2 0 0) :=
    ⟨by decide +kernel, by decide +kernel⟩
  have hparks' : d₂.Parks (Salon.queue 2) (Salon.grouped 2 3 "iron") (Salon.entry 3 0 1) :=
    ⟨by decide +kernel, by decide +kernel⟩
  have hgrant : (Salon.queue 2, .granted 3) ∈ d₃.notices (Salon.turn 2) := by decide +kernel
  have hnone : (Salon.rule 2).group? [] = none := rfl
  have hiron : (Salon.rule 2).group? (Salon.headers "iron") = some 0 := by decide +kernel
  have hwaits : Salon.entry 2 0 0 ∈ d₃.queueAt (Salon.queue 2) := by decide +kernel
  have hwaits' : Salon.entry 3 0 1 ∈ d₃.queueAt (Salon.queue 2) := by decide +kernel
  have hyields := (ungrouped_first_unless_negative (rfl : (Salon.remedy 2).rule = some _)
    [Salon.plain 2 0, Salon.plain 2 1] [] [Salon.watch 2] hnone hiron (Int.le_refl _) hparks
    hparks' hwaits hwaits' (Salon.turn 2)).1 (by decide)
  rcases hyields hgrant with ⟨now, hnow, hslots⟩
  cases hnow
  exact ⟨hparks, hparks', hslots (by decide)⟩

/-- A request without a group waits, and one of a group of negative priority comes after it and
    waits too. There is one slot in the next minute, and it goes to the one that came later,
    while the other has four minutes left to wait. The configuration has no fault. -/
theorem ungrouped_passed_over_for_negative :
    let config : Config := { remedies := [Salon.remedy 1] }
    let d₁ := (empty.run [Salon.plain 1 0]).1
    let d₂ := ((d₁.step (Salon.plain 1 1)).1.run []).1
    let d₃ := ((d₂.step (Salon.grouped 1 2 "gold")).1.run [Salon.watch 1]).1
    let waiting := Salon.entry 1 0 0
    config.check = .ok config ∧ Salon.remedy 1 ∈ config.remedies ∧
    (Salon.rule 1).group? [] = none ∧
    (Salon.rule 1).group? (Salon.headers "gold") = some (-1) ∧
    d₁.Parks (Salon.queue 1) (Salon.plain 1 1) waiting ∧
    d₂.Parks (Salon.queue 1) (Salon.grouped 1 2 "gold") (Salon.entry 2 (-1) 1) ∧
    waiting ∈ d₃.queueAt (Salon.queue 1) ∧
    (Salon.queue 1, .granted 2) ∈ d₃.notices (Salon.turn 1) ∧
    waiting ∈ (d₃.step (Salon.turn 1)).1.queueAt (Salon.queue 1) ∧
    Salon.minute < waiting.2.deadline := by
  intro config d₁ d₂ d₃ waiting
  have hvalid : config.check = .ok config :=
    (Config.check_eq_ok_iff _ _).mpr ⟨by decide +kernel, rfl⟩
  refine ⟨hvalid, List.mem_cons_self, rfl, by decide +kernel, ⟨?_, ?_⟩, ⟨?_, ?_⟩, ?_, ?_, ?_, ?_⟩
  all_goals decide +kernel

end Desk

end Turnstile
