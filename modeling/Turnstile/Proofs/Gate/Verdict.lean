import Turnstile.Proofs.Gate.History
import Turnstile.Proofs.Gate.Passage

/-!
# One Verdict for Each Call

Every call that waits is sent exactly one verdict, unless it ends before.

A verdict is sent where an entry is taken out of the line, and the two are separate
statements in each of the places that do so. An entry that was taken out without a
verdict would leave its call with nothing to wait for; one that stayed in line after
its call ended would take a slot that nobody uses. Neither happens, for the line and
the calls are paired in every state.

What a call was sent is also told by the notices, and the history of a run tells when
the call began to wait and when it ended. `account` keeps this record from the history
alone, and it agrees with the calls of the gate. So "sent once" is a statement about
what was noticed and not about the state: the record of a call in line is empty, and
that of a call out of line has one verdict in it.

## Main definitions

* `account`: What a call was sent since it began to wait.
* `Gate.undecided`: The calls of a priority that were sent nothing yet.

## Theorems

* `account_notices`: Verdicts sent to a row of entries tell each of their calls once.
* `account_move`: An event changes the record of a call as it changes the call.
* `waiting_eq_undecided`: The line has an entry for each call that was sent nothing.
* `one_verdict_each`: Each call waits in line or has one verdict, and what follows.
-/

namespace Turnstile

/-- The record of a call after a notice. -/
def Notice.account (call : CallId) (record : Option (List Bool)) : Notice → Option (List Bool)
  | .parked c => if c = call then some [] else record
  | .granted c => if c = call then record.map (· ++ [true]) else record
  | .denied c => if c = call then record.map (· ++ [false]) else record
  | .returned c _ => if c = call then none else record

/-- The record of a call after a moment. -/
def Moment.account (call : CallId) (record : Option (List Bool)) (m : Moment) :
    Option (List Bool) :=
  m.notices.foldl (Notice.account call) (if m.event = .drop call then none else record)

/-- What a call was sent since it began to wait, and `none` for a call that does not
    wait, because it did not begin to, or returned, or was given up. -/
def account (call : CallId) (moments : List Moment) : Option (List Bool) :=
  moments.foldl (Moment.account call) none

/-- The call a notice is about. -/
def Notice.call : Notice → CallId
  | .parked c | .granted c | .denied c | .returned c _ => c

theorem account_of_ne {call : CallId} {n : Notice} (h : n.call ≠ call)
    (record : Option (List Bool)) : n.account call record = record := by
  cases n <;> exact if_neg h

theorem Waiter.call_notice (verdict : Waiter → Bool) (w : Waiter) :
    (w.notice verdict).call = w.call := by
  unfold Waiter.notice
  split <;> rfl

theorem Waiter.account_notice (verdict : Waiter → Bool) (w : Waiter)
    (record : Option (List Bool)) :
    (w.notice verdict).account w.call record = record.map (· ++ [verdict w]) := by
  unfold Waiter.notice
  cases verdict w
  · exact if_pos rfl
  · exact if_pos rfl

/-- The notices of verdicts on entries of other calls leave the record as it is. -/
theorem account_notices_of_ne {call : CallId} {entries : List (Place × Waiter)}
    (h : ∀ x ∈ entries, x.2.call ≠ call) (verdict : Waiter → Bool)
    (record : Option (List Bool)) :
    (entries.map fun x => x.2.notice verdict).foldl (Notice.account call) record = record := by
  induction entries with
  | nil => rfl
  | cons x rest ih =>
      rw [List.map_cons, List.foldl_cons, account_of_ne]
      · exact ih fun y hy => h y (List.mem_cons_of_mem _ hy)
      · rw [Waiter.call_notice]
        exact h x List.mem_cons_self

/-- The notices of verdicts on entries of different calls tell each call once. -/
theorem account_notices {entries : List (Place × Waiter)}
    (hdistinct : entries.Pairwise fun e x => e.2.call ≠ x.2.call) {e : Place × Waiter}
    (he : e ∈ entries) (verdict : Waiter → Bool) (record : Option (List Bool)) :
    (entries.map fun x => x.2.notice verdict).foldl (Notice.account e.2.call) record =
      record.map (· ++ [verdict e.2]) := by
  induction entries with
  | nil => exact absurd he List.not_mem_nil
  | cons x rest ih =>
      have hc := List.pairwise_cons.mp hdistinct
      rw [List.map_cons, List.foldl_cons]
      rcases List.mem_cons.mp he with rfl | hmem
      · -- The entry is the first, and the notices after it are about others.
        rw [Waiter.account_notice]
        exact account_notices_of_ne (fun y hy => (hc.1 y hy).symm) verdict _
      · rw [account_of_ne, ih hc.2 hmem]
        rw [Waiter.call_notice]
        exact hc.1 e hmem

namespace Gate

/-- The record of a call as the gate has it. -/
def record (g : Gate) (call : CallId) : Option (List Bool) :=
  (g.callers.find? call).map (·.verdict.toList)

variable {g g' : Gate} {verdict : Waiter → Bool} {entries : List (Place × Waiter)}
  {event : Event} {notices : List Notice}

/-- Serving changes the record of a call as it changes the call. -/
theorem account_serves (hatt : Attended g.line.toList g.callers)
    (h : Serves verdict entries g g' notices) (call : CallId) :
    notices.foldl (Notice.account call) (g.record call) = g'.record call := by
  rw [h.notices_eq]
  by_cases hserved : ∃ e ∈ entries, e.2.call = call
  · rcases hserved with ⟨e, he, rfl⟩
    have hentries : Attended entries g.callers := fun x hx =>
      hatt x ((mem_of_serves h).mpr (Or.inl hx))
    have hasc : Ascending entries := (List.pairwise_append.mp (ascending_of_serves h)).1
    rw [account_notices (calls_distinct hasc hentries) he, record, record, hentries e he,
      h.told.told e he]
    rfl
  · have hnone : ∀ e ∈ entries, e.2.call ≠ call := fun e he heq => hserved ⟨e, he, heq⟩
    rw [account_notices_of_ne hnone, record, record, h.told.untold call hnone]

theorem record_roll (h : g.Paired) (now : Instant) (call : CallId) :
    (g.roll now).2.foldl (Notice.account call) (g.record call) =
      (g.roll now).1.record call := by
  have hserves := account_serves (paired_observed h now).attended
    (roll_serves h.attended now) call
  rw [record, observed_callers] at hserves
  exact hserves

theorem record_finish (g : Gate) (call : CallId) (place : Place) (other : CallId) :
    (g.finish call place).record other = if call = other then none else g.record other := by
  change ((g.callers.erase call).find? other).map _ = _
  rw [Table.find?_erase_of_eq]
  split <;> rfl

/-- An event changes the record of a call as it changes the call. -/
theorem account_move (h : g.Paired) (hmove : g.Move event g' notices) (call : CallId) :
    notices.foldl (Notice.account call) (if event = .drop call then none else g.record call) =
      g'.record call := by
  -- An arriving call has no record, so that whatever it returns adds none.
  have hnew : ∀ {c : CallId} (now : Instant), g.callers.find? c = none → c = call →
      (g.roll now).1.record call = none := by
    intro c now hnone heq
    rw [record, ← heq, roll_find?_eq_none h now hnone]
    rfl
  cases hmove with
  | nothing _ absent =>
      -- Giving up a call that is not there leaves no record, and there was none.
      split
      next heq =>
        rw [record, absent call heq]
        rfl
      next => rfl
  | @slot c _ _ now new =>
      rw [if_neg Event.noConfusion, List.foldl_append, record_roll h]
      change (if c = call then none
        else if c = call then _ else (g.roll now).1.record call) = (g.roll now).1.record call
      split
      next heq => exact (hnew now new heq).symm
      next => rfl
  | @shut c _ _ now new | @late c _ _ now new =>
      rw [if_neg Event.noConfusion, List.foldl_append, record_roll h]
      change (if c = call then none else (g.roll now).1.record call) = _
      split
      next heq => exact (hnew now new heq).symm
      next => rfl
  | @park c _ _ now =>
      rw [if_neg Event.noConfusion, List.foldl_append, record_roll h, record, record,
        park_callers, Table.find?_insert_of_eq]
      change (if c = call then some [] else _) = _
      split <;> rfl
  | decided | expire =>
      rw [if_neg Event.noConfusion, List.foldl_append, record_roll h, record_finish]
      rfl
  | goOn | wardenWake =>
      rw [if_neg Event.noConfusion]
      exact record_roll h _ call
  | collect =>
      rw [if_neg Event.noConfusion, record_finish]
      rfl
  | @drop c =>
      rw [record_finish]
      simp only [Event.drop.injEq]
      rfl
  | wardenLook | wardenLost =>
      rw [if_neg Event.noConfusion]
      rfl
  | close isOpen =>
      rw [if_neg Event.noConfusion]
      exact account_serves (g := { g with closed := true }) h.attended
        (close_serves h.attended isOpen) call

/-- A run changes the record of a call as it changes the call, event by event. -/
theorem account_run (h : g.Sound) (es : List Event) (call : CallId) :
    (g.history es).foldl (Moment.account call) (g.record call) =
      (g.run es).1.record call := by
  induction es generalizing g with
  | nil => rfl
  | cons e es ih =>
      -- The first moment is folded away by what an event does to the record.
      have hstep := account_move h.toPaired (step_move g e) call
      rw [history, List.foldl_cons, run_cons, ← ih (step_sound h e), ← hstep]
      rfl

/-- The calls of a priority that wait and were sent nothing yet. -/
def undecided (g : Gate) (q : Priority) : Nat :=
  g.callers.entries.countP fun e => e.2.verdict.isNone && e.2.place.priority == q

/-- The line has an entry for each call that was sent nothing, and no other entries. -/
theorem waiting_eq_undecided (h : g.Paired) (q : Priority) :
    g.line.waiting q = g.undecided q := by
  -- The two are the lengths of lists of the same calls, neither of which repeats one.
  let inLine := (g.line.toList.filter fun e => e.1.priority == q).map (·.2.call)
  let unsent := (g.callers.entries.filter fun e =>
    e.2.verdict.isNone && e.2.place.priority == q).map (·.1)
  have hline : inLine.Nodup := by
    refine List.pairwise_map.mpr (List.Pairwise.filter _ ?_)
    exact calls_distinct g.line.ascending_toList h.attended
  have hunsent : unsent.Nodup :=
    g.callers.nodup_keys.sublist (List.filter_sublist.map _)
  have hmem : ∀ call, call ∈ inLine ↔ call ∈ unsent := by
    intro call
    simp only [inLine, unsent, List.mem_map, List.mem_filter, Bool.and_eq_true, beq_iff_eq,
      Option.isNone_iff_eq_none]
    constructor
    · rintro ⟨e, ⟨he, hq⟩, rfl⟩
      exact ⟨(e.2.call, ⟨e.1, e.2.deadline, none⟩),
        ⟨(Table.find?_eq_some_iff _ _ _).mp (h.attended e he), rfl, hq⟩, rfl⟩
    · rintro ⟨⟨c, caller⟩, ⟨he, hverdict, hq⟩, rfl⟩
      have hfind := (Table.find?_eq_some_iff _ _ _).mpr he
      -- A call that was sent nothing has no verdict, so it must have an entry.
      rcases h.entry_or_verdict c caller hfind with hentry | ⟨-, hsome⟩
      · exact ⟨(caller.place, ⟨c, caller.deadline⟩), ⟨hentry, hq⟩, rfl⟩
      · rw [show caller.verdict = none from hverdict] at hsome
        exact absurd hsome Bool.false_ne_true
  have hlength := ((List.perm_ext_iff_of_nodup hline hunsent).mpr hmem).length_eq
  rw [List.length_map, List.length_map] at hlength
  rw [Line.waiting, undecided, List.countP_eq_length_filter, List.countP_eq_length_filter]
  exact hlength

/-- No other call stands at the place of an entry than that of the entry. -/
theorem call_of_place (h : g.Paired) {e : Place × Waiter} (he : e ∈ g.line.toList)
    {call : CallId} {caller : Caller} (hfind : g.callers.find? call = some caller)
    (hplace : caller.place = e.1) : call = e.2.call := by
  have hown := (entry_of_place h hfind he hplace.symm).1
  rw [hown]

/-- An entry on time that is taken out when the window is observed has its slot: its
    call is there to be sent the verdict. -/
theorem granted_of_roll (h : g.Paired) {now : Instant} {e : Place × Waiter}
    (he : e ∈ g.line.toList) (hgone : (g.roll now).1.line.contains e.1 = false)
    (hintime : now < e.2.deadline) :
    .granted e.2.call ∈ (g.roll now).2 ∧
      (g.roll now).1.callers.find? e.2.call = some ⟨e.1, e.2.deadline, some true⟩ := by
  have hserved := mem_served_of_not_contains h he hgone
  have htime := (e.2.onTime_iff now).mpr hintime
  constructor
  · rw [roll_notices h]
    refine List.mem_map.mpr ⟨e, hserved, ?_⟩
    rw [Waiter.notice, if_pos htime]
  · rw [(roll_serves h.attended now).told.told e hserved, htime]

/-- Cleaning up after a call that ended or was decided takes nobody out of the line,
    however late it is done. -/
theorem leave_of_decided (h : g.Sound) {call : CallId} {caller : Caller}
    (hfind : g.callers.find? call = some caller) (es : List Event)
    (hover : ∀ c, (g.run es).1.callers.find? call = some c → c.place = caller.place →
      c.verdict.isSome = true) :
    (g.run es).1.line.leave caller.place = (g.run es).1.line := by
  refine Line.leave_of_not_contains ((Line.contains_eq_false_iff _ _).mpr fun w hw => ?_)
  -- Whoever stood there would be this call, and would have been sent nothing.
  have hold := mem_of_run h (h.ticket_lt call caller hfind) hw
  have hown := (entry_of_place h.toPaired hfind hold rfl).1
  have hattended := (run_sound h es).attended _ hw
  have hw' : w = ⟨call, caller.deadline⟩ := congrArg Prod.snd hown
  rw [hw'] at hattended
  exact absurd (hover _ hattended rfl) Bool.false_ne_true

/-- **Each call has one verdict.** In every state of a gate a call that waits is in line
    and was sent nothing, or is out of line and was sent one verdict, and each entry of
    the line is one of a single call. So a call never returns without a verdict unless
    its own time is over while it is in line; a slot for an entry that is taken out
    reaches its call; cleaning up after a call takes nobody else out of the line; and
    the counts are those of the calls that were sent nothing. -/
theorem one_verdict_each (policy : Policy) (first : Instant) (es : List Event) :
    let g := ((start policy first).run es).1
    let told := fun call => account call ((start policy first).history es)
    (∀ call, (told call).isSome = g.callers.contains call) ∧
    (∀ call caller, g.callers.find? call = some caller →
      (g.line.contains caller.place = true ∧ caller.verdict = none ∧
        told call = some []) ∨
      (g.line.contains caller.place = false ∧
        ∃ v, caller.verdict = some v ∧ told call = some [v])) ∧
    (∀ e ∈ g.line.toList,
      (∃ caller, g.callers.find? e.2.call = some caller ∧ caller.place = e.1) ∧
      ∀ call caller, g.callers.find? call = some caller → caller.place = e.1 →
        call = e.2.call) ∧
    (∀ call other v, .returned other v ∈ (g.collect call).2 →
      other = call ∧ ∃ caller, g.callers.find? call = some caller ∧
        caller.verdict = some v) ∧
    (∀ call now other v, .returned other v ∈ (g.wake call now).2 →
      other = call ∧ ∃ caller, (g.roll now).1.callers.find? call = some caller ∧
        (caller.verdict = some v ∨
          (g.roll now).1.line.contains caller.place = true ∧ caller.deadline ≤ now ∧
            v = false)) ∧
    (∀ now, ∀ e ∈ g.line.toList, (g.roll now).1.line.contains e.1 = false →
      now < e.2.deadline → .granted e.2.call ∈ (g.roll now).2 ∧
        (g.roll now).1.callers.find? e.2.call = some ⟨e.1, e.2.deadline, some true⟩) ∧
    (∀ call caller, g.callers.find? call = some caller → ∀ fs : List Event,
      (∀ c, (g.run fs).1.callers.find? call = some c → c.place = caller.place →
        c.verdict.isSome = true) →
      (g.run fs).1.line.leave caller.place = (g.run fs).1.line) ∧
    ∀ q, g.counts.find? q =
      if g.undecided q = 0 then none else some (g.undecided q) := by
  intro g told
  -- The record kept from the history is the one the gate has, so both say the same.
  have hsound : g.Sound := sound_of_start policy first es
  have htold : ∀ call, told call = g.record call := account_run (sound_start policy first) es
  have hpaired := hsound.toPaired
  refine ⟨fun call => ?_, fun call caller hfind => ?_, fun e he => ⟨?_, ?_⟩, ?_, ?_, ?_, ?_,
    fun q => ?_⟩
  · rw [htold, record, Option.isSome_map]
    rfl
  · have hrecord : told call = some caller.verdict.toList := by
      rw [htold, record, hfind]
      rfl
    rcases in_line_or_decided hpaired hfind with ⟨hwaits, hnone⟩ | ⟨hout, v, hverdict⟩
    · rw [hnone] at hrecord
      exact Or.inl ⟨hwaits, hnone, hrecord⟩
    · rw [hverdict] at hrecord
      exact Or.inr ⟨hout, v, hverdict, hrecord⟩
  · exact ⟨_, hsound.attended e he, rfl⟩
  · exact fun call caller => call_of_place hpaired he
  · exact fun call other v => verdict_of_collect hpaired (step_move g (.collect call))
  · exact fun call now other v => verdict_of_wake hpaired (step_move g (.wake call now))
  · exact fun now e => granted_of_roll hpaired
  · exact fun call caller hfind fs => leave_of_decided hsound hfind fs
  · rw [counts, hsound.exact.counts_eq q, waiting_eq_undecided hpaired]

/-- In the rush one call is decided by the second window and the other is not. -/
theorem one_verdict_each_in_rush :
    account 1 ((start Rush.policy Instant.epoch).history (Rush.arrivals ++ Rush.turn)) =
      some [true] ∧
    account 2 ((start Rush.policy Instant.epoch).history (Rush.arrivals ++ Rush.turn)) =
      some [] ∧
    (Rush.crowd.run Rush.turn).1.counts.find? 0 =
      if (Rush.crowd.run Rush.turn).1.undecided 0 = 0 then none
      else some ((Rush.crowd.run Rush.turn).1.undecided 0) :=
  ⟨by decide, by decide,
    (one_verdict_each Rush.policy Instant.epoch (Rush.arrivals ++ Rush.turn)).2.2.2.2.2.2.2 0⟩

end Gate

end Turnstile
