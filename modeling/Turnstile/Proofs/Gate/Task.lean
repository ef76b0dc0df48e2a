import Turnstile.Proofs.Gate.Verdict

/-!
# What Tasks Do

A gate that is left to its tasks does two things at each event, one after the other.

Calls that wait and wardens are tasks. A task that wakes up may find that a later window
has begun, and serve the line into it. Then it sees to its own affairs: a warden goes or
sleeps, and a call goes on waiting, returns with the verdict it was sent, or returns
refused if it is in line and its time is over. Everything else comes from outside, when a
call arrives or is given up or the gate is closed.

So each event of a task is split in two with a gate in the middle, and what is to be shown
of such events is shown of `Looks` and `Acts` in turn. The first is all about those in line
who have time left, for it is among them that slots are given away. The second does not
concern them at all: the only entry that it takes out is one whose time is over.

## Main definitions

* `Event.isOutside`: An event is not one of a task.
* `grantees`: The calls that are given slots.
* `inTime`: The entries that have time left at a reading.
* `Gate.Looks`: A task serves the line into a later window, or does not.
* `Gate.Acts`: A task sees to its own affairs.

## Theorems

* `inTime_servedOf`, `inTime_of_servedOf`: Serving takes the first of those in time, and
  leaves the others.
* `looks_acts_of_move`: An event of a task is a look and an act.
* `inTime_of_looks`, `inTime_of_acts`: What the two do to those in time.
* `caller_of_looks`, `caller_of_acts`: What becomes of a call that waits.
* `absent_of_looks`, `absent_of_acts`: Neither concerns a call that is not there.
-/

namespace Turnstile

/-- Whether an event comes from outside: a call arrives or is given up, or the gate is
    closed. -/
def Event.isOutside : Event → Bool
  | .arrive .. => true
  | .drop _ => true
  | .close => true
  | _ => false

/-- The call that was given a slot, if that is what is noticed. -/
def Notice.grantee? : Notice → Option CallId
  | .granted call => some call
  | _ => none

/-- The calls that were given slots, in the order in which this was noticed. -/
def grantees (notices : List Notice) : List CallId :=
  notices.filterMap Notice.grantee?

/-- The entries of a list that have time left at a reading. -/
def inTime (now : Instant) (entries : List (Place × Waiter)) : List (Place × Waiter) :=
  entries.filter fun e => e.2.onTime now

theorem grantees_append (first rest : List Notice) :
    grantees (first ++ rest) = grantees first ++ grantees rest :=
  List.filterMap_append

theorem mem_grantees (notices : List Notice) (call : CallId) :
    call ∈ grantees notices ↔ .granted call ∈ notices := by
  rw [grantees, List.mem_filterMap]
  constructor
  · rintro ⟨n, hn, heq⟩
    cases n with
    | granted c =>
        cases heq
        exact hn
    | denied | parked | returned => exact nomatch heq
  · exact fun hmem => ⟨_, hmem, rfl⟩

/-- Of those served, the ones in time are given slots. -/
theorem grantees_served (now : Instant) (entries : List (Place × Waiter)) :
    grantees (entries.map fun e => e.2.notice (·.onTime now)) =
      (inTime now entries).map (·.2.call) := by
  induction entries with
  | nil => rfl
  | cons e rest ih =>
      rw [List.map_cons, inTime, List.filter_cons, Waiter.notice]
      by_cases htime : e.2.onTime now = true
      · rw [if_pos htime, if_pos htime, List.map_cons, ← inTime, ← ih]
        rfl
      · rw [if_neg htime, if_neg htime, ← inTime, ← ih]
        rfl

theorem inTime_inTime {now later : Instant} (hle : now ≤ later)
    (entries : List (Place × Waiter)) :
    inTime later (inTime now entries) = inTime later entries := by
  rw [inTime, inTime, List.filter_filter, inTime]
  refine List.filter_congr fun e _ => ?_
  cases htime : e.2.onTime later with
  | false => rfl
  | true =>
      -- Who is in time at a reading is in time at earlier ones.
      have hlater := (e.2.onTime_iff later).mp htime
      rw [(e.2.onTime_iff now).mpr (Int.lt_of_le_of_lt hle hlater)]
      rfl

/-- Those of the served that are in time are the first that are, as many as fit. -/
theorem inTime_servedOf (now : Instant) (slots : Nat) (l : List (Place × Waiter)) :
    inTime now (servedOf now slots l) = (inTime now l).take slots := by
  induction l generalizing slots with
  | nil => exact List.take_nil.symm
  | cons e rest ih =>
      cases slots with
      | zero => rw [servedOf_zero, List.take_zero, inTime, List.filter_nil]
      | succ n =>
          -- An entry in time is the first of them and takes a slot; any other is passed by.
          have hrest := ih (if e.2.onTime now then n else n + 1)
          unfold inTime at hrest ⊢
          rw [servedOf, List.filter_cons, List.filter_cons]
          by_cases htime : e.2.onTime now = true
          · rw [if_pos htime] at hrest ⊢
            rw [if_pos htime, if_pos htime, List.take_succ_cons, hrest]
          · rw [if_neg htime] at hrest ⊢
            rw [if_neg htime, if_neg htime, hrest]

theorem inTime_of_servedOf {now : Instant} {slots : Nat} {l rest : List (Place × Waiter)}
    (h : l = servedOf now slots l ++ rest) : inTime now rest = (inTime now l).drop slots := by
  have hsplit : inTime now l = (inTime now l).take slots ++ inTime now rest := by
    rw [← inTime_servedOf, inTime, inTime, inTime, ← List.filter_append, ← h]
  exact List.append_cancel_left
    (hsplit.symm.trans (List.take_append_drop slots (inTime now l)).symm)

namespace Gate

/-- A task serves the line into a later window, at the reading that is given if it does. -/
inductive Looks (g : Gate) (e : Event) : Option Instant → Gate → List Notice → Prop where
  /-- There is no later window, or nobody who looks. -/
  | same : Looks g e none g []
  /-- A later window has begun. -/
  | rollover {now : Instant} (reading : e.reading? = some now)
      (later : g.window < g.policy.windowAt now) :
      Looks g e (some now) (g.roll now).1 (g.roll now).2

/-- A task sees to its own affairs. -/
inductive Acts (g : Gate) (e : Event) : Gate → List Notice → Prop where
  /-- It returns no call. -/
  | goOn {wardens : List Warden} {watched : Bool} : Acts g e { g with wardens, watched } []
  /-- A call returns with the verdict it was sent. -/
  | decided {call : CallId} {caller : Caller} {v : Bool}
      (there : g.callers.find? call = some caller) (sent : caller.verdict = some v) :
      Acts g e (g.finish call caller.place) [.returned call v]
  /-- The time of a call is over while it is in line. -/
  | expired {call : CallId} {caller : Caller} {now : Instant}
      (reading : e.reading? = some now) (there : g.callers.find? call = some caller)
      (waits : g.line.contains caller.place = true) (timeUp : caller.deadline ≤ now) :
      Acts g e (g.finish call caller.place) [.returned call false]

variable {g mid g' : Gate} {event : Event} {seen done notices : List Notice}
  {rollover : Option Instant} {call : CallId} {caller : Caller}

theorem roll_of_le {now : Instant} (h : g.policy.windowAt now ≤ g.window) :
    g.roll now = (g, []) := by
  rw [roll, if_pos h]

/-- Observing the window is a look. -/
theorem looks_roll (g : Gate) (e : Event) {now : Instant} (hreading : e.reading? = some now) :
    ∃ rollover, g.Looks e rollover (g.roll now).1 (g.roll now).2 := by
  by_cases hwindow : g.policy.windowAt now ≤ g.window
  · rw [roll_of_le hwindow]
    exact ⟨none, .same⟩
  · exact ⟨some now, .rollover hreading (Int.not_le.mp hwindow)⟩

/-- An event of a task is a look and then an act. -/
theorem looks_acts_of_move (h : g.Paired) (hmove : g.Move event g' notices)
    (htask : event.isOutside = false) : ∃ rollover mid seen done,
      g.Looks event rollover mid seen ∧ mid.Acts event g' done ∧ notices = seen ++ done := by
  cases hmove with
  | nothing | wardenLook | wardenLost => exact ⟨none, g, [], [], .same, .goOn, rfl⟩
  | @goOn c now =>
      rcases looks_roll g (.wake c now) rfl with ⟨r, hlooks⟩
      exact ⟨r, _, _, [], hlooks, .goOn, (List.append_nil _).symm⟩
  | @wardenWake n _ now =>
      rcases looks_roll g (.wardenWake n now) rfl with ⟨r, hlooks⟩
      exact ⟨r, _, _, [], hlooks, .goOn, (List.append_nil _).symm⟩
  | @decided c now caller there out =>
      rcases looks_roll g (.wake c now) rfl with ⟨r, hlooks⟩
      -- A call that is out of line was sent the verdict it returns with.
      rcases in_line_or_decided (paired_roll h now) there with ⟨hwaits, -⟩ | ⟨-, v, hv⟩
      · exact absurd (out.symm.trans hwaits) Bool.false_ne_true
      · rw [hv]
        exact ⟨r, _, _, _, hlooks, .decided there hv, rfl⟩
  | @expire c now caller there waits timeUp =>
      rcases looks_roll g (.wake c now) rfl with ⟨r, hlooks⟩
      exact ⟨r, _, _, _, hlooks, .expired rfl there waits timeUp, rfl⟩
  | @collect c caller there ready =>
      rcases in_line_or_decided h there with ⟨hwaits, hnone⟩ | ⟨-, v, hv⟩
      · -- A call in line was sent nothing, and does not collect.
        rw [hnone, hwaits] at ready
        rcases ready with hsome | hout
        · exact absurd hsome Bool.false_ne_true
        · exact absurd hout.symm Bool.false_ne_true
      · rw [hv]
        exact ⟨none, g, [], _, .same, .decided there hv, rfl⟩
  | slot | shut | late | park | drop | close => exact nomatch htask

theorem sound_of_looks (h : g.Sound) (hlooks : g.Looks event rollover mid seen) : mid.Sound := by
  cases hlooks with
  | same => exact h
  | rollover => exact sound_roll h _

theorem eq_of_looks_none (hlooks : g.Looks event none mid seen) :
    mid = g ∧ grantees seen = [] := by
  cases hlooks with
  | same => exact ⟨rfl, rfl⟩

/-- A look that serves the line observes the later window of its reading. -/
theorem window_of_looks (h : g.Paired) {now : Instant}
    (hlooks : g.Looks event (some now) mid seen) :
    event.reading? = some now ∧ g.window < mid.window ∧
      mid.window = g.policy.windowAt now := by
  cases hlooks with
  | rollover reading later =>
      have hwindow := roll_window h now
      exact ⟨reading, by omega, by omega⟩

theorem returned_not_mem_looks (h : g.Paired) (hlooks : g.Looks event rollover mid seen)
    (call : CallId) (v : Bool) : .returned call v ∉ seen := by
  cases hlooks with
  | same => exact List.not_mem_nil
  | rollover => exact returned_not_mem_roll h _ call v

theorem window_of_acts (hacts : mid.Acts event g' done) : g'.window = mid.window := by
  cases hacts <;> rfl

/-- A later window serves the first of those in time, and leaves the others. -/
theorem inTime_of_looks (h : g.Paired) {now : Instant}
    (hlooks : g.Looks event (some now) mid seen) :
    grantees seen = ((inTime now g.line.toList).take g.policy.quota.toNat).map (·.2.call) ∧
      inTime now mid.line.toList =
        (inTime now g.line.toList).drop g.policy.quota.toNat := by
  cases hlooks with
  | rollover reading later =>
      have hserved : g.served now = servedOf now g.policy.quota.toNat g.line.toList :=
        if_neg (Int.not_le.mpr later)
      have hline := roll_line h now
      rw [hserved] at hline
      refine ⟨?_, inTime_of_servedOf hline⟩
      rw [roll_notices h, grantees_served, hserved, inTime_servedOf]

/-- What a task does after it looked leaves those in time alone, now and later. -/
theorem inTime_of_acts (h : mid.Paired) (hacts : mid.Acts event g' done) {later : Instant}
    (hlater : ∀ now, event.reading? = some now → now ≤ later) :
    inTime later g'.line.toList = inTime later mid.line.toList := by
  cases hacts with
  | goOn => rfl
  | decided there sent =>
      rcases in_line_or_decided h there with ⟨-, hnone⟩ | ⟨hout, -⟩
      · exact nomatch hnone.symm.trans sent
      · rw [finish_line_of_not_contains hout]
  | @expired call caller now reading there waits timeUp =>
      change inTime later (mid.line.leave caller.place).toList = _
      rw [Line.toList_leave_of_eq, inTime, List.filter_filter, inTime]
      refine List.filter_congr fun e he => ?_
      by_cases hplace : e.1 = caller.place
      · -- The entry that leaves is that of the call, whose time is over.
        have hentry := (entry_of_place h there he hplace).1
        have hover : e.2.deadline ≤ later := by
          rw [hentry]
          exact Int.le_trans timeUp (hlater now reading)
        rw [(e.2.onTime_eq_false_iff later).mpr hover, Bool.false_and]
      · rw [decide_eq_true hplace, Bool.and_true]

theorem grantees_of_acts (hacts : mid.Acts event g' done) : grantees done = [] := by
  cases hacts <;> rfl

/-- Of the served, those are given slots that are in time. -/
theorem mem_grantees_of_served (h : g.Paired) {now : Instant} {e : Place × Waiter}
    (he : e ∈ g.served now) : e.2.call ∈ grantees (g.roll now).2 ↔ e.2.onTime now = true := by
  rw [roll_notices h, grantees_served, List.mem_map]
  constructor
  · rintro ⟨x, hx, hcall⟩
    rcases List.mem_filter.mp hx with ⟨hserved, htime⟩
    -- Two entries of the line with one call are one entry.
    rw [← eq_of_call_eq h.attended (mem_of_mem_served h hserved) (mem_of_mem_served h he) hcall]
    exact htime
  · exact fun htime => ⟨e, List.mem_filter.mpr ⟨he, htime⟩, rfl⟩

/-- A call that waits is there after a look. It was sent a slot by then if it had been sent
    one before, or is one of those who are given slots. -/
theorem caller_of_looks (h : g.Paired) (hlooks : g.Looks event rollover mid seen)
    (hfind : g.callers.find? call = some caller) :
    ∃ caller', mid.callers.find? call = some caller' ∧
      (caller'.verdict = some true ↔ caller.verdict = some true ∨ call ∈ grantees seen) := by
  cases hlooks with
  | same => exact ⟨caller, hfind, (or_iff_left List.not_mem_nil).symm⟩
  | @rollover now reading later =>
      have hserves := roll_serves h.attended now
      by_cases hserved : ∃ e ∈ g.served now, e.2.call = call
      · rcases hserved with ⟨e, he, rfl⟩
        have hcaller := h.attended e (mem_of_mem_served h he)
        rw [hfind] at hcaller
        cases hcaller
        refine ⟨_, hserves.told.told e he, ?_⟩
        -- A call in line was sent nothing before.
        rw [mem_grantees_of_served h he, Option.some.injEq,
          or_iff_right fun hnone => (nomatch hnone)]
      · have hnone : ∀ e ∈ g.served now, e.2.call ≠ call := fun e he heq => hserved ⟨e, he, heq⟩
        refine ⟨caller, ?_, (or_iff_left fun hgrant => ?_).symm⟩
        · rw [hserves.told.untold call hnone, observed_callers, hfind]
        · rw [roll_notices h, grantees_served, List.mem_map] at hgrant
          rcases hgrant with ⟨e, he, hcall⟩
          exact hnone e (List.mem_filter.mp he).1 hcall

/-- When a call ends, any other stays as it is. -/
theorem caller_of_finish {ended : CallId} {other : Caller} {v : Bool} (place : Place)
    (there : mid.callers.find? ended = some other)
    (hv : v = true ↔ other.verdict = some true) (hfind : mid.callers.find? call = some caller) :
    ((mid.finish ended place).callers.find? call = some caller ∧
      ∀ w, .returned call w ∉ [Notice.returned ended v]) ∨
      ((mid.finish ended place).callers.find? call = none ∧
        ∀ w, .returned call w ∈ [Notice.returned ended v] →
          (w = true ↔ caller.verdict = some true)) := by
  have herase : (mid.callers.erase ended).find? call =
      if ended = call then none else some caller := by
    rw [Table.find?_erase_of_eq, hfind]
  by_cases hsame : ended = call
  · cases hsame
    cases hfind.symm.trans there
    refine Or.inr ⟨herase.trans (if_pos rfl), fun w hw => ?_⟩
    cases List.mem_singleton.mp hw
    exact hv
  · refine Or.inl ⟨herase.trans (if_neg hsame), fun w hw => ?_⟩
    cases List.mem_singleton.mp hw
    exact hsame rfl

/-- A call that waits stays as it is when a task sees to its affairs, or it returns, with
    a slot if it was sent one. -/
theorem caller_of_acts (h : mid.Paired) (hacts : mid.Acts event g' done)
    (hfind : mid.callers.find? call = some caller) :
    (g'.callers.find? call = some caller ∧ ∀ w, .returned call w ∉ done) ∨
      (g'.callers.find? call = none ∧
        ∀ w, .returned call w ∈ done → (w = true ↔ caller.verdict = some true)) := by
  cases hacts with
  | goOn => exact Or.inl ⟨hfind, fun _ => List.not_mem_nil⟩
  | decided there sent =>
      refine caller_of_finish _ there ?_ hfind
      rw [sent, Option.some.injEq]
  | expired reading there waits timeUp =>
      refine caller_of_finish _ there ?_ hfind
      -- A call in line was sent nothing, let alone a slot.
      rcases in_line_or_decided h there with ⟨-, hnone⟩ | ⟨hout, -⟩
      · rw [hnone]
        exact ⟨fun heq => (nomatch heq), fun heq => (nomatch heq)⟩
      · exact absurd (hout.symm.trans waits) Bool.false_ne_true

/-- A look does not concern a call that is not there. -/
theorem absent_of_looks (h : g.Paired) (hlooks : g.Looks event rollover mid seen)
    (hnone : g.callers.find? call = none) :
    mid.callers.find? call = none ∧ ∀ n ∈ seen, n.call ≠ call := by
  cases hlooks with
  | same => exact ⟨hnone, fun _ hn => absurd hn List.not_mem_nil⟩
  | @rollover now reading later =>
      refine ⟨roll_find?_eq_none h now hnone, fun n hn hcall => ?_⟩
      rw [roll_notices h] at hn
      rcases List.mem_map.mp hn with ⟨e, he, rfl⟩
      have hcaller := h.attended e (mem_of_mem_served h he)
      rw [Waiter.call_notice] at hcall
      rw [hcall, hnone] at hcaller
      exact nomatch hcaller

/-- Nor do the affairs of others. -/
theorem absent_of_acts (hacts : mid.Acts event g' done)
    (hnone : mid.callers.find? call = none) :
    g'.callers.find? call = none ∧ ∀ n ∈ done, n.call ≠ call := by
  have herase : ∀ ended : CallId, (mid.callers.erase ended).find? call = none := by
    intro ended
    rw [Table.find?_erase_of_eq, hnone, ite_self]
  cases hacts with
  | goOn => exact ⟨hnone, fun _ hn => absurd hn List.not_mem_nil⟩
  | decided there | expired _ there =>
      refine ⟨herase _, fun n hn hcall => ?_⟩
      rw [List.mem_singleton.mp hn] at hcall
      cases hcall
      exact nomatch hnone.symm.trans there

end Gate

end Turnstile
