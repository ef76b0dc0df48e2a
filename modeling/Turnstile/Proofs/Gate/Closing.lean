import Turnstile.Proofs.Gate.Passage
import Turnstile.Proofs.Gate.Shift

/-!
# Closing

A gate that is closed is closed for good, and lets go of everybody.

Closing sends a refusal to all who are in line, and leaves alone those who were sent their
verdict before and have not seen it. So both kinds are left with a verdict. From then on
nothing can be added: the line is empty, so that a window which changes promotes nobody
although its quota is fresh, and whoever arrives is asked about the gate before about the
slots. A call can only look for its verdict or be given up.

What becomes of a call is told by its end, the first moment at which it returns or is given
up. It has to be the first one, since the number of a call that has ended may be borne by
another one that arrives later, and is refused.

The wardens that are there when the gate closes go, each when it looks next. None is called
any more, and none goes to sleep again.

## Main definitions

* `Moment.isEndOf`: A call ends at a moment.
* `Gate.Empties`: What an event can do to the calls of a closed gate.

## Theorems

* `roll_of_empty`: With nobody in line, observing the window serves nobody.
* `empties_of_move`: Calls of a closed gate only go, with the verdicts they have.
* `find?_close`: Closing leaves every call with a verdict.
* `closed_for_good`: A closed gate stays closed.
* `end_of_call`: A call of a closed gate ends with the verdict it has.
* `wardens_of_closed`: No warden is called to a closed gate.
* `closing_is_final`: Whoever waits when the gate closes is refused, and nobody ever waits
  again.
-/

namespace Turnstile

/-- Whether a notice says that a call returned. -/
def Notice.isReturnOf (call : CallId) : Notice → Bool
  | .returned c _ => c == call
  | _ => false

/-- Whether a call ends at a moment: it is given up, or it returns. -/
def Moment.isEndOf (call : CallId) (m : Moment) : Bool :=
  m.event == .drop call || m.notices.any (Notice.isReturnOf call)

namespace Gate

/-- What an event can do to the calls of a closed gate. -/
inductive Empties (g : Gate) : Event → Gate → List Notice → Prop where
  /-- No call comes or goes. -/
  | nobody {e : Event} {g' : Gate} (same : g'.callers = g.callers)
      (absent : ∀ call, e = .drop call → g.callers.find? call = none) : Empties g e g' []
  /-- An arriving call is refused. -/
  | refused {call : CallId} {request : Request} {ttl : Span} {now : Instant}
      (new : g.callers.find? call = none) :
      Empties g (.arrive call request ttl now) (g.observed now) [.returned call false]
  /-- A call returns the verdict it has. -/
  | answered {e : Event} {g' : Gate} {call : CallId} {caller : Caller}
      (there : g.callers.find? call = some caller)
      (looks : e = .collect call ∨ ∃ now, e = .wake call now)
      (gone : g'.callers = g.callers.erase call) :
      Empties g e g' [.returned call (caller.verdict.getD false)]
  /-- A call is given up. -/
  | dropped {g' : Gate} {call : CallId} (gone : g'.callers = g.callers.erase call) :
      Empties g (.drop call) g' []

variable {g g' : Gate} {event : Event} {notices : List Notice} {call : CallId} {caller : Caller}

theorem promote_of_empty (fuel : Nat) (now : Instant) (h : g.line.toList = []) :
    promote fuel now g = (g, []) := by
  cases fuel with
  | zero => rfl
  | succ fuel =>
      rw [promote, (Line.next?_eq_none_iff g.line).mpr h]
      split <;> rfl

/-- With nobody in line, observing the window serves nobody. -/
theorem roll_of_empty (h : g.line.toList = []) (now : Instant) :
    g.roll now = (g.observed now, []) := by
  simp only [roll, observed]
  split
  next => rfl
  next => exact promote_of_empty _ now h

/-- No entry is in the line of a closed gate. -/
theorem not_contains_of_closed (h : g.Sound) (hclosed : g.closed = true) (p : Place) :
    g.line.contains p = false := by
  refine (Line.contains_eq_false_iff _ _).mpr fun v hv => ?_
  rw [toList_eq_nil_of_closed h hclosed] at hv
  exact List.not_mem_nil hv

/-- A closed gate is not open again in the next window. -/
theorem roll_not_open (h : g.Sound) (hclosed : g.closed = true) (now : Instant) :
    (g.roll now).1.closed ≠ false := by
  rw [roll_closed h.toPaired, hclosed]
  exact Bool.noConfusion

/-- Calls of a closed gate only go, with the verdicts they have. -/
theorem empties_of_move (h : g.Sound) (hclosed : g.closed = true)
    (hmove : g.Move event g' notices) : g.Empties event g' notices := by
  have hroll := roll_of_empty (toList_eq_nil_of_closed h hclosed)
  cases hmove with
  | nothing _ absent => exact .nobody rfl absent
  | slot _ isOpen | late _ isOpen | park _ isOpen =>
      -- These three need an open gate.
      exact absurd isOpen (roll_not_open h hclosed _)
  | shut new =>
      rw [hroll]
      exact .refused new
  | decided there out =>
      rw [hroll, observed_callers] at there
      rw [hroll]
      refine .answered there (Or.inr ⟨_, rfl⟩) ?_
      exact congrArg (Table.erase · _) (observed_callers g _)
  | expire there waits =>
      -- Nobody is in line, so no timer finds an entry of its own.
      rw [hroll, observed_line, not_contains_of_closed h hclosed] at waits
      exact Bool.noConfusion waits
  | goOn | wardenWake =>
      rw [hroll]
      exact .nobody (observed_callers g _) fun _ heq => Event.noConfusion heq
  | collect there => exact .answered there (Or.inl rfl) rfl
  | drop => exact .dropped rfl
  | wardenLook | wardenLost => exact .nobody rfl fun _ heq => Event.noConfusion heq
  | close isOpen => exact absurd hclosed (Bool.eq_false_iff.mp isOpen)

/-- Closing leaves every call with a verdict: the one it was sent, or else a refusal. -/
theorem find?_close (h : g.Sound) (hfind : g.callers.find? call = some caller) :
    (g.step .close).1.callers.find? call =
      some { caller with verdict := some (caller.verdict.getD false) } := by
  change g.close.1.callers.find? call = _
  cases hclosed : g.closed with
  | true =>
      -- Closing again does nothing, and everybody was sent a verdict the first time.
      rw [close, if_pos hclosed, hfind]
      rcases in_line_or_decided h.toPaired hfind with ⟨hwaits, -⟩ | ⟨-, v, hverdict⟩
      · rw [not_contains_of_closed h hclosed] at hwaits
        exact Bool.noConfusion hwaits
      · rw [hverdict, Option.getD_some, ← hverdict]
  | false =>
      have htold := (close_serves h.attended hclosed).told
      rcases h.entry_or_verdict call caller hfind with hmem | ⟨-, hsome⟩
      · rw [(entry_of_place h.toPaired hfind hmem rfl).2]
        exact htold.told _ hmem
      · -- A call with a verdict has no entry in line, so the refusals go to others.
        rcases Option.isSome_iff_exists.mp hsome with ⟨v, hverdict⟩
        rw [htold.untold call fun e he heq => ?_, hverdict, Option.getD_some, ← hverdict]
        · exact hfind
        · have hattended := h.attended e he
          rw [heq, hfind] at hattended
          cases hattended
          exact Bool.noConfusion hsome

theorem closed_close (h : g.Sound) : (g.step .close).1.closed = true := by
  cases hclosed : g.closed with
  | true => exact move_closed h.toPaired (step_move g .close) hclosed
  | false => exact closed_of_serves (close_serves h.attended hclosed)

/-- A gate that is closed stays sound and closed, whatever happens. -/
theorem closed_for_good (h : g.Sound) (es : List Event) :
    let later := ((g.step .close).1.run es).1
    later.Sound ∧ later.closed = true :=
  ⟨run_sound (step_sound h .close) es, run_closed (step_sound h .close) (closed_close h) es⟩

/-- At an event a call of a closed gate ends with the verdict it has, or is left as it is. -/
theorem end_of_empties (hempties : g.Empties event g' notices)
    (hfind : g.callers.find? call = some caller) :
    (event = .drop call ∨ notices = [.returned call (caller.verdict.getD false)]) ∨
      (event ≠ .drop call ∧ notices.any (Notice.isReturnOf call) = false ∧
        g'.callers.find? call = some caller) := by
  have hothers : ∀ {c : CallId}, c ≠ call → g'.callers = g.callers.erase c →
      g'.callers.find? call = some caller := fun {c} hne hgone => by
    rw [hgone, Table.find?_erase_of_eq, if_neg hne, hfind]
  cases hempties with
  | nobody same absent =>
      -- The call is there, so the event is not that it is given up.
      refine Or.inr ⟨fun heq => ?_, rfl, same.symm ▸ hfind⟩
      exact nomatch (absent call heq).symm.trans hfind
  | @refused c _ _ now new =>
      have hne : c ≠ call := fun heq => nomatch (heq ▸ new).symm.trans hfind
      refine Or.inr ⟨Event.noConfusion, ?_, (observed_callers g now).symm ▸ hfind⟩
      rw [List.any_cons, Notice.isReturnOf, beq_eq_false_iff_ne.mpr hne]
      rfl
  | @answered _ _ c _ there looks gone =>
      by_cases hc : c = call
      · subst hc
        cases there.symm.trans hfind
        exact Or.inl (Or.inr rfl)
      · refine Or.inr ⟨?_, ?_, hothers hc gone⟩
        · rcases looks with rfl | ⟨now, rfl⟩
          · exact Event.noConfusion
          · exact Event.noConfusion
        · rw [List.any_cons, Notice.isReturnOf, beq_eq_false_iff_ne.mpr hc]
          rfl
  | @dropped _ c gone =>
      by_cases hc : c = call
      · exact Or.inl (Or.inl (congrArg Event.drop hc))
      · exact Or.inr ⟨fun heq => hc (Event.drop.inj heq), rfl, hothers hc gone⟩

/-- In a run a call of a closed gate ends with the verdict it has, unless it is given up, and
    as long as it does not end it is there with that verdict. -/
theorem end_of_call (h : g.Sound) (hclosed : g.closed = true)
    (hfind : g.callers.find? call = some caller) (es : List Event) :
    match (g.history es).find? (Moment.isEndOf call) with
    | some m => m.event = .drop call ∨ m.notices = [.returned call (caller.verdict.getD false)]
    | none => (g.run es).1.callers.find? call = some caller := by
  induction es generalizing g with
  | nil => exact hfind
  | cons e es ih =>
      have hempties := empties_of_move h hclosed (step_move g e)
      rw [history, List.find?_cons]
      rcases end_of_empties hempties hfind with hend | ⟨hevent, hnotices, hstays⟩
      · have hends : Moment.isEndOf call ⟨g, e⟩ = true := by
          rw [Moment.isEndOf, Bool.or_eq_true, beq_iff_eq]
          refine hend.imp_right fun hreturned => ?_
          rw [Moment.notices, hreturned, List.any_cons, Notice.isReturnOf, beq_self_eq_true]
          rfl
        rw [hends]
        exact hend
      · have hgoes : Moment.isEndOf call ⟨g, e⟩ = false := by
          rw [Moment.isEndOf, Bool.or_eq_false_iff, beq_eq_false_iff_ne]
          exact ⟨hevent, hnotices⟩
        rw [hgoes]
        exact ih (step_sound h e) (move_closed h.toPaired (step_move g e) hclosed) hstays

/-- A call of a closed gate that looks for its verdict has it, by whichever of the two ways
    of waking up. -/
theorem returns_of_closed (h : g.Sound) (hclosed : g.closed = true)
    (hfind : g.callers.find? call = some caller) :
    (g.step (.collect call)).2 = [.returned call (caller.verdict.getD false)] ∧
      ∀ now, (g.step (.wake call now)).2 = [.returned call (caller.verdict.getD false)] := by
  have hout := not_contains_of_closed h hclosed caller.place
  constructor
  · change (g.collect call).2 = _
    simp only [collect, hfind, hout, Bool.and_false, Bool.false_eq_true, if_false]
  · intro now
    change (g.wake call now).2 = _
    simp only [wake, Table.contains_of_find? hfind,
      roll_of_empty (toList_eq_nil_of_closed h hclosed), observed_callers, observed_line, hfind,
      hout, Bool.not_false, if_true, List.nil_append]

/-- An arriving call is refused by a closed gate. -/
theorem arrive_of_closed (h : g.Sound) (hclosed : g.closed = true)
    (hnew : g.callers.find? call = none) (request : Request) (ttl : Span) (now : Instant) :
    g.step (.arrive call request ttl now) = (g.observed now, [.returned call false]) := by
  change g.arrive call request ttl now = _
  simp only [arrive, Table.not_contains_of_find? hnew, Bool.false_eq_true, if_false,
    roll_of_empty (toList_eq_nil_of_closed h hclosed), observed_closed, hclosed, Bool.not_true,
    Bool.false_and, Bool.true_or, if_true, List.nil_append]

/-- Nothing is noticed at a closed gate but that calls return. -/
theorem returned_of_closed (h : g.Sound) (hclosed : g.closed = true) (es : List Event) :
    ∀ n ∈ (g.run es).2, ∃ call v, n = .returned call v := by
  have hone : ∀ {e : Event} {g' : Gate} {notices : List Notice} {g : Gate},
      g.Empties e g' notices → ∀ n ∈ notices, ∃ call v, n = .returned call v := by
    intro e g' notices g hempties n hn
    cases hempties with
    | nobody | dropped => exact absurd hn List.not_mem_nil
    | refused | answered => exact ⟨_, _, List.mem_singleton.mp hn⟩
  induction es generalizing g with
  | nil => exact fun n hn => absurd hn List.not_mem_nil
  | cons e es ih =>
      intro n hn
      rcases List.mem_append.mp hn with hfirst | hlater
      · exact hone (empties_of_move h hclosed (step_move g e)) n hfirst
      · exact ih (step_sound h e) (move_closed h.toPaired (step_move g e) hclosed) n hlater

/-- No warden is called to a closed gate. One that wakes up is about to look, and all else
    that happens to a warden is that it goes. -/
theorem wardens_of_closed (h : g.Sound) (hclosed : g.closed = true) (event : Event) :
    (g.step event).1.wardens.Sublist g.wardens ∨
      ∃ n target now, event = .wardenWake n now ∧ g.wardens[n]? = some (.asleep target) ∧
        (g.step event).1.wardens = g.wardens.set n .ready := by
  have hshift := step_shift h.toPaired event
  generalize (g.step event).1.wardens = wardens at hshift
  generalize (g.step event).1.watched = watched at hshift
  cases hshift with
  | stay => exact Or.inl (List.Sublist.refl _)
  | summon isOpen | lull isOpen => exact absurd hclosed (Bool.eq_false_iff.mp isOpen)
  | @rouse n target now sleeps => exact Or.inr ⟨n, target, now, rfl, sleeps, rfl⟩
  | leave | lost => exact Or.inl (List.eraseIdx_sublist _ _)

theorem counts_of_closed (h : g.Sound) (hclosed : g.closed = true) : g.counts = Table.empty := by
  refine Table.eq_of_find?_eq fun q => ?_
  have hnobody : g.line.waiting q = 0 := by
    rw [Line.waiting, toList_eq_nil_of_closed h hclosed, List.countP_nil]
  rw [counts, h.exact.counts_eq q, if_pos hnobody]
  rfl

/-- **Closing is final.** When a gate closes in any state that it can be in, every call in
    line has been sent nothing, and every call has from then on the verdict it was sent, or a
    refusal if it was sent nothing. It is given up, or returns this verdict the first time it
    looks, whenever that is. The gate stays closed, and nobody is in line or counted. Whatever
    happens comes to nothing but that calls return: whoever arrives is refused at once, in
    whichever window and whatever slots it has. No warden is called, and closing once more
    changes nothing. -/
theorem closing_is_final (policy : Policy) (first : Instant) (es fs : List Event) :
    let g := ((start policy first).run es).1
    let shut := (g.step .close).1
    let later := (shut.run fs).1
    (∀ e ∈ g.line.toList, ∃ caller, g.callers.find? e.2.call = some caller ∧
      caller.place = e.1 ∧ caller.verdict = none) ∧
    (∀ call caller, g.callers.find? call = some caller →
      match (shut.history fs).find? (Moment.isEndOf call) with
      | some m => m.event = .drop call ∨ m.notices = [.returned call (caller.verdict.getD false)]
      | none => later.callers.contains call = true ∧
          (later.step (.collect call)).2 = [.returned call (caller.verdict.getD false)] ∧
          ∀ now, (later.step (.wake call now)).2 =
            [.returned call (caller.verdict.getD false)]) ∧
    later.closed = true ∧ later.line.toList = [] ∧ later.counts = Table.empty ∧
    (∀ n ∈ (shut.run fs).2, ∃ call v, n = .returned call v) ∧
    (∀ call request ttl now, later.callers.find? call = none →
      later.step (.arrive call request ttl now) =
        (later.observed now, [.returned call false])) ∧
    (∀ event, (later.step event).1.wardens.Sublist later.wardens ∨
      ∃ n target now, event = .wardenWake n now ∧
        later.wardens[n]? = some (.asleep target) ∧
        (later.step event).1.wardens = later.wardens.set n .ready) ∧
    later.step .close = (later, []) := by
  intro g shut later
  have hsound : g.Sound := sound_of_start policy first es
  have hshut : shut.Sound := step_sound hsound .close
  have hclosing : shut.closed = true := closed_close hsound
  rcases closed_for_good hsound fs with ⟨hlater, hclosed⟩
  refine ⟨fun e he => ⟨_, hsound.attended e he, rfl, rfl⟩, fun call caller hfind => ?_, hclosed,
    toList_eq_nil_of_closed hlater hclosed, counts_of_closed hlater hclosed,
    returned_of_closed hshut hclosing fs,
    fun call request ttl now hnew => arrive_of_closed hlater hclosed hnew request ttl now,
    wardens_of_closed hlater hclosed, if_pos hclosed⟩
  have hend := end_of_call hshut hclosing (find?_close hsound hfind) fs
  split at hend
  next => exact hend
  next =>
    have hready := returns_of_closed hlater hclosed hend
    exact ⟨Table.contains_of_find? hend, hready⟩

/-- The rush is given its slot of the second window, and then the gate is closed. The call
    that has the slot returns with it, the one behind it returns refused, and one that comes
    in the third window is refused although all its slots are free. -/
theorem closing_is_final_in_rush :
    let es := Rush.arrivals ++ Rush.turn
    let fs : List Event := [.wardenWake 0 Rush.third, .collect 1]
    let g := ((start Rush.policy Instant.epoch).run es).1
    let shut := (g.step .close).1
    let later := (shut.run fs).1
    g.line.toList = [Rush.behind] ∧
    g.callers.find? 1 = some ⟨Rush.ahead.1, Rush.ahead.2.deadline, some true⟩ ∧
    (((shut.history fs).find? (Moment.isEndOf 1)).map Moment.notices =
      some [.returned 1 true]) ∧
    (later.window = 2 ∧ later.hasQuota = true ∧ later.line.toList = []) ∧
    (later.step (.collect 2)).2 = [.returned 2 false] ∧
    later.step (.arrive 3 Rush.request (.ofSeconds 5) Rush.third) =
      (later.observed Rush.third, [.returned 3 false]) ∧
    later.step .close = (later, []) := by
  intro es fs g shut later
  have hfinal := closing_is_final Rush.policy Instant.epoch es fs
  have hbehind : g.callers.find? 2 = some ⟨Rush.behind.1, Rush.behind.2.deadline, none⟩ := by
    decide
  have hwaits : (shut.history fs).find? (Moment.isEndOf 2) = none := by decide
  have hend := hfinal.2.1 2 _ hbehind
  rw [hwaits] at hend
  exact ⟨by decide, by decide, by decide, ⟨by decide, by decide, hfinal.2.2.2.1⟩, hend.2.1,
    hfinal.2.2.2.2.2.2.1 3 _ _ _ (by decide), hfinal.2.2.2.2.2.2.2.2⟩

end Gate

end Turnstile
