import Turnstile.Proofs.Gate.Serving

/-!
# Entries and Calls in Pairs

A gate keeps two books: the line, with an entry for everybody who waits, and the
calls that are suspended. No statement changes both at once, except that a call
begins to wait in both and ends in both. `Paired` says how they agree. An entry
has a call, which stands where the entry does and was sent nothing. A call has an
entry, or was sent a verdict and will have no entry again.

Nothing in the types keeps a verdict from being sent twice or not at all. That it
is sent exactly once is a matter of the two books agreeing, and each way for an
entry to leave the line is shown to keep them so: being served, ending with the
call, and closing.

## Main definitions

* `Gate.Paired`: The line and the calls agree.

## Theorems

* `paired_of_serves`: Serving a head of the line keeps the pairs.
* `paired_finish`, `paired_park`: Ending a call and beginning to wait keep them.
* `not_contains_of_serves`: The served are no longer in line.
* `call_ne_of_serves`: Who is left in line was not served.
-/

namespace Turnstile

namespace Gate

/-- The line and the calls agree. -/
structure Paired (g : Gate) : Prop where
  /-- The line gives out tickets once and counts its entries. -/
  exact : g.line.Exact
  /-- Each entry has its call, which was sent nothing yet. -/
  attended : Attended g.line.toList g.callers
  /-- The places of calls were given out before. -/
  ticket_lt : ∀ call caller, g.callers.find? call = some caller →
    caller.place.ticket < g.line.nextTicket
  /-- Each call has its entry, or else a verdict. -/
  entry_or_verdict : ∀ call caller, g.callers.find? call = some caller →
    (caller.place, ⟨call, caller.deadline⟩) ∈ g.line.toList ∨
      g.line.contains caller.place = false ∧ caller.verdict.isSome = true

variable {g g' : Gate} {verdict : Waiter → Bool} {entries : List (Place × Waiter)}
  {notices : List Notice}

/-- Only the line and the calls matter. -/
theorem paired_of_eq (h : g.Paired) (hline : g'.line = g.line)
    (hcallers : g'.callers = g.callers) : g'.Paired := by
  constructor
  · rw [hline]
    exact h.exact
  · rw [hline, hcallers]
    exact h.attended
  · rw [hline, hcallers]
    exact h.ticket_lt
  · rw [hline, hcallers]
    exact h.entry_or_verdict

theorem mem_of_serves (h : Serves verdict entries g g' notices) {e : Place × Waiter} :
    e ∈ g.line.toList ↔ e ∈ entries ∨ e ∈ g'.line.toList := by
  rw [h.toList_eq, List.mem_append]

theorem ascending_of_serves (h : Serves verdict entries g g' notices) :
    Ascending (entries ++ g'.line.toList) :=
  h.toList_eq ▸ g.line.ascending_toList

/-- The served are no longer in line. -/
theorem not_contains_of_serves (h : Serves verdict entries g g' notices)
    {e : Place × Waiter} (he : e ∈ entries) : g'.line.contains e.1 = false := by
  refine (Line.contains_eq_false_iff _ _).mpr fun w hw => ?_
  exact ne_of_ascending (ascending_of_serves h) he hw rfl

/-- Who is left in line was not served. -/
theorem call_ne_of_serves (hatt : Attended g.line.toList g.callers)
    (h : Serves verdict entries g g' notices) {e x : Place × Waiter} (he : e ∈ entries)
    (hx : x ∈ g'.line.toList) : e.2.call ≠ x.2.call := by
  intro hcall
  have hsame := eq_of_call_eq hatt ((mem_of_serves h).mpr (Or.inl he))
    ((mem_of_serves h).mpr (Or.inr hx)) hcall
  exact ne_of_ascending (ascending_of_serves h) he hx (congrArg Prod.fst hsame)

/-- A call after serving is a served one with its verdict, or is as it was. -/
theorem find?_of_serves (h : Serves verdict entries g g' notices) {call : CallId}
    {caller : Caller} (hfind : g'.callers.find? call = some caller) :
    (∃ e ∈ entries, e.2.call = call ∧ caller =
      { place := e.1, deadline := e.2.deadline, verdict := some (verdict e.2) }) ∨
    (∀ e ∈ entries, e.2.call ≠ call) ∧ g.callers.find? call = some caller := by
  by_cases hserved : ∃ e ∈ entries, e.2.call = call
  · rcases hserved with ⟨e, he, rfl⟩
    rw [h.told.told e he] at hfind
    exact Or.inl ⟨e, he, rfl, (Option.some.inj hfind).symm⟩
  · have hnone : ∀ e ∈ entries, e.2.call ≠ call := fun e he heq => hserved ⟨e, he, heq⟩
    rw [h.told.untold call hnone] at hfind
    exact Or.inr ⟨hnone, hfind⟩

/-- Serving a head of the line keeps the pairs. -/
theorem paired_of_serves (hp : g.Paired) (h : Serves verdict entries g g' notices) :
    g'.Paired where
  exact := h.line_exact hp.exact
  attended := by
    intro e he
    -- Who is left in line has another call than any who was served.
    rw [h.told.untold _ fun x hx => call_ne_of_serves hp.attended h hx he]
    exact hp.attended e ((mem_of_serves h).mpr (Or.inr he))
  ticket_lt := by
    intro call caller hfind
    rw [h.nextTicket_eq]
    rcases find?_of_serves h hfind with ⟨e, he, -, rfl⟩ | ⟨-, hold⟩
    · exact hp.exact.ticket_lt e ((mem_of_serves h).mpr (Or.inl he))
    · exact hp.ticket_lt call caller hold
  entry_or_verdict := by
    intro call caller hfind
    rcases find?_of_serves h hfind with ⟨e, he, -, rfl⟩ | ⟨hnone, hold⟩
    · exact Or.inr ⟨not_contains_of_serves h he, rfl⟩
    · -- The call was not served, so its entry is left if it had one.
      rcases hp.entry_or_verdict call caller hold with hmem | ⟨hout, hverdict⟩
      · rcases (mem_of_serves h).mp hmem with hserved | hleft
        · exact absurd rfl (hnone _ hserved)
        · exact Or.inl hleft
      · refine Or.inr ⟨Line.not_contains_of_subset (fun w hw => ?_) hout, hverdict⟩
        exact (mem_of_serves h).mpr (Or.inr hw)

/-- Ending a call keeps the pairs. -/
theorem paired_finish (hp : g.Paired) {call : CallId} {caller : Caller}
    (hcaller : g.callers.find? call = some caller) : (g.finish call caller.place).Paired where
  exact := Line.exact_leave hp.exact _
  attended := by
    intro e he
    rcases (Line.mem_leave _ _ _).mp he with ⟨hmem, hplace⟩
    have hfind := hp.attended e hmem
    -- The entry of the ending call has left, so this one is of another call.
    have hne : call ≠ e.2.call := by
      intro heq
      rw [← heq, hcaller] at hfind
      injection hfind with hsame
      exact hplace (congrArg Caller.place hsame).symm
    change (g.callers.erase call).find? _ = _
    rw [Table.find?_erase_of_eq, if_neg hne, hfind]
  ticket_lt := by
    intro other caller' hfind
    change (g.callers.erase call).find? other = _ at hfind
    rw [Table.find?_erase_of_eq] at hfind
    split at hfind
    next => exact nomatch hfind
    next => exact (Line.nextTicket_leave _ _).symm ▸ hp.ticket_lt other caller' hfind
  entry_or_verdict := by
    intro other caller' hfind
    change (g.callers.erase call).find? other = _ at hfind
    rw [Table.find?_erase_of_eq] at hfind
    split at hfind
    next => exact nomatch hfind
    next hne =>
      rcases hp.entry_or_verdict other caller' hfind with hmem | ⟨hout, hverdict⟩
      · refine Or.inl ((Line.mem_leave _ _ _).mpr ⟨hmem, fun hplace => ?_⟩)
        -- The place would be that of the ending call, whose entry is another one.
        change caller'.place = caller.place at hplace
        rcases hp.entry_or_verdict call caller hcaller with hown | ⟨hnone, -⟩
        · rw [← hplace] at hown
          have hsame := Table.eq_of_mem_entries hown hmem
          exact hne (congrArg Waiter.call hsame)
        · rw [← hplace] at hnone
          exact Line.not_mem_of_not_contains hnone _ hmem
      · refine Or.inr ⟨Line.not_contains_of_subset (fun w hw => ?_) hout, hverdict⟩
        exact ((Line.mem_leave _ _ _).mp hw).1

/-- Having the window watched touches neither the line nor the calls. -/
theorem watch_frame (g : Gate) :
    g.watch = { g with wardens := g.watch.wardens, watched := g.watch.watched } := by
  unfold watch
  split <;> rfl

/-- Beginning to wait adds an entry and a call, and may call a warden. -/
theorem park_frame (g : Gate) (call : CallId) (request : Request) (deadline : Instant) :
    g.park call request deadline =
      { g with
        line := (g.line.join request.priority request.arrived ⟨call, deadline⟩).1
        callers := g.callers.insert call
          { place := (g.line.join request.priority request.arrived ⟨call, deadline⟩).2
            deadline
            verdict := none }
        wardens := (g.park call request deadline).wardens
        watched := (g.park call request deadline).watched } :=
  watch_frame _

theorem park_line (g : Gate) (call : CallId) (request : Request) (deadline : Instant) :
    (g.park call request deadline).line =
      (g.line.join request.priority request.arrived ⟨call, deadline⟩).1 := by
  rw [park_frame]

theorem park_callers (g : Gate) (call : CallId) (request : Request) (deadline : Instant) :
    (g.park call request deadline).callers =
      g.callers.insert call
        { place := (g.line.join request.priority request.arrived ⟨call, deadline⟩).2
          deadline
          verdict := none } := by
  rw [park_frame]

/-- Beginning to wait keeps the pairs: the place is new, so nobody stands there, and
    so is the call. -/
theorem paired_park (hp : g.Paired) {call : CallId} (hnew : g.callers.find? call = none)
    (request : Request) (deadline : Instant) : (g.park call request deadline).Paired where
  exact := by
    rw [park_line]
    exact Line.exact_join hp.exact _ _ _
  attended := by
    intro e he
    rw [park_line] at he
    rw [park_callers, Table.find?_insert_of_eq]
    rcases (Line.mem_join hp.exact _ _ _ e).mp he with rfl | hmem
    · rw [if_pos rfl]
    · -- An older entry has its call already, and the parking call is new.
      have hfind := hp.attended e hmem
      rw [if_neg fun heq => ?_, hfind]
      rw [← heq, hnew] at hfind
      exact nomatch hfind
  ticket_lt := by
    intro other caller hfind
    rw [park_callers, Table.find?_insert_of_eq] at hfind
    rw [park_line]
    change _ < g.line.nextTicket + 1
    split at hfind
    next =>
      cases hfind
      exact Nat.lt_succ_self _
    next => exact Nat.lt_succ_of_lt (hp.ticket_lt other caller hfind)
  entry_or_verdict := by
    intro other caller hfind
    rw [park_callers, Table.find?_insert_of_eq] at hfind
    rw [park_line]
    split at hfind
    next heq =>
      cases hfind
      cases heq
      exact Or.inl ((Line.mem_join hp.exact _ _ _ _).mpr (Or.inl rfl))
    next =>
      rcases hp.entry_or_verdict other caller hfind with hmem | ⟨hout, hverdict⟩
      · exact Or.inl ((Line.mem_join hp.exact _ _ _ _).mpr (Or.inr hmem))
      · refine Or.inr ⟨Line.not_contains_of_subset (fun w hw => ?_) hout, hverdict⟩
        rcases (Line.mem_join hp.exact _ _ _ _).mp hw with heq | hmem
        · -- The new place has the next ticket, which no call has.
          have hticket := hp.ticket_lt other caller hfind
          have hplace : caller.place.ticket = g.line.nextTicket :=
            congrArg (fun e => e.1.ticket) heq
          omega
        · exact hmem

end Gate

end Turnstile
