import Turnstile.Proofs.Gate.Grounds
import Turnstile.Proofs.Gate.Verdict

/-!
# Slots Held by Calls

Between the moment at which a call in line is given a slot and the moment at which it
returns with it, the slot is held by the call.

Who looks at a gate from outside sees its notices only: a slot is given to a call, and
some time later the call returns. What must be known of the gate to connect the two is
which calls hold a slot. The verdict in the gate's own books tells it, and the notices
agree with these books: a call that returns admitted was given its slot by some notice,
at this event or before.

A notice is about a call that waits or arrives. So if the calls that wait at several gates
are told apart, their notices are.

## Main definitions

* `Gate.holds`: A call was given a slot and has not returned with it.
* `Gate.Concerns`: A call waits at the gate, or arrives.

## Theorems

* `holds_of_move`: A call that holds a slot after an event was given it, now or before.
* `granted_of_returned`: So was a call that returns admitted.
* `concerns_of_granted`, `concerns_of_returned`, `concerns_of_waiting`: Whom an event is
  about.
* `absent_of_drop`, `absent_of_returned`: A call that was given up or returned is gone.
-/

namespace Turnstile

/-- A verdict of admission in the record of a call was there before some notices, or one
    of them gives the call its slot. -/
theorem granted_of_account {call : CallId} {notices : List Notice} {record : Option (List Bool)}
    {told : List Bool} (h : notices.foldl (Notice.account call) record = some told)
    (htrue : true ∈ told) :
    (∃ before, record = some before ∧ true ∈ before) ∨ .granted call ∈ notices := by
  induction notices generalizing record with
  | nil => exact Or.inl ⟨told, h, htrue⟩
  | cons n rest ih =>
      rcases ih h with ⟨after, hafter, hmem⟩ | hgranted
      · by_cases hcall : n.call = call
        · subst hcall
          cases n with
          | parked c =>
              cases (if_pos rfl).symm.trans hafter
              exact absurd hmem List.not_mem_nil
          | granted c => exact Or.inr List.mem_cons_self
          | denied c =>
              rcases Option.map_eq_some_iff.mp ((if_pos rfl).symm.trans hafter) with
                ⟨before, hbefore, rfl⟩
              rcases List.mem_append.mp hmem with hold | hlast
              · exact Or.inl ⟨before, hbefore, hold⟩
              · exact nomatch List.mem_singleton.mp hlast
          | returned c v => exact nomatch (if_pos rfl).symm.trans hafter
        · rw [account_of_ne hcall] at hafter
          exact Or.inl ⟨after, hafter, hmem⟩
      · exact Or.inr (List.mem_cons_of_mem _ hgranted)

namespace Gate

variable {g g' : Gate} {event : Event} {notices : List Notice} {call : CallId}

/-- Whether a call was given a slot and has not returned with it yet. -/
def holds (g : Gate) (call : CallId) : Bool :=
  (g.callers.find? call).any fun caller => caller.verdict == some true

/-- The call waits at the gate, or the event is its arrival. -/
def Concerns (g : Gate) (event : Event) (call : CallId) : Prop :=
  g.callers.contains call = true ∨
    ∃ request ttl now, event = .arrive call request ttl now

theorem holds_of_find? {caller : Caller} (hfind : g.callers.find? call = some caller)
    (hverdict : caller.verdict = some true) : g.holds call = true := by
  rw [holds, hfind, Option.any_some, hverdict]
  rfl

/-- A call holds a slot if there is a verdict of admission in its record. -/
theorem holds_iff (g : Gate) (call : CallId) :
    g.holds call = true ↔ ∃ told, g.record call = some told ∧ true ∈ told := by
  rw [holds, record]
  cases g.callers.find? call with
  | none =>
      constructor
      · intro h
        exact absurd h Bool.false_ne_true
      · rintro ⟨_, ⟨⟩, _⟩
  | some caller =>
      rw [Option.any_some, Option.map_some, beq_iff_eq]
      constructor
      · intro h
        exact ⟨_, rfl, h.symm ▸ List.mem_cons_self⟩
      · rintro ⟨told, htold, htrue⟩
        rw [← Option.some.inj htold] at htrue
        exact Option.mem_toList.mp htrue

/-- A call that holds a slot once the window is observed was given it, now or before. -/
theorem holds_of_roll (h : g.Paired) {now : Instant} (hholds : (g.roll now).1.holds call = true) :
    g.holds call = true ∨ .granted call ∈ (g.roll now).2 := by
  rcases (holds_iff _ call).mp hholds with ⟨told, htold, htrue⟩
  rw [← record_roll h] at htold
  exact (granted_of_account htold htrue).imp_left (holds_iff g call).mpr

/-- A call that holds a slot after an event was given it, now or before. -/
theorem holds_of_move (h : g.Paired) (hmove : g.Move event g' notices)
    (hholds : g'.holds call = true) : g.holds call = true ∨ .granted call ∈ notices := by
  rcases (holds_iff g' call).mp hholds with ⟨told, htold, htrue⟩
  rw [← account_move h hmove] at htold
  refine (granted_of_account htold htrue).imp_left fun ⟨before, hbefore, hmem⟩ => ?_
  split at hbefore
  next => exact nomatch hbefore
  next => exact (holds_iff g call).mpr ⟨before, hbefore, hmem⟩

/-- A call that returns admitted was given its slot, now or before. -/
theorem granted_of_returned (h : g.Sound) (hmove : g.Move event g' notices)
    (hreturned : .returned call true ∈ notices) :
    g.holds call = true ∨ .granted call ∈ notices := by
  cases hmove with
  | nothing | drop | wardenLook | wardenLost => exact absurd hreturned List.not_mem_nil
  | @slot other =>
      -- The arriving call is told of its slot at once.
      rcases List.mem_cons.mp (mem_of_returned h.toPaired hreturned) with heq | hlast
      · exact nomatch heq
      · cases List.mem_singleton.mp hlast
        exact Or.inr (List.mem_append_right _ List.mem_cons_self)
  | shut | late | expire =>
      exact nomatch List.mem_singleton.mp (mem_of_returned h.toPaired hreturned)
  | park => exact nomatch List.mem_singleton.mp (mem_of_returned h.toPaired hreturned)
  | @decided other now caller there out =>
      rcases verdict_of_wake h.toPaired (.decided there out) hreturned with ⟨rfl, _, hfind, hcase⟩
      rcases hcase with hverdict | ⟨-, -, hfalse⟩
      · exact (holds_of_roll h.toPaired (holds_of_find? hfind hverdict)).imp_right
          (List.mem_append_left _)
      · exact nomatch hfalse
  | goOn | wardenWake => exact absurd hreturned (returned_not_mem_roll h.toPaired _ _ _)
  | collect there ready =>
      rcases verdict_of_collect h.toPaired (.collect there ready) hreturned with
        ⟨rfl, _, hfind, hverdict⟩
      exact Or.inl (holds_of_find? hfind hverdict)
  | close isOpen =>
      rw [(close_serves h.attended isOpen).notices_eq] at hreturned
      rcases List.mem_map.mp hreturned with ⟨e, -, heq⟩
      exact nomatch heq

/-- A slot is given to a call that waits or arrives. -/
theorem concerns_of_granted (h : g.Paired) (hmove : g.Move event g' notices)
    (hgrant : .granted call ∈ notices) : g.Concerns event call := by
  -- Whoever is served when the window is observed has been in line.
  have hroll : ∀ now, .granted call ∈ (g.roll now).2 → g.Concerns event call := by
    intro now hmem
    rw [roll_notices h] at hmem
    rcases List.mem_map.mp hmem with ⟨e, he, hnotice⟩
    have hcall := congrArg Notice.call hnotice
    rw [Waiter.call_notice] at hcall
    cases hcall
    exact Or.inl (Table.contains_of_find? (h.attended e (mem_of_mem_served h he)))
  cases hmove with
  | nothing | drop | wardenLook | wardenLost => exact absurd hgrant List.not_mem_nil
  | @slot other request ttl now =>
      rcases List.mem_append.mp hgrant with hserved | hown
      · exact hroll now hserved
      · rcases List.mem_cons.mp hown with heq | hlast
        · cases heq
          exact Or.inr ⟨request, ttl, now, rfl⟩
        · exact nomatch List.mem_singleton.mp hlast
  | shut | late | park | decided | expire =>
      rcases List.mem_append.mp hgrant with hserved | hlast
      · exact hroll _ hserved
      · exact nomatch List.mem_singleton.mp hlast
  | goOn | wardenWake => exact hroll _ hgrant
  | collect => exact nomatch List.mem_singleton.mp hgrant
  | close isOpen =>
      rw [(close_serves h.attended isOpen).notices_eq] at hgrant
      rcases List.mem_map.mp hgrant with ⟨e, -, heq⟩
      exact nomatch heq

/-- A call that returns waited or arrives. -/
theorem concerns_of_returned (h : g.Sound) (hmove : g.Move event g' notices) {v : Bool}
    (hreturned : .returned call v ∈ notices) : g.Concerns event call := by
  rcases returned_of_move h hmove hreturned with ⟨old, hold, -⟩ | ⟨-, request, ttl, now, heq, -⟩
  · exact Or.inl (Table.contains_of_find? hold)
  · exact Or.inr ⟨request, ttl, now, heq⟩

/-- A call that waits after an event waited before or arrived. -/
theorem concerns_of_waiting (h : g.Paired) (hmove : g.Move event g' notices) {caller : Caller}
    (hfind : g'.callers.find? call = some caller) : g.Concerns event call := by
  rcases caller_of_move h hmove hfind with ⟨old, hold, -⟩ | ⟨-, -, request, ttl, now, heq, -⟩
  · exact Or.inl (Table.contains_of_find? hold)
  · exact Or.inr ⟨request, ttl, now, heq⟩

theorem find?_finish_self (g : Gate) (call : CallId) (place : Place) :
    (g.finish call place).callers.find? call = none := by
  change (g.callers.erase call).find? call = none
  rw [Table.find?_erase_of_eq, if_pos rfl]

/-- A call that is given up is gone. -/
theorem absent_of_drop (g : Gate) (call : CallId) : (g.drop call).callers.find? call = none := by
  unfold drop
  split
  next => exact find?_finish_self _ _ _
  next hnone => exact hnone

/-- A call that returned is gone. -/
theorem absent_of_returned (h : g.Sound) (hmove : g.Move event g' notices) {v : Bool}
    (hreturned : .returned call v ∈ notices) : g'.callers.find? call = none := by
  cases hmove with
  | nothing | drop | wardenLook | wardenLost => exact absurd hreturned List.not_mem_nil
  | slot new =>
      rcases List.mem_cons.mp (mem_of_returned h.toPaired hreturned) with heq | hlast
      · exact nomatch heq
      · cases List.mem_singleton.mp hlast
        exact roll_find?_eq_none h.toPaired _ new
  | shut new | late new =>
      cases List.mem_singleton.mp (mem_of_returned h.toPaired hreturned)
      exact roll_find?_eq_none h.toPaired _ new
  | park => exact nomatch List.mem_singleton.mp (mem_of_returned h.toPaired hreturned)
  | decided | expire =>
      cases List.mem_singleton.mp (mem_of_returned h.toPaired hreturned)
      exact find?_finish_self _ _ _
  | collect =>
      cases List.mem_singleton.mp hreturned
      exact find?_finish_self _ _ _
  | goOn | wardenWake => exact absurd hreturned (returned_not_mem_roll h.toPaired _ _ _)
  | close isOpen =>
      rw [(close_serves h.attended isOpen).notices_eq] at hreturned
      rcases List.mem_map.mp hreturned with ⟨e, -, heq⟩
      exact nomatch heq

/-- Closing returns nobody and gives no slot away. -/
theorem denied_of_close {n : Notice} (h : g.Paired) (hn : n ∈ g.close.2) :
    ∃ call, n = .denied call := by
  cases hclosed : g.closed with
  | true =>
      rw [close, if_pos hclosed] at hn
      exact absurd hn List.not_mem_nil
  | false =>
      rw [(close_serves h.attended hclosed).notices_eq] at hn
      rcases List.mem_map.mp hn with ⟨e, -, rfl⟩
      exact ⟨_, if_neg Bool.false_ne_true⟩

end Gate

end Turnstile
