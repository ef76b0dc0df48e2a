import Turnstile.Proofs.Desk
import Turnstile.Proofs.Gate.Holding
import Turnstile.Proofs.Registry.Keys
import Turnstile.Timeline

/-!
# Dockets

Every call that a gate returns finds its docket, so no verdict is lost on the way from the
gates to the answers.

A desk has one list of dockets for the calls of all its gates. It takes the docket out when
it hears that the call returned, from whichever gate. This is right only as long as a
call waits at one gate: were its number known at two of them, the first return would answer
it and the second would be heard in vain. The desk sees to it by letting no call arrive whose
number still has a docket, and by taking a docket out only once the call is gone from its gate.

An event returns one call at most, and closing all gates returns none, so a step is heard as
one answer or as nothing.

## Main definitions

* `Notice.verdict?`: The call that a notice tells to have returned, with its verdict.
* `Desk.Known`: Whoever waits at a gate has a docket, and waits nowhere else.
* `Desk.docketOf`: The docket of a request.
* `Desk.prepared`: The dockets as they are to be for a step at the gates.
* `Desk.Fits`: What a step at the gates does to dockets.

## Theorems

* `verdicts_of_move`: An event returns one call at most.
* `step_eq`, `registry_step`: A step of a desk is a step at the gates, or an answer at once.
* `fits_of_step`: Every step at the gates fits the dockets.
* `queue_of_fits`: It is heard as one answer or as nothing.
* `known_step`, `known_run`: Whoever waits has a docket after every step and every run.
-/

namespace Turnstile

/-- The call that a notice tells to have returned, with its verdict. -/
def Notice.verdict? : Notice → Option (CallId × Bool)
  | .returned call v => some (call, v)
  | _ => none

theorem returns_map (key : Key) (notices : List Notice) :
    returns (notices.map (key, ·)) = notices.filterMap Notice.verdict? := by
  rw [returns, List.filterMap_map]
  refine List.filterMap_congr fun n _ => ?_
  cases n <;> rfl

theorem returns_cons (key : Key) (n : Notice) (notices : List (Key × Notice)) :
    returns ((key, n) :: notices) = n.verdict?.toList ++ returns notices := by
  cases n <;> rfl

theorem mem_returns {notices : List (Key × Notice)} {call : CallId} {v : Bool}
    (h : (call, v) ∈ returns notices) : ∃ key, (key, .returned call v) ∈ notices := by
  rcases List.mem_filterMap.mp h with ⟨⟨key, n⟩, hmem, heq⟩
  cases n with
  | returned => cases heq; exact ⟨key, hmem⟩
  | granted | denied | parked => exact nomatch heq

namespace Gate

variable {g g' : Gate} {event : Event} {notices : List Notice}

theorem verdicts_of_roll (h : g.Paired) (now : Instant) :
    (g.roll now).2.filterMap Notice.verdict? = [] := by
  refine List.filterMap_eq_nil_iff.mpr fun n hn => ?_
  cases n with
  | returned call v => exact absurd hn (returned_not_mem_roll h now call v)
  | granted | denied | parked => rfl

/-- An event returns one call at most. -/
theorem verdicts_of_move (h : g.Sound) (hmove : g.Move event g' notices) :
    ∃ verdict : Option (CallId × Bool), notices.filterMap Notice.verdict? = verdict.toList := by
  have hroll := fun now => verdicts_of_roll h.toPaired now
  cases hmove with
  | nothing | drop | wardenLook | wardenLost => exact ⟨none, rfl⟩
  | slot | shut | late | park | decided | expire =>
      rw [List.filterMap_append, hroll]
      first
        | exact ⟨some _, rfl⟩
        | exact ⟨none, rfl⟩
  | goOn | wardenWake => exact ⟨none, hroll _⟩
  | collect => exact ⟨some _, rfl⟩
  | close isOpen =>
      refine ⟨none, List.filterMap_eq_nil_iff.mpr fun n hn => ?_⟩
      rcases denied_of_close h.toPaired hn with ⟨_, rfl⟩
      rfl

end Gate

namespace Desk

/-- Whoever waits at a gate has a docket, and waits nowhere else. -/
structure Known (r : Registry) (dockets : Table CallId Docket) : Prop where
  /-- Every gate is sound. -/
  sound : ∀ {key gate}, r.find? key = some gate → gate.Sound
  /-- Who waits there has a docket. -/
  waits : ∀ {key gate call}, r.find? key = some gate → gate.callers.contains call = true →
    dockets.contains call = true
  /-- Nobody waits at two gates. -/
  once : ∀ {key other gate gate' call}, r.find? key = some gate → r.find? other = some gate' →
    gate.callers.contains call = true → gate'.callers.contains call = true → key = other

/-- A number that no call at any gate bears. -/
def Absent (r : Registry) (call : CallId) : Prop :=
  ∀ key gate, r.find? key = some gate → gate.callers.contains call = false

/-- A call that arrives has a docket and is at no gate yet. -/
def Expected (r : Registry) (dockets : Table CallId Docket) (event : Event) : Prop :=
  ∀ call request ttl now, event = .arrive call request ttl now →
    dockets.contains call = true ∧ Absent r call

/-- What a step at the gates does to dockets: it is heard as one answer or as nothing, and who
    is answered has a docket and is gone from all gates. -/
structure Fits (r : Registry) (dockets : Table CallId Docket) (rs : Registry.Step) : Prop where
  /-- Whoever waits has a docket. -/
  known : Known (r.step rs).1 dockets
  /-- One call returns at most. -/
  heard : ∃ verdict : Option (CallId × Bool), returns (r.step rs).2 = verdict.toList
  /-- It has a docket, and waits nowhere any more. -/
  gone : ∀ {call v}, (call, v) ∈ returns (r.step rs).2 →
    dockets.contains call = true ∧ Absent (r.step rs).1 call

variable {r : Registry} {dockets : Table CallId Docket} {key : Key} {event : Event} {gate : Gate}
  {call : CallId} {rs : Registry.Step}

theorem known_empty : Known Registry.empty Table.empty where
  sound h := nomatch h
  waits h := nomatch h
  once h := nomatch h

theorem absent_of_not_docketed (h : Known r dockets) (hnew : dockets.contains call = false) :
    Absent r call := fun _ _ hfind => Bool.eq_false_iff.mpr fun hthere =>
  Bool.false_ne_true (hnew.symm.trans (h.waits hfind hthere))

theorem known_insert (h : Known r dockets) (call : CallId) (docket : Docket) :
    Known r (dockets.insert call docket) where
  sound := h.sound
  waits hfind hthere := Table.contains_insert (h.waits hfind hthere) call docket
  once := h.once

/-- The docket of a call that is at no gate is not needed. -/
theorem known_erase (h : Known r dockets) (habsent : Absent r call) :
    Known r (dockets.erase call) where
  sound := h.sound
  waits {_ _ other} hfind hthere := by
    have hne : call ≠ other := by
      rintro rfl
      exact Bool.false_ne_true ((habsent _ _ hfind).symm.trans hthere)
    rw [Table.contains, Table.find?_erase_of_eq, if_neg hne]
    exact h.waits hfind hthere
  once := h.once

/-- A gate that is made for a key has nobody at it. -/
theorem known_ensure (h : Known r dockets) (key : Key) (now : Instant) :
    Known (r.ensure key now).1 dockets where
  sound hfind := by
    rcases Registry.find?_ensure now hfind with hold | ⟨-, rfl, rfl⟩
    · exact h.sound hold
    · exact Gate.sound_start _ _
  waits hfind hthere := by
    rcases Registry.find?_ensure now hfind with hold | ⟨-, rfl, rfl⟩
    · exact h.waits hold hthere
    · exact absurd hthere Bool.false_ne_true
  once hfind hfind' hthere hthere' := by
    rcases Registry.find?_ensure now hfind with hold | ⟨-, -, rfl⟩
    · rcases Registry.find?_ensure now hfind' with hold' | ⟨-, -, rfl⟩
      · exact h.once hold hold' hthere hthere'
      · exact absurd hthere' Bool.false_ne_true
    · exact absurd hthere Bool.false_ne_true

theorem absent_ensure (habsent : Absent r call) (key : Key) (now : Instant) :
    Absent (r.ensure key now).1 call := by
  intro other gate hfind
  rcases Registry.find?_ensure now hfind with hold | ⟨-, -, rfl⟩
  · exact habsent other gate hold
  · rfl

/-- Whoever an event is about has a docket and is at no other gate. -/
theorem docketed_of_concerns (h : Known r dockets) (hexpected : Expected r dockets event)
    (hfind : r.find? key = some gate) (hconcerns : gate.Concerns event call) :
    dockets.contains call = true ∧
      ∀ other gate', r.find? other = some gate' → gate'.callers.contains call = true →
        key = other := by
  rcases hconcerns with hthere | ⟨request, ttl, now, heq⟩
  · exact ⟨h.waits hfind hthere, fun other gate' hother hthere' =>
      h.once hfind hother hthere hthere'⟩
  · rcases hexpected call request ttl now heq with ⟨hdocket, habsent⟩
    refine ⟨hdocket, fun other gate' hother hthere' => ?_⟩
    exact absurd ((habsent other gate' hother).symm.trans hthere') Bool.false_ne_true

/-- Whoever waits after an event is one whom it is about, or waits where it did. -/
theorem concerns_of_visit (h : Known r dockets) {other : Key} {gate' : Gate}
    (hfind : r.find? key = some gate)
    (hother : (r.step (.gate key event)).1.find? other = some gate')
    (hthere : gate'.callers.contains call = true) :
    other = key ∧ gate.Concerns event call ∨ other ≠ key ∧ r.find? other = some gate' := by
  rcases Registry.find?_visit hother with hold | ⟨rfl, before, hbefore, rfl⟩
  · exact Or.inr hold
  · cases hfind.symm.trans hbefore
    rcases Option.isSome_iff_exists.mp hthere with ⟨caller, hcaller⟩
    exact Or.inl ⟨rfl, Gate.concerns_of_waiting (h.sound hfind).toPaired (gate.step_move event)
      hcaller⟩

theorem known_visit (h : Known r dockets) (hexpected : Expected r dockets event) :
    Known (r.step (.gate key event)).1 dockets := by
  cases hgate : r.find? key with
  | none =>
      rw [Registry.step_gate_of_none hgate]
      exact h
  | some gate =>
      refine ⟨fun hfind => ?_, fun hfind hthere => ?_, fun hfind hfind' hthere hthere' => ?_⟩
      · rcases Registry.find?_visit hfind with ⟨-, hold⟩ | ⟨-, before, hbefore, rfl⟩
        · exact h.sound hold
        · exact Gate.step_sound (h.sound hbefore) event
      · rcases concerns_of_visit h hgate hfind hthere with ⟨-, hconcerns⟩ | ⟨-, hold⟩
        · exact (docketed_of_concerns h hexpected hgate hconcerns).1
        · exact h.waits hold hthere
      · -- Whoever is at the gate of the event now was there or at none, so not at another.
        rcases concerns_of_visit h hgate hfind hthere with ⟨rfl, hconcerns⟩ | ⟨-, hold⟩
        · rcases concerns_of_visit h hgate hfind' hthere' with ⟨rfl, -⟩ | ⟨-, hold'⟩
          · rfl
          · exact (docketed_of_concerns h hexpected hgate hconcerns).2 _ _ hold' hthere'
        · rcases concerns_of_visit h hgate hfind' hthere' with ⟨rfl, hconcerns⟩ | ⟨-, hold'⟩
          · exact ((docketed_of_concerns h hexpected hgate hconcerns).2 _ _ hold hthere).symm
          · exact h.once hold hold' hthere hthere'

/-- A call that an event is about, and that is gone from its gate after it, is gone from all. -/
theorem absent_of_visit (h : Known r dockets) (hexpected : Expected r dockets event)
    (hfind : r.find? key = some gate) (hconcerns : gate.Concerns event call)
    (hgone : (gate.step event).1.callers.find? call = none) :
    Absent (r.step (.gate key event)).1 call := by
  intro other gate' hother
  refine Bool.eq_false_iff.mpr fun hthere => ?_
  rcases Registry.find?_visit hother with ⟨hne, hold⟩ | ⟨-, before, hbefore, rfl⟩
  · exact hne ((docketed_of_concerns h hexpected hfind hconcerns).2 other gate' hold hthere).symm
  · cases hfind.symm.trans hbefore
    rw [Table.contains, hgone] at hthere
    exact Bool.false_ne_true hthere

theorem fits_visit (h : Known r dockets) (hexpected : Expected r dockets event) :
    Fits r dockets (.gate key event) := by
  cases hgate : r.find? key with
  | none =>
      have hstep := Registry.step_gate_of_none hgate event
      exact ⟨known_visit h hexpected, ⟨none, by rw [hstep]; rfl⟩, fun hreturned => by
        rw [hstep] at hreturned
        exact absurd hreturned List.not_mem_nil⟩
  | some gate =>
      have hsound := h.sound hgate
      have hmove := gate.step_move event
      refine ⟨known_visit h hexpected, ?_, fun {call v} hreturned => ?_⟩
      · rw [Registry.step_gate_of_find? hgate, returns_map]
        exact Gate.verdicts_of_move hsound hmove
      · rcases mem_returns hreturned with ⟨other, hmem⟩
        rcases Registry.mem_visit hmem with ⟨rfl, before, hbefore, hn⟩
        cases hgate.symm.trans hbefore
        have hconcerns := Gate.concerns_of_returned hsound hmove hn
        exact ⟨(docketed_of_concerns h hexpected hgate hconcerns).1,
          absent_of_visit h hexpected hgate hconcerns (Gate.absent_of_returned hsound hmove hn)⟩

/-- An arrival is an event at a gate that may have to be made for it. -/
theorem fits_arrive {request : Request} {ttl : Span} {now : Instant} (h : Known r dockets)
    (hdocket : dockets.contains call = true) (habsent : Absent r call) :
    Fits r dockets (.arrive key call request ttl now) := by
  have hstep := Registry.step_arrive_eq r key call request ttl now
  have hexpected : Expected (r.ensure key now).1 dockets (.arrive call request ttl now) := by
    rintro _ _ _ _ ⟨⟩
    exact ⟨hdocket, absent_ensure habsent key now⟩
  have hfits : Fits (r.ensure key now).1 dockets (.gate key (.arrive call request ttl now)) :=
    fits_visit (known_ensure h key now) hexpected
  refine ⟨?_, ?_, ?_⟩
  all_goals rw [hstep]
  · exact hfits.known
  · exact hfits.heard
  · exact hfits.gone

/-- The docket of a call that is given up may go with it. -/
theorem fits_drop (h : Known r dockets) (hfind : r.find? key = some gate)
    (hthere : gate.callers.contains call = true) :
    Fits r (dockets.erase call) (.gate key (.drop call)) := by
  have hexpected : Expected r dockets (.drop call) := fun _ _ _ _ heq => nomatch heq
  have hfits : Fits r dockets (.gate key (.drop call)) := fits_visit h hexpected
  have habsent := absent_of_visit h hexpected hfind (Or.inl hthere) (Gate.absent_of_drop gate call)
  have hnobody : returns (r.step (.gate key (.drop call))).2 = [] := by
    rw [Registry.step_gate_of_find? hfind]
    rfl
  refine ⟨known_erase hfits.known habsent, hfits.heard, fun hreturned => ?_⟩
  rw [hnobody] at hreturned
  exact absurd hreturned List.not_mem_nil

/-- Closing returns nobody, and leaves everybody where he waits. -/
theorem fits_closeAll (h : Known r dockets) : Fits r dockets .closeAll := by
  have hnobody : returns (r.step .closeAll).2 = [] := by
    refine List.eq_nil_iff_forall_not_mem.mpr fun x hx => ?_
    rcases x with ⟨call, v⟩
    rcases mem_returns hx with ⟨key, hmem⟩
    rcases Registry.mem_closeAll hmem with ⟨gate, hgate, hn⟩
    rcases Gate.denied_of_close (h.sound hgate).toPaired hn with ⟨_, heq⟩
    exact nomatch heq
  have hbefore : ∀ {key gate}, (r.step .closeAll).1.find? key = some gate →
      ∃ before, r.find? key = some before ∧ gate = (before.step .close).1 := by
    intro key gate hfind
    rw [Registry.find?_closeAll] at hfind
    rcases Option.map_eq_some_iff.mp hfind with ⟨before, hthere, heq⟩
    exact ⟨before, hthere, heq.symm⟩
  have hwaits : ∀ {key before call}, r.find? key = some before →
      (before.step .close).1.callers.contains call = true →
      before.callers.contains call = true := by
    intro key before call hfind hthere
    rcases Option.isSome_iff_exists.mp hthere with ⟨caller, hcaller⟩
    have hconcerns := Gate.concerns_of_waiting (h.sound hfind).toPaired
      (before.step_move .close) hcaller
    exact hconcerns.resolve_right fun ⟨_, _, _, heq⟩ => nomatch heq
  refine ⟨⟨fun hfind => ?_, fun hfind hthere => ?_, fun hfind hfind' hthere hthere' => ?_⟩,
    ⟨none, hnobody⟩, fun hreturned => ?_⟩
  · rcases hbefore hfind with ⟨before, hold, rfl⟩
    exact Gate.step_sound (h.sound hold) .close
  · rcases hbefore hfind with ⟨before, hold, rfl⟩
    exact h.waits hold (hwaits hold hthere)
  · rcases hbefore hfind with ⟨before, hold, rfl⟩
    rcases hbefore hfind' with ⟨before', hold', rfl⟩
    exact h.once hold hold' (hwaits hold hthere) (hwaits hold' hthere')
  · rw [hnobody] at hreturned
    exact absurd hreturned List.not_mem_nil

/-! ### Steps of a desk -/

/-- The docket that is made out for a request. -/
def docketOf (remedy : Remedy) (rule : QueueRule) (headers : Headers) : Docket where
  remedy := remedy.name
  priority := rule.priorityOf headers
  rejectStatus := rule.rejectStatus

/-- The dockets as they are to be for a step at the gates. -/
def prepared (d : Desk) : Step → Table CallId Docket
  | .request call remedy _ headers _ =>
    match remedy.rule with
    | none => d.dockets
    | some rule =>
      if d.dockets.contains call then d.dockets
      else d.dockets.insert call (docketOf remedy rule headers)
  | .gate key (.drop call) =>
    if (d.registry.find? key).any (·.callers.contains call) then d.dockets.erase call
    else d.dockets
  | _ => d.dockets

/-- The answers to a step that does nothing at the gates. -/
def refused : Step → List (CallId × Ruling)
  | .request call remedy _ _ _ =>
    match remedy.rule with
    | none => [(call, .error (.missingConfig remedy.name))]
    | some _ => []
  | _ => []

/-- A step of a desk is a step at the gates, or changes nothing. -/
theorem step_eq (d : Desk) (s : Step) :
    d.step s =
      match d.registryStep? s with
      | some rs => { d with dockets := d.prepared s }.queue rs
      | none => (d, refused s) := by
  cases s with
  | request call remedy id headers now =>
      simp only [step, request, registryStep?, prepared, refused]
      cases remedy.rule with
      | none => rfl
      | some rule =>
          simp only []
          split <;> rfl
  | closeAll => rfl
  | gate key event =>
      cases event with
      | drop call =>
          simp only [step, registryStep?, prepared, refused]
          split <;> rfl
      | arrive | wake | collect | wardenWake | wardenLook | wardenLost | close | read => rfl

/-- The gates change by what a step does there. -/
theorem registry_step (d : Desk) (s : Step) :
    (d.step s).1.registry =
      match d.registryStep? s with
      | some rs => (d.registry.step rs).1
      | none => d.registry := by
  rw [step_eq]
  cases d.registryStep? s with
  | none => rfl
  | some rs => exact hearAll_registry _ _

/-- Every step at the gates fits the dockets that are prepared for it. -/
theorem fits_of_step {d : Desk} (h : Known d.registry d.dockets) {s : Step}
    (hs : d.registryStep? s = some rs) : Fits d.registry (d.prepared s) rs := by
  have hinside : ∀ {key : Key} {event : Event}, (∀ c q t n, event ≠ .arrive c q t n) →
      Fits d.registry d.dockets (.gate key event) := fun {_ _} hno =>
    fits_visit h fun c q t n heq => absurd heq (hno c q t n)
  cases s with
  | closeAll =>
      cases hs
      exact fits_closeAll h
  | request call remedy id headers now =>
      simp only [registryStep?, prepared] at hs ⊢
      cases hrule : remedy.rule with
      | none =>
          rw [hrule] at hs
          cases hs
      | some rule =>
          rw [hrule] at hs
          simp only [] at hs ⊢
          by_cases hthere : d.dockets.contains call = true
          · -- The number is in use, so the gates hear nothing of the request.
            rw [if_pos hthere] at hs
            cases hs
          · rw [if_neg hthere] at hs ⊢
            cases hs
            have hnew := absent_of_not_docketed h (Bool.eq_false_iff.mpr hthere)
            refine fits_arrive (known_insert h call _) ?_ hnew
            rw [Table.contains, Table.find?_insert_of_eq, if_pos rfl, Option.isSome_some]
  | gate key event =>
      cases event with
      | arrive => cases hs
      | drop call =>
          simp only [registryStep?, prepared] at hs ⊢
          by_cases hthere : (d.registry.find? key).any (·.callers.contains call) = true
          · rw [if_pos hthere] at hs ⊢
            cases hs
            rcases Option.any_eq_true .. |>.mp hthere with ⟨gate, hgate, hwaits⟩
            exact fits_drop h hgate hwaits
          · rw [if_neg hthere] at hs
            cases hs
      | wake | collect | wardenWake | wardenLook | wardenLost | close | read =>
          cases hs
          exact hinside fun _ _ _ _ => Event.noConfusion

theorem hearAll_cons (d : Desk) (key : Key) (n : Notice) (notices : List (Key × Notice)) :
    d.hearAll ((key, n) :: notices) =
      (((d.hear n).1.hearAll notices).1, (d.hear n).2 ++ ((d.hear n).1.hearAll notices).2) :=
  rfl

/-- Notices of which none is a return are heard in vain. -/
theorem hearAll_of_quiet (d : Desk) {notices : List (Key × Notice)} (h : returns notices = []) :
    d.hearAll notices = (d, []) := by
  induction notices generalizing d with
  | nil => rfl
  | cons n rest ih =>
      rcases n with ⟨key, n⟩
      rw [returns_cons] at h
      rcases List.append_eq_nil_iff.mp h with ⟨hfirst, hrest⟩
      cases n with
      | returned => exact nomatch hfirst
      | granted | denied | parked =>
          rw [hearAll_cons]
          exact ih d hrest

/-- Notices of which one is a return are heard as this one. -/
theorem hearAll_of_return (d : Desk) {notices : List (Key × Notice)} {v : Bool} {docket : Docket}
    (h : returns notices = [(call, v)]) (hfind : d.dockets.find? call = some docket) :
    d.hearAll notices =
      ({ d with
          outcomes := d.outcomes.record docket.remedy docket.priority v
          dockets := d.dockets.erase call },
        [(call, .ok (if v then .pass else .tooManyRequests docket.rejectStatus))]) := by
  induction notices with
  | nil => exact nomatch h
  | cons n rest ih =>
      rcases n with ⟨key, n⟩
      rw [returns_cons] at h
      cases n with
      | returned c w =>
          rcases List.cons_eq_cons.mp h with ⟨heq, hrest⟩
          cases heq
          -- What comes after it is heard in vain.
          simp only [hearAll_cons, hear, hfind, hearAll_of_quiet _ hrest, List.append_nil]
      | granted | denied | parked =>
          rw [hearAll_cons]
          exact ih h

theorem queue_of_quiet (d : Desk) (h : returns (d.registry.step rs).2 = []) :
    d.queue rs = ({ d with registry := (d.registry.step rs).1 }, []) :=
  hearAll_of_quiet _ h

theorem queue_of_return (d : Desk) {v : Bool} {docket : Docket}
    (h : returns (d.registry.step rs).2 = [(call, v)])
    (hfind : d.dockets.find? call = some docket) :
    d.queue rs =
      ({ registry := (d.registry.step rs).1
         outcomes := d.outcomes.record docket.remedy docket.priority v
         dockets := d.dockets.erase call },
        [(call, .ok (if v then .pass else .tooManyRequests docket.rejectStatus))]) :=
  hearAll_of_return _ h hfind

/-- A step at the gates is heard as one answer or as nothing. -/
theorem queue_of_fits {d : Desk} (h : Fits d.registry d.dockets rs) :
    (returns (d.registry.step rs).2 = [] ∧
      d.queue rs = ({ d with registry := (d.registry.step rs).1 }, [])) ∨
    ∃ call v docket, returns (d.registry.step rs).2 = [(call, v)] ∧
      d.dockets.find? call = some docket ∧
      d.queue rs =
        ({ registry := (d.registry.step rs).1
           outcomes := d.outcomes.record docket.remedy docket.priority v
           dockets := d.dockets.erase call },
          [(call, .ok (if v then .pass else .tooManyRequests docket.rejectStatus))]) := by
  rcases h.heard with ⟨verdict, hverdict⟩
  cases verdict with
  | none => exact Or.inl ⟨hverdict, queue_of_quiet d hverdict⟩
  | some answer =>
      rcases answer with ⟨call, v⟩
      have hmem : (call, v) ∈ returns (d.registry.step rs).2 := by
        rw [hverdict]
        exact List.mem_singleton_self _
      rcases Option.isSome_iff_exists.mp (h.gone hmem).1 with ⟨docket, hdocket⟩
      exact Or.inr ⟨call, v, docket, hverdict, hdocket, queue_of_return d hverdict hdocket⟩

theorem known_queue {d : Desk} (h : Fits d.registry d.dockets rs) :
    Known (d.queue rs).1.registry (d.queue rs).1.dockets := by
  rcases queue_of_fits h with ⟨-, hqueue⟩ | ⟨call, v, docket, hreturns, -, hqueue⟩
  · rw [hqueue]
    exact h.known
  · have hmem : (call, v) ∈ returns (d.registry.step rs).2 := by
      rw [hreturns]
      exact List.mem_singleton_self _
    rw [hqueue]
    exact known_erase h.known (h.gone hmem).2

/-- Whoever waits has a docket after every step. -/
theorem known_step {d : Desk} (h : Known d.registry d.dockets) (s : Step) :
    Known (d.step s).1.registry (d.step s).1.dockets := by
  rw [step_eq]
  cases hs : d.registryStep? s with
  | none => exact h
  | some rs => exact known_queue (fits_of_step h hs)

/-- Whoever waits has a docket after a run, by induction on its steps. -/
theorem known_run {d : Desk} (h : Known d.registry d.dockets) (ss : List Step) :
    Known (d.run ss).1.registry (d.run ss).1.dockets := by
  induction ss generalizing d with
  | nil => exact h
  | cons s ss ih => exact ih (known_step h s)

end Desk

end Turnstile
