import Turnstile.Proofs.Gate.Holding
import Turnstile.Proofs.Gate.Quota
import Turnstile.Proofs.Gate.Settling

/-!
# Where the Slots Went

A gate counts the slots that it gives away in a window and does not remember to whom. Here
they are listed, with what became of each, from the history alone: a slot is held by the
call that was given it, until the call returns and so has used it. A call that is given up
before it returns does not use its slot any more, and the slot is lost.

The count of the gate is the length of the list, so it has the lost slots in it. The gate
learns of a call that is given up only in that the call leaves the line, and a call that was
given a slot has left it before. That a call is gone is noticed where a slot would be sent to
it, and not after. So a call that is given up while it is in line costs nothing, and one that
is given up between being sent its slot and returning costs the slot, for the rest of the
window. No slot is lost in any other way, and so none is where calls are given up only once
all tasks of the gate have done what they can.

## Main definitions

* `Fate`, `Slot`: A slot that was given away, and what became of it.
* `slotsOf`: The slots of the observed window.
* `Gate.Covers`: Whatever is listed as held is held.

## Theorems

* `covers_move`: After an event no slot is listed as held by a call that does not hold it.
* `kept_move`: An event loses a slot only if it gives up a call that holds one.
* `slots_accounted_for`: The count is that of the slots, each of which is held, used or lost
  by being given up.
* `slots_used_at_rest`: None is lost if calls are given up only while the gate is at rest.
-/

namespace Turnstile

/-- What became of a slot that was given to a call. -/
inductive Fate where
  /-- The call has yet to return with it. -/
  | held
  /-- The call returned with it. -/
  | used
  /-- The call was given up before it returned. -/
  | lost
deriving DecidableEq

/-- A slot that was given away. -/
structure Slot where
  /-- The call it was given to. -/
  call : CallId
  /-- What became of it. -/
  fate : Fate
deriving DecidableEq

/-- The slot that a call holds comes to its end. -/
def Slot.turn (call : CallId) (fate : Fate) (s : Slot) : Slot :=
  if s = ⟨call, .held⟩ then ⟨call, fate⟩ else s

/-- The slots after a notice. -/
def Notice.slots (slots : List Slot) : Notice → List Slot
  | .granted call => slots ++ [⟨call, .held⟩]
  | .returned call true => slots.map (Slot.turn call .used)
  | _ => slots

/-- The slots once it is known who is given up. -/
def Event.slots (slots : List Slot) : Event → List Slot
  | .drop call => slots.map (Slot.turn call .lost)
  | _ => slots

/-- The slots after a moment. Those of a window that is over are not kept. -/
def Moment.slots (slots : List Slot) (m : Moment) : List Slot :=
  m.notices.foldl Notice.slots
    (m.event.slots (if m.after.window = m.before.window then slots else []))

/-- The slots of the observed window, and what became of them. -/
def slotsOf (moments : List Moment) : List Slot :=
  moments.foldl Moment.slots []

section Counting

variable {slots : List Slot} {call other : CallId} {fate : Fate} {notices : List Notice}

theorem count_turn_self (slots : List Slot) (call : CallId) (h : fate ≠ .held) :
    (slots.map (Slot.turn call fate)).count ⟨call, .held⟩ = 0 := by
  refine List.count_eq_zero.mpr fun hmem => ?_
  rcases List.mem_map.mp hmem with ⟨s, -, heq⟩
  unfold Slot.turn at heq
  split at heq
  next => exact h (congrArg Slot.fate heq)
  next hne => exact hne heq

theorem count_turn_of_ne (slots : List Slot) (fate : Fate) (h : call ≠ other) :
    (slots.map (Slot.turn call fate)).count ⟨other, .held⟩ = slots.count ⟨other, .held⟩ := by
  rw [List.count_eq_countP, List.count_eq_countP, List.countP_map]
  refine List.countP_congr fun s _ => ?_
  rw [Function.comp_apply, beq_iff_eq, beq_iff_eq, Slot.turn]
  split
  next hs =>
    rw [hs]
    exact ⟨fun heq => absurd (congrArg Slot.call heq) h,
      fun heq => absurd (congrArg Slot.call heq) h⟩
  next => exact Iff.rfl

/-- Of a slot that comes to an end none is held in addition. -/
theorem count_turn_le (slots : List Slot) (call other : CallId) (h : fate ≠ .held) :
    (slots.map (Slot.turn call fate)).count ⟨other, .held⟩ ≤ slots.count ⟨other, .held⟩ := by
  by_cases hcall : call = other
  · rw [← hcall, count_turn_self slots call h]
    exact Nat.zero_le _
  · exact Nat.le_of_eq (count_turn_of_ne slots fate hcall)

theorem length_notice_slots (n : Notice) (slots : List Slot) :
    (n.slots slots).length = slots.length + (if n.isGrant then 1 else 0) := by
  cases n with
  | granted => exact List.length_append
  | denied | parked => rfl
  | returned c v =>
      cases v with
      | true => exact List.length_map (Slot.turn c .used)
      | false => rfl

/-- Every notice of a grant lists one slot, and no other notice does. -/
theorem length_slots (notices : List Notice) (slots : List Slot) :
    (notices.foldl Notice.slots slots).length = slots.length + grants notices := by
  induction notices generalizing slots with
  | nil => rfl
  | cons n rest ih =>
      rw [List.foldl_cons, ih, length_notice_slots, grants, grants, List.countP_cons]
      omega

theorem length_event_slots (event : Event) (slots : List Slot) :
    (event.slots slots).length = slots.length := by
  cases event with
  | drop call => exact List.length_map (Slot.turn call .lost)
  | arrive | wake | collect | wardenWake | wardenLook | wardenLost | close | read => rfl

/-- No notice tells of a slot that is lost. -/
theorem fate_of_mem_slots {s : Slot} (hs : s ∈ notices.foldl Notice.slots slots) :
    s ∈ slots ∨ s.fate = .held ∨ s.fate = .used := by
  induction notices generalizing slots with
  | nil => exact Or.inl hs
  | cons n rest ih =>
      rcases ih hs with hmem | hfate
      · cases n with
        | granted c =>
            rcases List.mem_append.mp hmem with hold | hnew
            · exact Or.inl hold
            · rw [List.mem_singleton.mp hnew]
              exact Or.inr (Or.inl rfl)
        | denied | parked => exact Or.inl hmem
        | returned c v =>
            cases v with
            | false => exact Or.inl hmem
            | true =>
                rcases List.mem_map.mp hmem with ⟨old, hold, rfl⟩
                unfold Slot.turn
                split
                · exact Or.inr (Or.inr rfl)
                · exact Or.inl hold
      · exact Or.inr hfate

/-- Verdicts on entries of other calls give the call no slot. -/
theorem count_notices_of_ne {entries : List (Place × Waiter)}
    (h : ∀ x ∈ entries, x.2.call ≠ call) (verdict : Waiter → Bool) (slots : List Slot) :
    ((entries.map fun x => x.2.notice verdict).foldl Notice.slots slots).count ⟨call, .held⟩ =
      slots.count ⟨call, .held⟩ := by
  induction entries generalizing slots with
  | nil => rfl
  | cons x rest ih =>
      rw [List.map_cons, List.foldl_cons, ih fun y hy => h y (List.mem_cons_of_mem _ hy)]
      unfold Waiter.notice
      split
      · have hne : (⟨x.2.call, .held⟩ : Slot) ≠ ⟨call, .held⟩ := fun heq =>
          h x List.mem_cons_self (congrArg Slot.call heq)
        exact (List.count_append ..).trans (congrArg (slots.count _ + ·)
          (List.count_eq_zero.mpr fun hmem => hne (List.mem_singleton.mp hmem).symm))
      · rfl

/-- Verdicts on entries of different calls give each call one slot, if its verdict is that
    it is admitted. -/
theorem count_notices {entries : List (Place × Waiter)}
    (hdistinct : entries.Pairwise fun e x => e.2.call ≠ x.2.call) {e : Place × Waiter}
    (he : e ∈ entries) (verdict : Waiter → Bool) (slots : List Slot) :
    ((entries.map fun x => x.2.notice verdict).foldl Notice.slots slots).count
        ⟨e.2.call, .held⟩ =
      slots.count ⟨e.2.call, .held⟩ + (if verdict e.2 then 1 else 0) := by
  induction entries generalizing slots with
  | nil => exact absurd he List.not_mem_nil
  | cons x rest ih =>
      have hc := List.pairwise_cons.mp hdistinct
      rcases List.mem_cons.mp he with rfl | hmem
      · -- The entry is the first, and the notices after it are about others.
        rw [List.map_cons, List.foldl_cons,
          count_notices_of_ne fun y hy => (hc.1 y hy).symm]
        unfold Waiter.notice
        split
        · exact (List.count_append ..).trans
            (congrArg (slots.count _ + ·) (List.count_cons_self ..))
        · rfl
      · have hother : ∀ y ∈ [x], y.2.call ≠ e.2.call := by
          intro y hy
          rw [List.mem_singleton.mp hy]
          exact hc.1 e hmem
        rw [List.map_cons, List.foldl_cons, ih hc.2 hmem]
        exact congrArg (· + _) (count_notices_of_ne hother verdict slots)

end Counting

namespace Gate

variable {g g' : Gate} {event : Event} {notices : List Notice} {slots : List Slot}

/-- The slots that a call holds at a gate: one or none. -/
def owed (g : Gate) (call : CallId) : Nat :=
  if g.holds call then 1 else 0

/-- No slot is listed as held by a call that does not hold it. -/
def Covers (g : Gate) (slots : List Slot) : Prop :=
  ∀ call, slots.count ⟨call, .held⟩ ≤ g.owed call

theorem owed_congr {call : CallId} (h : g'.callers.find? call = g.callers.find? call) :
    g'.owed call = g.owed call := by
  rw [owed, owed, holds, holds, h]

theorem owed_of_verdict {call : CallId} {caller : Caller}
    (hfind : g.callers.find? call = some caller) :
    g.owed call = if caller.verdict = some true then 1 else 0 := by
  rw [owed, holds, hfind, Option.any_some]
  simp only [beq_iff_eq]

theorem owed_of_none {call : CallId} (hfind : g.callers.find? call = none) : g.owed call = 0 := by
  rw [owed, holds, hfind]
  rfl

/-- Serving gives each call that is admitted the slot that is listed for it. -/
theorem covers_serves {verdict : Waiter → Bool} {entries : List (Place × Waiter)}
    (hatt : Attended g.line.toList g.callers) (h : Serves verdict entries g g' notices)
    (hcovers : g.Covers slots) : g'.Covers (notices.foldl Notice.slots slots) := by
  intro call
  rw [h.notices_eq]
  by_cases hserved : ∃ e ∈ entries, e.2.call = call
  · rcases hserved with ⟨e, he, rfl⟩
    have hentries : Attended entries g.callers := fun x hx =>
      hatt x ((mem_of_serves h).mpr (Or.inl hx))
    have hasc : Ascending entries := (List.pairwise_append.mp (ascending_of_serves h)).1
    -- A call in line has not been sent anything yet.
    have hbefore := hcovers e.2.call
    rw [owed_of_verdict (hentries e he), if_neg (fun heq => nomatch heq)] at hbefore
    rw [count_notices (calls_distinct hasc hentries) he, owed_of_verdict (h.told.told e he)]
    cases verdict e.2 with
    | true => exact Nat.add_le_add_right hbefore 1
    | false => exact hbefore
  · have hnone : ∀ e ∈ entries, e.2.call ≠ call := fun e he heq => hserved ⟨e, he, heq⟩
    rw [count_notices_of_ne hnone, owed_congr (h.told.untold call hnone)]
    exact hcovers call

theorem covers_roll (h : g.Paired) (now : Instant) (hcovers : g.Covers slots) :
    (g.roll now).1.Covers ((g.roll now).2.foldl Notice.slots slots) := by
  refine covers_serves (paired_observed h now).attended (roll_serves h.attended now) ?_
  intro call
  rw [owed_congr (congrArg (·.find? call) (observed_callers g now))]
  exact hcovers call

/-- A call that ends holds no slot, and none is listed for it if its slot ends with it. -/
theorem covers_finish (call : CallId) (place : Place) {fate : Fate} (hfate : fate ≠ .held)
    (hcovers : g.Covers slots) :
    (g.finish call place).Covers (slots.map (Slot.turn call fate)) := by
  intro other
  by_cases hcall : call = other
  · rw [← hcall, count_turn_self slots call hfate]
    exact Nat.zero_le _
  · have hsame : (g.finish call place).owed other = g.owed other := by
      refine owed_congr ?_
      change (g.callers.erase call).find? other = _
      rw [Table.find?_erase_of_eq, if_neg hcall]
    rw [count_turn_of_ne slots fate hcall, hsame]
    exact hcovers other

/-- A call that returns with its verdict leaves no slot behind. -/
theorem covers_returned {call : CallId} {caller : Caller} {v : Bool}
    (hfind : g.callers.find? call = some caller) (hv : caller.verdict = some true → v = true)
    (hcovers : g.Covers slots) :
    (g.finish call caller.place).Covers ([.returned call v].foldl Notice.slots slots) := by
  cases v with
  | true => exact covers_finish call caller.place Fate.noConfusion hcovers
  | false =>
      -- It held no slot, so that it makes no difference that none comes to an end.
      have hle := hcovers call
      rw [owed_of_verdict hfind, if_neg fun h => Bool.false_ne_true (hv h)] at hle
      have hlost : Fate.lost ≠ .held := Fate.noConfusion
      intro other
      have hended := covers_finish call caller.place hlost hcovers other
      by_cases hcall : call = other
      · rw [← hcall]
        exact Nat.le_trans hle (Nat.zero_le _)
      · rw [count_turn_of_ne slots _ hcall] at hended
        exact hended

/-- An event lists a slot as held only for a call that holds it then. -/
theorem covers_move (h : g.Sound) (hmove : g.Move event g' notices) (hcovers : g.Covers slots) :
    g'.Covers (notices.foldl Notice.slots (event.slots slots)) := by
  have hpaired := h.toPaired
  cases hmove with
  | nothing =>
      intro call
      refine Nat.le_trans ?_ (hcovers call)
      cases event with
      | drop => exact count_turn_le _ _ _ Fate.noConfusion
      | arrive | wake | collect | wardenWake | wardenLook | wardenLost | close | read =>
          exact Nat.le_refl _
  | @slot call _ _ now new =>
      rw [List.foldl_append]
      -- The slot of the arriving call is used as soon as it is given away.
      intro other
      let given : List Slot := (g.roll now).2.foldl Notice.slots slots ++ [⟨call, .held⟩]
      change (given.map (Slot.turn call .used)).count ⟨other, .held⟩ ≤ (g.roll now).1.owed other
      by_cases hcall : call = other
      · rw [← hcall, count_turn_self _ call Fate.noConfusion]
        exact Nat.zero_le _
      · have hne : (⟨other, .held⟩ : Slot) ∉ [⟨call, .held⟩] := fun hmem =>
          hcall (congrArg Slot.call (List.mem_singleton.mp hmem)).symm
        rw [count_turn_of_ne given .used hcall, List.count_append, List.count_eq_zero.mpr hne]
        exact covers_roll hpaired now hcovers other
  | shut | late =>
      rw [List.foldl_append]
      exact covers_roll hpaired _ hcovers
  | @park call _ _ now new =>
      rw [List.foldl_append]
      intro other
      have hle := covers_roll hpaired now hcovers other
      by_cases hcall : call = other
      · subst hcall
        rw [owed_of_none (roll_find?_eq_none hpaired now new)] at hle
        exact Nat.le_trans hle (Nat.zero_le _)
      · rw [owed_congr (g := (g.roll now).1)]
        · exact hle
        · rw [park_callers, Table.find?_insert_of_eq, if_neg hcall]
  | @decided call now caller there =>
      rw [List.foldl_append]
      refine covers_returned there (fun hverdict => ?_) (covers_roll hpaired now hcovers)
      rw [hverdict]
      rfl
  | @expire call now caller there waits =>
      rw [List.foldl_append]
      refine covers_returned there (fun hverdict => ?_) (covers_roll hpaired now hcovers)
      rcases in_line_or_decided (paired_roll hpaired now) there with ⟨-, hnone⟩ | ⟨hout, -⟩
      · exact nomatch hnone.symm.trans hverdict
      · exact absurd (hout.symm.trans waits) Bool.false_ne_true
  | goOn | wardenWake => exact covers_roll hpaired _ hcovers
  | @collect call caller there =>
      refine covers_returned there (fun hverdict => ?_) hcovers
      rw [hverdict]
      rfl
  | @drop call caller => exact covers_finish call caller.place Fate.noConfusion hcovers
  | wardenLook | wardenLost => exact hcovers
  | close isOpen =>
      exact covers_serves (g := { g with closed := true }) h.attended
        (close_serves h.attended isOpen) hcovers

/-- The slots of the observed window are listed as they are counted, and none is held by a
    call that does not hold it. -/
theorem slots_move (h : g.Sound) (e : Event) (hcount : g.admitted = slots.length)
    (hcovers : g.Covers slots) :
    (g.step e).1.admitted = (Moment.slots slots ⟨g, e⟩).length ∧
      (g.step e).1.Covers (Moment.slots slots ⟨g, e⟩) := by
  have hmove := g.step_move e
  constructor
  · rw [move_admitted h.toPaired hmove, Moment.slots, length_slots, length_event_slots]
    refine congrArg (· + _) ?_
    change _ = (if (g.step e).1.window = g.window then slots else []).length
    split
    · exact hcount
    · rfl
  · refine covers_move h hmove ?_
    split
    · exact hcovers
    · exact fun call => Nat.zero_le _

theorem fate_of_mem_event_slots {e : Event} (hcovers : g.Covers slots)
    (hdrop : ∀ call, e = .drop call → g.holds call = false) {s : Slot}
    (hs : s ∈ e.slots slots) : s ∈ slots := by
  cases e with
  | drop call =>
      rcases List.mem_map.mp hs with ⟨old, hold, rfl⟩
      -- Nothing is listed as held by the call, so nothing comes to an end.
      have hnone := hcovers call
      rw [owed, hdrop call rfl, if_neg Bool.false_ne_true] at hnone
      unfold Slot.turn
      split
      next heq =>
        rw [heq] at hold
        exact absurd (List.count_pos_iff.mpr hold) (by omega)
      next => exact hold
  | arrive | wake | collect | wardenWake | wardenLook | wardenLost | close | read => exact hs

/-- A slot is lost when a call is given up that holds it, and at no other time. -/
theorem kept_move (e : Event) (hcovers : g.Covers slots)
    (hdrop : ∀ call, e = .drop call → g.holds call = false)
    (hkept : ∀ s ∈ slots, s.fate = .held ∨ s.fate = .used) :
    ∀ s ∈ Moment.slots slots ⟨g, e⟩, s.fate = .held ∨ s.fate = .used := by
  intro s hs
  rcases fate_of_mem_slots hs with hmem | hfate
  · split at hmem
    · exact hkept s (fate_of_mem_event_slots hcovers hdrop hmem)
    · have hempty : g.Covers [] := fun _ => Nat.zero_le _
      exact absurd (fate_of_mem_event_slots hempty hdrop hmem) List.not_mem_nil
  · exact hfate

/-- What holds of the slots before a run holds of them after it. -/
theorem slots_run (h : g.Sound) (es : List Event) (hcount : g.admitted = slots.length)
    (hcovers : g.Covers slots) :
    (g.run es).1.admitted = ((g.history es).foldl Moment.slots slots).length ∧
    (g.run es).1.Covers ((g.history es).foldl Moment.slots slots) ∧
    ((∀ m ∈ g.history es, ∀ call, m.event = .drop call → m.before.holds call = false) →
      (∀ s ∈ slots, s.fate = .held ∨ s.fate = .used) →
      ∀ s ∈ (g.history es).foldl Moment.slots slots, s.fate = .held ∨ s.fate = .used) := by
  induction es generalizing g slots with
  | nil => exact ⟨hcount, hcovers, fun _ hkept => hkept⟩
  | cons e es ih =>
      rcases slots_move h e hcount hcovers with ⟨hnext, hstill⟩
      rcases ih (step_sound h e) hnext hstill with ⟨hlast, hcover, hfates⟩
      refine ⟨hlast, hcover, fun hdrops hkept => hfates ?_ ?_⟩
      · exact fun m hm => hdrops m (List.mem_cons_of_mem _ hm)
      · exact kept_move e hcovers (hdrops ⟨g, e⟩ List.mem_cons_self) hkept

/-- **The slots are accounted for.** In every state of a gate the count is the number of the
    slots that were given away in the observed window. A call holds one of them at most, and
    only if it was sent the verdict that it is admitted and is there to return with it. And
    unless some call is given up while it holds a slot, all others were returned with. -/
theorem slots_accounted_for (policy : Policy) (first : Instant) (es : List Event) :
    let g := ((start policy first).run es).1
    let moments := (start policy first).history es
    g.admitted = (slotsOf moments).length ∧
    (∀ call, (slotsOf moments).count ⟨call, .held⟩ ≤ if g.holds call then 1 else 0) ∧
    ((∀ m ∈ moments, ∀ call, m.event = .drop call → m.before.holds call = false) →
      ∀ s ∈ slotsOf moments, s.fate = .held ∨ s.fate = .used) := by
  have hnone : (start policy first).Covers [] := fun _ => Nat.zero_le _
  rcases slots_run (sound_start policy first) es rfl hnone with ⟨hcount, hcovers, hfates⟩
  exact ⟨hcount, hcovers, fun hdrops => hfates hdrops fun _ hs => absurd hs List.not_mem_nil⟩

/-- In the rush a call is given up that was sent its slot and has not looked for it. The slot
    is counted, and nobody has it. -/
example :
    let lost := (start Rush.policy Instant.epoch).history
      (Rush.arrivals ++ Rush.turn ++ [.drop 1])
    ((Rush.crowd.run Rush.turn).1.step (.drop 1)).1.admitted = 1 ∧
    slotsOf lost = [⟨1, .lost⟩] := by decide

/-- At a gate at rest every verdict has been looked for, and no slot is on its way. -/
theorem holds_of_rests {now : Instant} (hrests : g.Rests now) (call : CallId) :
    g.holds call = false := by
  refine Bool.eq_false_iff.mpr fun hholds => ?_
  rw [holds] at hholds
  cases hfind : g.callers.find? call with
  | none =>
      rw [hfind] at hholds
      exact Bool.false_ne_true hholds
  | some caller =>
      rw [hfind, Option.any_some, beq_iff_eq] at hholds
      exact hrests _ (.verdict hfind (by rw [hholds]; rfl))

/-- If calls are given up only when the gate is at rest, then whenever it is at rest the
    count is that of the calls which returned admitted with slots of the observed window. -/
theorem slots_used_at_rest (policy : Policy) (first : Instant) {es : List Event} {now : Instant}
    (hdrops : ∀ m ∈ (start policy first).history es, ∀ call, m.event = .drop call →
      ∃ reading, m.before.Rests reading)
    (hrests : ((start policy first).run es).1.Rests now) :
    let slots := slotsOf ((start policy first).history es)
    ((start policy first).run es).1.admitted = slots.length ∧ ∀ s ∈ slots, s.fate = .used := by
  rcases slots_accounted_for policy first es with ⟨hcount, hheld, hfates⟩
  refine ⟨hcount, fun s hs => ?_⟩
  have hdropped : ∀ m ∈ (start policy first).history es, ∀ call, m.event = .drop call →
      m.before.holds call = false := by
    intro m hm call hdrop
    rcases hdrops m hm call hdrop with ⟨reading, hrest⟩
    exact holds_of_rests hrest call
  -- A slot that is held would be held by somebody who has not looked for it.
  refine (hfates hdropped s hs).resolve_left fun hfate => ?_
  have hle := hheld s.call
  have hmem : (⟨s.call, .held⟩ : Slot) ∈ slotsOf ((start policy first).history es) := by
    rw [← hfate]
    exact hs
  rw [if_neg (Bool.eq_false_iff.mp (holds_of_rests hrests s.call))] at hle
  exact absurd (List.count_pos_iff.mpr hmem) (Nat.not_lt.mpr hle)

end Gate

end Turnstile
