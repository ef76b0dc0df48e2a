import Turnstile.Proofs.Gate.Quota
import Turnstile.Proofs.Gateway.Move

/-!
# The Book of a Gateway

An answer does not tell when it was decided. A request may wait for long, and is answered
when its call looks for the verdict, some time after the gate has given it a slot. So a
book is kept beside the run, by somebody who sees the requests come in and hears the notices
of the gates. It has an errand for each number: the remedy that its last request names, and
the reading at which a gate gave it a slot. Whatever is answered is entered with the errand
of its number as it then stands.

Nothing in the book is read by the gateway, and the book reads nothing off the gates. What
it says of them is to be shown.

Requests in flight whose errand has a property are pending. A slot that is given away
makes one more of them at most, and an answer makes one fewer.

## Main definitions

* `Errand`, `Entry`: What is known of a request, and an answer with it.
* `Gateway.noted`: The errands after a step.
* `Gateway.book`: The answers of a run with the errands of their requests.
* `Gateway.Timely`: Readings that never go back, from a first one on.
* `Gateway.pending`: The requests in flight whose errand has a property.

## Theorems

* `answers_of_book`: The book has every answer of a run and no others.
* `find?_hears`: Notices change the errands of those that are given slots.
* `pending_hears`: A slot given away makes one pending request more at most.
* `pending_hears_of_not`: It makes none if the slot is not what is asked for.
-/

namespace Turnstile

/-- What is known of a request for admission. -/
structure Errand where
  /-- The remedy that it names. -/
  remedy : String
  /-- The reading at which it was given a slot, if it was. -/
  slot : Option Instant
deriving DecidableEq

/-- The request names the remedy, and has a slot that was given to it in a window. -/
def Errand.isWithin (name : String) (seconds : UInt64) (k : Int) (e : Errand) : Bool :=
  e.remedy == name && e.slot.any fun t => t.InSeconds seconds k

/-- The errands after a notice that comes at a reading. -/
def Errand.hear (reading : Option Instant) (errands : Table CallId Errand) :
    Key × Notice → Table CallId Errand
  | (_, .granted call) => errands.alter call (·.map fun e => { e with slot := reading })
  | _ => errands

/-- An answer and the errand of its request. -/
structure Entry where
  /-- The number of the request. -/
  call : CallId
  /-- What is known of the request, if it is one for admission. -/
  errand : Option Errand
  /-- The answer. -/
  response : Response
deriving DecidableEq

/-- The request was admitted to a remedy, and the slot was given to it in a window. -/
def Entry.isWithin (name : String) (seconds : UInt64) (k : Int) (e : Entry) : Bool :=
  e.response.isAdmission && e.errand.any (Errand.isWithin name seconds k)

namespace Gateway

/-- The reading of the clock that comes with a step. -/
def Step.reading? : Step → Option Instant
  | .request _ _ _ _ now => some now
  | .gate _ event => event.reading?
  | .closeAll => none

/-- The errands once a request for admission came in. A number that a request in flight
    bears is no new one. -/
def entered (g : Gateway) (errands : Table CallId Errand) : Step → Table CallId Errand
  | .request listener call message _ _ =>
    match message.asks? listener with
    | some name =>
      if g.inFlight.contains call then errands else errands.insert call ⟨name, none⟩
    | none => errands
  | _ => errands

/-- The errands after a step. -/
def noted (g : Gateway) (errands : Table CallId Errand) (s : Step) : Table CallId Errand :=
  (g.notices s).foldl (Errand.hear s.reading?) (g.entered errands s)

/-- The answers of a step with the errands of their requests. -/
def entries (g : Gateway) (errands : Table CallId Errand) (s : Step) : List Entry :=
  (g.step s).2.map fun a => ⟨a.1, (g.noted errands s).find? a.1, a.2⟩

/-- The answers of a run with the errands of their requests, when there are some before. -/
def bookOf (g : Gateway) (errands : Table CallId Errand) : List Step → List Entry
  | [] => []
  | s :: ss => g.entries errands s ++ (g.step s).1.bookOf (g.noted errands s) ss

/-- The answers of a run with the errands of their requests. -/
def book (g : Gateway) (ss : List Step) : List Entry :=
  g.bookOf Table.empty ss

/-- The readings of steps never go back, and never behind a first one. -/
def Timely (first : Instant) (ss : List Step) : Prop :=
  (first :: ss.filterMap Step.reading?).Pairwise (· ≤ ·)

instance (first : Instant) (ss : List Step) : Decidable (Timely first ss) :=
  inferInstanceAs (Decidable (List.Pairwise _ _))

/-- The requests in flight whose errand has a property. -/
def pending (p : Errand → Bool) (inFlight : Table CallId InFlight)
    (errands : Table CallId Errand) : Nat :=
  inFlight.entries.countP fun e => (errands.find? e.1).any p

theorem timely_step {first : Instant} {s : Step} {ss : List Step}
    (h : Timely first (s :: ss)) :
    (∀ now, s.reading? = some now → first ≤ now) ∧ Timely (s.reading?.getD first) ss := by
  unfold Timely at h ⊢
  cases hreading : s.reading? with
  | none =>
      rw [List.filterMap_cons_none hreading] at h
      exact ⟨fun _ hnow => (nomatch hnow), h⟩
  | some now =>
      rw [List.filterMap_cons_some hreading] at h
      have hc := List.pairwise_cons.mp h
      refine ⟨fun other hother => ?_, hc.2⟩
      cases hother
      exact hc.1 now List.mem_cons_self

theorem run_cons (g : Gateway) (s : Step) (ss : List Step) :
    g.run (s :: ss) = (((g.step s).1.run ss).1, (g.step s).2 ++ ((g.step s).1.run ss).2) :=
  rfl

/-- The book has every answer of a run and no others. -/
theorem answers_of_book (g : Gateway) (errands : Table CallId Errand) (ss : List Step) :
    (g.bookOf errands ss).map (fun e => (e.call, e.response)) = (g.run ss).2 := by
  induction ss generalizing g errands with
  | nil => rfl
  | cons s ss ih =>
      rw [bookOf, List.map_append, ih, run_cons, entries, List.map_map]
      refine congrArg (· ++ _) ?_
      exact List.map_id'' (fun _ => rfl) _

section Hearing

variable {errands : Table CallId Errand} {reading : Option Instant} {call : CallId}
  {notices : List (Key × Notice)} {p : Errand → Bool} {inFlight : Table CallId InFlight}

theorem find?_hear (errands : Table CallId Errand) (reading : Option Instant)
    (n : Key × Notice) (call : CallId) :
    (Errand.hear reading errands n).find? call =
      if n.2 = .granted call then (errands.find? call).map fun e => { e with slot := reading }
      else errands.find? call := by
  rcases n with ⟨key, n⟩
  cases n with
  | granted c =>
      refine (Table.find?_alter_of_eq ..).trans ?_
      simp only [Notice.granted.injEq]
      by_cases hc : c = call
      · rw [if_pos hc, if_pos hc, hc]
      · rw [if_neg hc, if_neg hc]
  | denied | parked | returned => exact (if_neg Notice.noConfusion).symm

/-- Notices change the errands of those that are given slots, and no others. -/
theorem find?_hears (notices : List (Key × Notice)) (errands : Table CallId Errand)
    (reading : Option Instant) (call : CallId) :
    (notices.foldl (Errand.hear reading) errands).find? call =
      if .granted call ∈ notices.map (·.2) then
        (errands.find? call).map fun e => { e with slot := reading }
      else errands.find? call := by
  induction notices generalizing errands with
  | nil => exact (if_neg List.not_mem_nil).symm
  | cons n rest ih =>
      rw [List.foldl_cons, ih, find?_hear, List.map_cons]
      by_cases hfirst : n.2 = .granted call
      · -- Being given a slot once more at the same reading changes nothing.
        rw [if_pos hfirst, if_pos (List.mem_cons.mpr (Or.inl hfirst.symm))]
        split
        · rw [Option.map_map]
          rfl
        · rfl
      · have hiff : Notice.granted call ∈ n.2 :: rest.map (·.2) ↔
            .granted call ∈ rest.map (·.2) := by
          rw [List.mem_cons, or_iff_right fun heq => hfirst heq.symm]
        simp only [if_neg hfirst, hiff]

/-- A request keeps the remedy it names, and has a slot once it is given one. -/
theorem errand_of_hears {errand : Errand}
    (hreading : ∀ c, .granted c ∈ notices.map (·.2) → reading.isSome = true)
    (hfind : errands.find? call = some errand) :
    ∃ later, (notices.foldl (Errand.hear reading) errands).find? call = some later ∧
      later.remedy = errand.remedy ∧
      (errand.slot.isSome = true ∨ .granted call ∈ notices.map (·.2) →
        later.slot.isSome = true) := by
  rw [find?_hears, hfind]
  split
  next hgrant => exact ⟨_, rfl, rfl, fun _ => hreading call hgrant⟩
  next hnone => exact ⟨errand, rfl, rfl, fun h => h.resolve_right hnone⟩

theorem countP_le_add {α : Type} {p q r : α → Bool} {l : List α}
    (h : ∀ x ∈ l, p x = true → q x = true ∨ r x = true) :
    l.countP p ≤ l.countP q + l.countP r := by
  induction l with
  | nil => exact Nat.zero_le _
  | cons x rest ih =>
      have hrest := ih fun y hy => h y (List.mem_cons_of_mem _ hy)
      have hfirst := h x List.mem_cons_self
      rw [List.countP_cons, List.countP_cons, List.countP_cons]
      split
      next hp =>
        rcases hfirst hp with hq | hr
        · rw [if_pos hq]
          omega
        · rw [if_pos hr]
          omega
      next => omega

/-- One slot that is given away makes one pending request more at most. -/
theorem pending_hear (p : Errand → Bool) (inFlight : Table CallId InFlight)
    (errands : Table CallId Errand) (reading : Option Instant) (n : Key × Notice) :
    pending p inFlight (Errand.hear reading errands n) ≤
      pending p inFlight errands + (if n.2.isGrant then 1 else 0) := by
  rcases n with ⟨key, n⟩
  cases n with
  | denied | parked | returned => exact Nat.le_refl _
  | granted c =>
      -- Only the request of this number is another one than before.
      refine Nat.le_trans (countP_le_add (q := fun e => (errands.find? e.1).any p)
        (r := fun e => e.1 == c) fun e _ hp => ?_)
        (Nat.add_le_add_left (Table.countP_key_le inFlight c) _)
      by_cases hc : e.1 = c
      · exact Or.inr (beq_iff_eq.mpr hc)
      · rw [find?_hear, if_neg fun heq => hc (Notice.granted.inj heq).symm] at hp
        exact Or.inl hp

/-- Slots that are given away make as many pending requests more at most. -/
theorem pending_hears (p : Errand → Bool) (inFlight : Table CallId InFlight)
    (errands : Table CallId Errand) (reading : Option Instant) (notices : List (Key × Notice)) :
    pending p inFlight (notices.foldl (Errand.hear reading) errands) ≤
      pending p inFlight errands + grants (notices.map (·.2)) := by
  induction notices generalizing errands with
  | nil => exact Nat.le_refl _
  | cons n rest ih =>
      have hrest := ih (Errand.hear reading errands n)
      have hfirst := pending_hear p inFlight errands reading n
      rw [List.foldl_cons, List.map_cons, grants, List.countP_cons]
      rw [grants] at hrest
      omega

/-- They make none if the slots given are not what is asked for. -/
theorem pending_hears_of_not
    (h : ∀ key call errand, (key, .granted call) ∈ notices → errands.find? call = some errand →
      p { errand with slot := reading } = false) :
    pending p inFlight (notices.foldl (Errand.hear reading) errands) ≤
      pending p inFlight errands := by
  refine List.countP_mono_left fun e _ hp => ?_
  rw [find?_hears] at hp
  split at hp
  next hgrant =>
    rcases List.mem_map.mp hgrant with ⟨⟨key, n⟩, hmem, rfl⟩
    cases hfind : errands.find? e.1 with
    | none =>
        rw [hfind] at hp
        exact absurd hp Bool.false_ne_true
    | some errand =>
        rw [hfind, Option.map_some, Option.any_some, h key e.1 errand hmem hfind] at hp
        exact absurd hp Bool.false_ne_true
  next => exact hp

/-- A number that is in no flight is not pending, whatever its errand. -/
theorem pending_insert_of_none (p : Errand → Bool) (errand : Errand)
    (h : inFlight.find? call = none) :
    pending p inFlight (errands.insert call errand) = pending p inFlight errands := by
  refine List.countP_congr fun e he => ?_
  have hne : call ≠ e.1 := by
    rintro rfl
    rw [(Table.find?_eq_some_iff inFlight e.1 e.2).mpr he] at h
    exact nomatch h
  rw [Table.find?_insert_of_eq, if_neg hne]

/-- A new request without a slot is not pending, if that takes a slot. -/
theorem pending_insert_inFlight {request : InFlight} (h : inFlight.find? call = none)
    (hp : (errands.find? call).any p = false) :
    pending p (inFlight.insert call request) errands = pending p inFlight errands := by
  rw [pending, Table.countP_insert h]
  simp only [hp, Bool.false_eq_true, if_false, Nat.add_zero]
  rfl

theorem pending_erase_le (p : Errand → Bool) (inFlight : Table CallId InFlight)
    (errands : Table CallId Errand) (call : CallId) :
    pending p (inFlight.erase call) errands ≤ pending p inFlight errands :=
  List.Sublist.countP_le List.filter_sublist

end Hearing

end Gateway

end Turnstile
