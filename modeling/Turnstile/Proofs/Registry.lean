import Turnstile.Registry
import Turnstile.Proofs.Table

/-!
# Steps of a Registry

All that can happen to a registry comes down to two things: a key that has no gate is given
one, and an event happens to the gate of a key. An arrival is the one and then the other,
and closing all gates is an event at one key after the other.

## Theorems

* `step_arrive_eq`, `closeAll_eq`: Arrivals and closing in terms of these.
* `find?_ensure`: The gates once a key has one.
* `find?_visit`, `mem_visit`: The gates after an event at one of them, and the notices of it.
-/

namespace Turnstile

namespace Registry

variable {r : Registry} {key other : Key} {event : Event} {gate : Gate}

/-- A key that is ensured has the gate that comes with the registry. -/
theorem find?_ensure_self (r : Registry) (key : Key) (now : Instant) :
    (r.ensure key now).1.find? key = some (r.ensure key now).2 := by
  unfold ensure
  split
  next gate hfind => exact hfind
  next => exact (Table.find?_insert_of_eq ..).trans (if_pos rfl)

/-- The gates once a key has one are those there were, and a new one if the key had none. -/
theorem find?_ensure (now : Instant) (h : (r.ensure key now).1.find? other = some gate) :
    r.find? other = some gate ∨
      r.find? key = none ∧ other = key ∧ gate = Gate.start key.policy now := by
  unfold ensure at h
  split at h
  next => exact Or.inl h
  next hnone =>
    have hinsert := (Table.find?_insert_of_eq ..).symm.trans h
    split at hinsert
    next heq => exact Or.inr ⟨hnone, heq.symm, (Option.some.inj hinsert).symm⟩
    next => exact Or.inl hinsert

/-- Gates that were there are not replaced. -/
theorem find?_ensure_of_find? (key : Key) (now : Instant) (h : r.find? other = some gate) :
    (r.ensure key now).1.find? other = some gate := by
  unfold ensure
  split
  next => exact h
  next hnone =>
    refine (Table.find?_insert_of_eq ..).trans ?_
    split
    next heq => exact absurd (h.symm.trans (heq ▸ hnone)) (Option.some_ne_none gate)
    next => exact h

theorem step_gate_of_find? (h : r.find? key = some gate) (event : Event) :
    r.step (.gate key event) =
      (⟨r.gates.insert key (gate.step event).1⟩, (gate.step event).2.map (key, ·)) := by
  simp only [step, h, update]

theorem step_gate_of_none (h : r.find? key = none) (event : Event) :
    r.step (.gate key event) = (r, []) := by
  simp only [step, h]

/-- An arrival is an event at a gate that there is. -/
theorem step_arrive_eq (r : Registry) (key : Key) (call : CallId) (request : Request)
    (ttl : Span) (now : Instant) :
    r.step (.arrive key call request ttl now) =
      (r.ensure key now).1.step (.gate key (.arrive call request ttl now)) := by
  rw [step_gate_of_find? (find?_ensure_self r key now)]
  rfl

theorem run_cons (r : Registry) (s : Step) (ss : List Step) :
    r.run (s :: ss) = (((r.step s).1.run ss).1, (r.step s).2 ++ ((r.step s).1.run ss).2) :=
  rfl

/-- Closing the gates of some keys is an event at one key after the other. -/
theorem closeEach_eq (r : Registry) (keys : List Key) :
    r.closeEach keys = r.run (keys.map (.gate · .close)) := by
  induction keys generalizing r with
  | nil => rfl
  | cons key keys ih =>
      rw [List.map_cons, run_cons, closeEach]
      cases hfind : r.find? key with
      | none =>
          rw [step_gate_of_none hfind, ← ih]
          rfl
      | some gate =>
          rw [step_gate_of_find? hfind, ← ih]
          rfl

theorem closeAll_eq (r : Registry) :
    r.step .closeAll = r.run (r.gates.keys.map (.gate · .close)) :=
  closeEach_eq r _

theorem find?_visit_self (h : r.find? key = some gate) (event : Event) :
    (r.step (.gate key event)).1.find? key = some (gate.step event).1 := by
  rw [step_gate_of_find? h]
  exact (Table.find?_insert_of_eq ..).trans (if_pos rfl)

theorem find?_visit_of_ne (r : Registry) (h : key ≠ other) (event : Event) :
    (r.step (.gate key event)).1.find? other = r.find? other := by
  cases hfind : r.find? key with
  | none => rw [step_gate_of_none hfind]
  | some gate =>
      rw [step_gate_of_find? hfind]
      exact (Table.find?_insert_of_eq ..).trans (if_neg h)

/-- The gates after an event at one of them. -/
theorem find?_visit (h : (r.step (.gate key event)).1.find? other = some gate) :
    other ≠ key ∧ r.find? other = some gate ∨
      other = key ∧ ∃ before, r.find? key = some before ∧ gate = (before.step event).1 := by
  by_cases hkey : key = other
  · subst hkey
    cases hfind : r.find? key with
    | none =>
        rw [step_gate_of_none hfind, hfind] at h
        exact nomatch h
    | some before =>
        rw [find?_visit_self hfind] at h
        exact Or.inr ⟨rfl, before, rfl, (Option.some.inj h).symm⟩
  · rw [find?_visit_of_ne r hkey] at h
    exact Or.inl ⟨fun heq => hkey heq.symm, h⟩

/-- Whatever is noticed at an event comes from the gate it happens to. -/
theorem mem_visit {n : Notice} (h : (other, n) ∈ (r.step (.gate key event)).2) :
    other = key ∧ ∃ before, r.find? key = some before ∧ n ∈ (before.step event).2 := by
  cases hfind : r.find? key with
  | none =>
      rw [step_gate_of_none hfind] at h
      exact absurd h List.not_mem_nil
  | some before =>
      rw [step_gate_of_find? hfind] at h
      rcases List.mem_map.mp h with ⟨n', hn, heq⟩
      cases heq
      exact ⟨rfl, before, rfl, hn⟩

end Registry

end Turnstile
