import Turnstile.Desk.Basic

/-!
# What a Desk Rules

A desk takes a request to a gate and rules on it when the gate lets it go. In between the
gate decides alone: the only rulings are on calls that a gate returned, and they say what
the gate said.

## Main definitions

* `Desk.registryStep?`: What a step does at the gates.

## Theorems

* `hearAll_registry`: Notices are taken without touching the gates.
* `mem_hearAll`: A ruling follows the verdict that a gate returned.
-/

namespace Turnstile

namespace Desk

/-- What a step of a desk does at the gates, if it does anything there. -/
def registryStep? (d : Desk) : Step → Option Registry.Step
  | .request call remedy id headers now =>
    match remedy.rule with
    | none => none
    | some rule =>
      if d.dockets.contains call then none
      else
        some (.arrive { remedy := remedy.name, policy := rule.policy } call
          { id, priority := rule.priorityOf headers, arrived := now } rule.ttl now)
  | .gate _ (.arrive ..) => none
  | .gate key (.drop call) =>
    if (d.registry.find? key).any (·.callers.contains call) then some (.gate key (.drop call))
    else none
  | .gate key event => some (.gate key event)
  | .closeAll => some .closeAll

theorem hear_registry (d : Desk) (n : Notice) : (d.hear n).1.registry = d.registry := by
  unfold hear
  split
  · split <;> rfl
  · rfl

theorem hearAll_registry (d : Desk) (notices : List (Key × Notice)) :
    (d.hearAll notices).1.registry = d.registry := by
  induction notices generalizing d with
  | nil => rfl
  | cons n rest ih => exact (ih (d.hear n.2).1).trans (hear_registry d n.2)

/-- The rulings on one notice. -/
theorem mem_hear {d : Desk} {n : Notice} {call : CallId} {ruling : Ruling}
    (h : (call, ruling) ∈ (d.hear n).2) :
    ∃ v status, n = .returned call v ∧
      ruling = .ok (if v then .pass else .tooManyRequests status) := by
  unfold hear at h
  split at h
  · split at h
    · cases List.mem_singleton.mp h
      exact ⟨_, _, rfl, rfl⟩
    · exact absurd h List.not_mem_nil
  · exact absurd h List.not_mem_nil

/-- A ruling follows the verdict that a gate returned. -/
theorem mem_hearAll {d : Desk} {notices : List (Key × Notice)} {call : CallId}
    {ruling : Ruling} (h : (call, ruling) ∈ (d.hearAll notices).2) :
    ∃ key v status, (key, .returned call v) ∈ notices ∧
      ruling = .ok (if v then .pass else .tooManyRequests status) := by
  induction notices generalizing d with
  | nil => exact absurd h List.not_mem_nil
  | cons n rest ih =>
      rcases List.mem_append.mp h with hfirst | hrest
      · rcases mem_hear hfirst with ⟨v, status, hn, hruling⟩
        refine ⟨n.1, v, status, ?_, hruling⟩
        rw [← hn]
        exact List.mem_cons_self
      · rcases ih hrest with ⟨key, v, status, hmem, hruling⟩
        exact ⟨key, v, status, List.mem_cons_of_mem _ hmem, hruling⟩

end Desk

end Turnstile
