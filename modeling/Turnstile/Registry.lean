import Turnstile.Gate.Snapshot

/-!
# Registries

A registry holds one gate for each key, that is for each remedy name and
policy. A gate comes into being when its key is first used and stays for good.

What happens to a registry happens to one of its gates, except that all gates
may be closed together. Listings are ordered by remedy name, quota and window
length.

## Main definitions

* `Key`: What a gate is registered under.
* `Registry`: The gates by key.
* `Registry.ensure`: The registry in which a key has a gate.
* `Registry.Step`: What can happen to a registry.
* `Registry.step`, `Registry.run`: One step, and a sequence of steps.
* `Registry.snapshot`: The snapshots of all gates.
-/

namespace Turnstile

/-- What a gate is registered under. -/
structure Key where
  /-- The name of the remedy. -/
  remedy : String
  /-- The policy that the gate enforces. -/
  policy : Policy
deriving DecidableEq

namespace Key

instance : Ord Key := ⟨compareLex (compareOn (·.remedy)) (compareOn (·.policy))⟩

instance : Std.TransOrd Key :=
  inferInstanceAs (Std.TransCmp
    (compareLex (compareOn (fun k : Key => k.remedy)) (compareOn (fun k => k.policy))))

instance : Std.LawfulEqOrd Key where
  eq_of_compare {a b} h := by
    rcases a with ⟨r, p⟩
    rcases b with ⟨r', p'⟩
    have h' := compareLex_eq_eq.mp h
    have hr : r = r' := Std.LawfulEqOrd.eq_of_compare h'.1
    have hp : p = p' := Std.LawfulEqOrd.eq_of_compare h'.2
    rw [hr, hp]

end Key

/-- The gates by key. -/
structure Registry where
  /-- The gate of each key that was used. -/
  gates : Table Key Gate

/-- The snapshot of a registered gate. -/
structure Registered where
  /-- The name of the remedy. -/
  remedy : String
  /-- The snapshot of its gate. -/
  gate : Snapshot
deriving DecidableEq

namespace Registry

/-- What can happen to a registry. -/
inductive Step where
  /-- A key is used, without any call. -/
  | ensure (key : Key) (now : Instant)
  /-- A call arrives at the gate of a key, which is made if there is none. -/
  | arrive (key : Key) (call : CallId) (request : Request) (ttl : Span) (now : Instant)
  /-- Something happens to the gate of a key, if there is one. -/
  | gate (key : Key) (event : Event)
  /-- All gates are closed. -/
  | closeAll

/-- The registry that nobody has used. -/
def empty : Registry := ⟨Table.empty⟩

/-- The gate of a key, if it has one. -/
def find? (r : Registry) (key : Key) : Option Gate := r.gates.find? key

/-- The registry in which a key has a gate, with that gate: the one that is
    there, or else a new one. -/
def ensure (r : Registry) (key : Key) (now : Instant) : Registry × Gate :=
  match r.find? key with
  | some gate => (r, gate)
  | none =>
    let gate := Gate.start key.policy now
    (⟨r.gates.insert key gate⟩, gate)

/-- Let an event happen to a gate that stands under a key. -/
def update (r : Registry) (key : Key) (gate : Gate) (event : Event) : Registry × List Notice :=
  let (gate, notices) := gate.step event
  (⟨r.gates.insert key gate⟩, notices)

/-- Close the gates of some keys, one after the other. -/
def closeEach (r : Registry) : List Key → Registry × List (Key × Notice)
  | [] => (r, [])
  | key :: keys =>
    match r.find? key with
    | none => r.closeEach keys
    | some gate =>
      let (r, notices) := r.update key gate .close
      let (r, rest) := r.closeEach keys
      (r, notices.map (key, ·) ++ rest)

/-- One step; the notices come with the key of the gate they came from. -/
def step (r : Registry) : Step → Registry × List (Key × Notice)
  | .ensure key now => ((r.ensure key now).1, [])
  | .arrive key call request ttl now =>
    let (r, gate) := r.ensure key now
    let (r, notices) := r.update key gate (.arrive call request ttl now)
    (r, notices.map (key, ·))
  | .gate key event =>
    match r.find? key with
    | some gate =>
      let (r, notices) := r.update key gate event
      (r, notices.map (key, ·))
    | none => (r, [])
  | .closeAll => r.closeEach r.gates.keys

/-- A sequence of steps. -/
def run (r : Registry) : List Step → Registry × List (Key × Notice)
  | [] => (r, [])
  | s :: ss =>
    let (r, first) := r.step s
    let (r, rest) := r.run ss
    (r, first ++ rest)

/-- The number of gates. -/
def size (r : Registry) : Nat := r.gates.size

/-- Whether there is no gate. -/
def isEmpty (r : Registry) : Bool := r.gates.isEmpty

/-- The snapshots of all gates, by remedy name, quota and window length. -/
def snapshot (r : Registry) : List Registered :=
  r.gates.entries.map fun (key, gate) => { remedy := key.remedy, gate := gate.snapshot }

/-- The waiting calls of each priority at every gate, in the order of keys. -/
def counts (r : Registry) : List (Key × Table Priority Nat) :=
  r.gates.entries.map fun (key, gate) => (key, gate.counts)

end Registry

end Turnstile
