import Mathlib.Data.List.Dedup
import Turnstile.Proofs.Gate.History
import Turnstile.Proofs.Gate.Sound
import Turnstile.Proofs.Registry

/-!
# Keys

The gates of a registry know nothing of each other.

A key is given a gate the first time it is used by someone who would have one made, with
the reading of the clock of that use. What happens to the gate from then on is the events
at its key in their order; steps at other keys are not among them. So the gate of a
key is told by a row of steps alone, through the row of events that concern the key
(`lifeOf`), and this row is the same whether steps at other keys are there or not.

Closing all gates concerns every key, and at each one it is one event. A key without a gate
is passed over by it, just as an event that looks for a gate and finds none makes
none. Looking at a registry is no step at all: snapshots and counts are read off its gates.

## Main definitions

* `Step.concerns`: A step is about a key.
* `Step.makes?`, `Step.begin?`: The key that a step has a gate made for, and the reading of the
  clock it begins with.
* `Step.event?`, `eventsAt`: What steps do at the gate of a key.
* `lifeOf`: When the gate of a key begins, and all that happens to it.
* `alone`: The gate of a key and its notices, from its life and nothing else.
* `At`, `Follows`: What steps come to at a key, and that this is what they do at its gate.

## Theorems

* `step_of_find?`, `step_of_none`: What one step is to a key that has a gate, or has none.
* `find?_closeAll`, `mem_closeAll`: What closing all gates is to each of them.
* `run_of_find?`, `run_of_none`: What a run is to a key.
* `lifeOf_filter`: Steps that do not concern a key are not part of its life.
* `keys_are_isolated`: The gate of a key in a run is its gate in the run in which other keys are
  never used.
-/

namespace Turnstile

/-- Whether a snapshot is that of the gate of a key. -/
def Registered.isOf (key : Key) (s : Registered) : Bool :=
  s.remedy == key.remedy && s.gate.policy == key.policy

namespace Registry

namespace Step

/-- Whether a step is about a key. -/
def concerns (key : Key) : Step → Bool
  | .ensure k _ | .arrive k _ _ _ _ | .gate k _ => k = key
  | .closeAll => true

/-- The key that a step has a gate made for if there is none. -/
def makes? : Step → Option Key
  | .ensure k _ | .arrive k _ _ _ _ => some k
  | .gate _ _ | .closeAll => none

/-- The reading of the clock with which a step would begin the gate of a key. -/
def begin? (key : Key) : Step → Option Instant
  | .ensure k now | .arrive k _ _ _ now => if k = key then some now else none
  | .gate _ _ | .closeAll => none

/-- What a step does at the gate of a key. -/
def event? (key : Key) : Step → Option Event
  | .ensure _ _ => none
  | .arrive k call request ttl now => if k = key then some (.arrive call request ttl now) else none
  | .gate k event => if k = key then some event else none
  | .closeAll => some .close

variable {key : Key} {s : Step}

theorem begin?_of_not_concerns (h : s.concerns key = false) : s.begin? key = none := by
  cases s with
  | ensure | arrive => exact if_neg (of_decide_eq_false h)
  | gate | closeAll => rfl

theorem event?_of_not_concerns (h : s.concerns key = false) : s.event? key = none := by
  cases s with
  | ensure => rfl
  | arrive | gate => exact if_neg (of_decide_eq_false h)
  | closeAll => exact Bool.noConfusion h

/-- A step that concerns one key begins no gate at another. -/
theorem begin?_of_concerns {other : Key} (h : s.concerns key = true) (hne : key ≠ other) :
    s.begin? other = none := by
  cases s with
  | ensure | arrive => exact if_neg ((of_decide_eq_true h).symm ▸ hne)
  | gate | closeAll => rfl

theorem begin?_eq_none_iff : s.begin? key = none ↔ s.makes? ≠ some key := by
  cases s with
  | ensure k now | arrive k _ _ _ now =>
      simp only [begin?, makes?, ite_eq_right_iff, reduceCtorEq, imp_false, ne_eq,
        Option.some.injEq]
  | gate | closeAll => simp only [begin?, makes?, ne_eq, reduceCtorEq, not_false_eq_true]

end Step

/-- What some steps do at the gate of a key, in their order. -/
def eventsAt (key : Key) (ss : List Step) : List Event :=
  ss.filterMap (Step.event? key)

/-- When the gate of a key begins in a row of steps, and all that happens to it. The step that
    it begins with may do something at it already. -/
def lifeOf (key : Key) : List Step → Option (Instant × List Event)
  | [] => none
  | s :: ss =>
    match s.begin? key with
    | some now => some (now, eventsAt key (s :: ss))
    | none => lifeOf key ss

/-- The gate of a key on its own: what it comes to with the life it has in a row of steps, and
    the notices of it. -/
def alone (key : Key) (ss : List Step) : Option Gate × List Notice :=
  match lifeOf key ss with
  | some (now, es) =>
    let (gate, notices) := (Gate.start key.policy now).run es
    (some gate, notices)
  | none => (none, [])

variable {r : Registry} {key other : Key} {gate : Gate} {s : Step} {ss : List Step}

theorem eventsAt_cons (key : Key) (s : Step) (ss : List Step) :
    eventsAt key (s :: ss) = (s.event? key).toList ++ eventsAt key ss := by
  rw [eventsAt, List.filterMap_cons, eventsAt]
  cases s.event? key <;> rfl

theorem eventsAt_singleton (key : Key) (s : Step) : eventsAt key [s] = (s.event? key).toList :=
  (eventsAt_cons key s []).trans (List.append_nil _)

theorem eventsAt_filter (key : Key) (ss : List Step) :
    eventsAt key (ss.filter (Step.concerns key)) = eventsAt key ss := by
  induction ss with
  | nil => rfl
  | cons s ss ih =>
      rw [List.filter_cons, eventsAt_cons]
      split
      next => rw [eventsAt_cons, ih]
      next hother =>
        rw [Step.event?_of_not_concerns (Bool.eq_false_iff.mpr hother), ih]
        rfl

/-- Steps that do not concern a key are not part of the life of its gate. -/
theorem lifeOf_filter (key : Key) (ss : List Step) :
    lifeOf key (ss.filter (Step.concerns key)) = lifeOf key ss := by
  induction ss with
  | nil => rfl
  | cons s ss ih =>
      rw [List.filter_cons, lifeOf]
      split
      next =>
        rw [lifeOf, ih, eventsAt_cons, eventsAt_filter, eventsAt_cons]
      next hother =>
        rw [Step.begin?_of_not_concerns (Bool.eq_false_iff.mpr hother), ih]

/-- No other key has a gate if all steps concern one key. -/
theorem lifeOf_other (hne : key ≠ other) (ss : List Step) :
    lifeOf other (ss.filter (Step.concerns key)) = none := by
  induction ss with
  | nil => rfl
  | cons s ss ih =>
      rw [List.filter_cons]
      split
      next hmine => rw [lifeOf, Step.begin?_of_concerns hmine hne, ih]
      next => exact ih

/-- A gate is begun by the steps that have it made. -/
theorem lifeOf_isSome_iff (key : Key) (ss : List Step) :
    (lifeOf key ss).isSome = true ↔ key ∈ ss.filterMap Step.makes? := by
  rw [← not_iff_not, Bool.not_eq_true, Option.isSome_eq_false_iff, Option.isNone_iff_eq_none,
    List.mem_filterMap]
  induction ss with
  | nil => exact iff_of_true rfl fun ⟨_, hmem, _⟩ => absurd hmem List.not_mem_nil
  | cons s ss ih =>
      rw [lifeOf]
      cases hbegin : s.begin? key with
      | none =>
          have hmakes := Step.begin?_eq_none_iff.mp hbegin
          simp only [ih, List.mem_cons, exists_eq_or_imp, hmakes, false_or]
      | some now =>
          have hmakes : s.makes? = some key := by
            by_contra hnot
            exact nomatch (Step.begin?_eq_none_iff.mpr hnot).symm.trans hbegin
          simp only [reduceCtorEq, List.mem_cons, exists_eq_or_imp, hmakes, true_or,
            not_true_eq_false]

theorem alone_of_lifeOf {now : Instant} {es : List Event} (h : lifeOf key ss = some (now, es)) :
    alone key ss = (some ((Gate.start key.policy now).run es).1,
      ((Gate.start key.policy now).run es).2) := by
  rw [alone, h]

theorem alone_of_none (h : lifeOf key ss = none) : alone key ss = (none, []) := by
  rw [alone, h]

/-! ### Steps, seen from a key -/

theorem filter_map_self (key : Key) (notices : List Notice) :
    (notices.map (key, ·)).filter (fun n => n.1 = key) = notices.map (key, ·) :=
  List.filter_eq_self.mpr fun n hn => by
    rcases List.mem_map.mp hn with ⟨_, -, rfl⟩
    exact decide_eq_true rfl

theorem filter_map_other (hne : other ≠ key) (notices : List Notice) :
    (notices.map (other, ·)).filter (fun n => n.1 = key) = [] :=
  List.filter_eq_nil_iff.mpr fun n hn heq => by
    rcases List.mem_map.mp hn with ⟨_, -, rfl⟩
    exact hne (of_decide_eq_true heq)

/-- What steps come to at a key: the gate it has after them, and the notices of it. -/
def At (key : Key) (gate : Option Gate) (notices : List Notice)
    (outcome : Registry × List (Key × Notice)) : Prop :=
  outcome.1.find? key = gate ∧ outcome.2.filter (fun n => n.1 = key) = notices.map (key, ·)

theorem At.cons {g g' : Option Gate} {first rest : List Notice}
    (h : At key g first (r.step s)) (h' : At key g' rest ((r.step s).1.run ss)) :
    At key g' (first ++ rest) (r.run (s :: ss)) :=
  ⟨h'.1, by rw [run_cons, List.filter_append, h.2, h'.2, List.map_append]⟩

/-- A notice of the gate is among its notices. -/
theorem At.mem {g : Option Gate} {notices : List Notice} {n : Notice}
    {outcome : Registry × List (Key × Notice)} (h : At key g notices outcome)
    (hn : (key, n) ∈ outcome.2) : n ∈ notices := by
  have hmine : (key, n) ∈ outcome.2.filter (fun n => n.1 = key) :=
    List.mem_filter.mpr ⟨hn, decide_eq_true rfl⟩
  rw [h.2] at hmine
  rcases List.mem_map.mp hmine with ⟨_, hnotice, heq⟩
  cases heq
  exact hnotice

/-- A step is to a key that has a gate no more than what it does at this gate. -/
def Follows (key : Key) (s : Step) : Prop :=
  ∀ (r : Registry) (gate : Gate), r.find? key = some gate →
    At key (some (gate.run (s.event? key).toList).1) (gate.run (s.event? key).toList).2 (r.step s)

theorem run_follows (hsteps : ∀ s ∈ ss, Follows key s) (hfind : r.find? key = some gate) :
    At key (some (gate.run (eventsAt key ss)).1) (gate.run (eventsAt key ss)).2 (r.run ss) := by
  induction ss generalizing r gate with
  | nil => exact ⟨hfind, rfl⟩
  | cons s ss ih =>
      have hfirst := hsteps s List.mem_cons_self r gate hfind
      have hrest := ih (fun t ht => hsteps t (List.mem_cons_of_mem _ ht)) hfirst.1
      rw [eventsAt_cons, Gate.run_append]
      exact hfirst.cons hrest

/-- An event at a key is an event at its gate, and nothing to the gate of another key. -/
theorem follows_gate (key k : Key) (event : Event) : Follows key (.gate k event) := by
  intro r gate hfind
  by_cases hk : k = key
  · subst hk
    rw [Step.event?, if_pos rfl, step_gate_of_find? hfind]
    refine ⟨(Table.find?_insert_of_eq ..).trans (if_pos rfl), ?_⟩
    rw [filter_map_self]
    exact congrArg _ (List.append_nil _).symm
  · rw [Step.event?, if_neg hk]
    refine ⟨(find?_visit_of_ne r hk event).trans hfind, ?_⟩
    cases hother : r.find? k with
    | none => rw [step_gate_of_none hother]; rfl
    | some g => rw [step_gate_of_find? hother]; exact filter_map_other hk _

theorem visit_of_none (hfind : r.find? key = none) (k : Key) (event : Event) :
    At key none [] (r.step (.gate k event)) := by
  cases hother : r.find? k with
  | none =>
      rw [step_gate_of_none hother]
      exact ⟨hfind, rfl⟩
  | some g =>
      have hk : k ≠ key := fun heq => nomatch (heq ▸ hother).symm.trans hfind
      refine ⟨(find?_visit_of_ne r hk event).trans hfind, ?_⟩
      rw [step_gate_of_find? hother]
      exact filter_map_other hk _

/-- A key that has no gate is given one only if it is the one ensured. -/
theorem find?_ensure_of_none (hfind : r.find? key = none) (k : Key) (now : Instant) :
    (r.ensure k now).1.find? key =
      if k = key then some (Gate.start key.policy now) else none := by
  by_cases hk : k = key
  · subst hk
    rw [find?_ensure_self, if_pos rfl, ensure, hfind]
  · rw [if_neg hk]
    cases hensured : (r.ensure k now).1.find? key with
    | none => rfl
    | some g =>
        rcases find?_ensure now hensured with hthere | ⟨-, heq, -⟩
        · exact nomatch hthere.symm.trans hfind
        · exact absurd heq.symm hk

/-- Closing all gates is one event at the gate of a key that is among the keys. -/
theorem eventsAt_closings {keys : List Key} (hnodup : keys.Nodup) (key : Key) :
    eventsAt key (keys.map (.gate · .close)) = if key ∈ keys then [.close] else [] := by
  induction keys with
  | nil => rfl
  | cons k keys ih =>
      rcases List.nodup_cons.mp hnodup with ⟨hfresh, hrest⟩
      rw [List.map_cons, eventsAt_cons, ih hrest, Step.event?]
      by_cases hk : k = key
      · subst hk
        rw [if_pos rfl, if_neg hfresh, if_pos List.mem_cons_self]
        rfl
      · have hiff : key ∈ k :: keys ↔ key ∈ keys :=
          List.mem_cons.trans (or_iff_right fun heq => hk heq.symm)
        simp only [if_neg hk, hiff, Option.toList_none, List.nil_append]

theorem closings_of_none (hfind : r.find? key = none) (keys : List Key) :
    At key none [] (r.run (keys.map (.gate · .close))) := by
  induction keys generalizing r with
  | nil => exact ⟨hfind, rfl⟩
  | cons k keys ih =>
      have hfirst := visit_of_none hfind k .close
      exact hfirst.cons (ih hfirst.1)

/-- Every step is to a key that has a gate no more than what it does at this gate. -/
theorem step_of_find? (key : Key) (s : Step) : Follows key s := by
  intro r gate hfind
  cases s with
  | ensure k now => exact ⟨find?_ensure_of_find? k now hfind, rfl⟩
  | arrive k call request ttl now =>
      rw [step_arrive_eq]
      exact follows_gate key k _ _ gate (find?_ensure_of_find? k now hfind)
  | gate k event => exact follows_gate key k event r gate hfind
  | closeAll =>
      have hmem : key ∈ r.gates.keys :=
        (Table.mem_keys_iff r.gates key).mpr (Table.contains_of_find? hfind)
      -- The key is among the keys once, so its gate is closed once.
      have hevents : eventsAt key (r.gates.keys.map (.gate · .close)) = [.close] :=
        (eventsAt_closings (Table.nodup_keys _) key).trans (if_pos hmem)
      have hgates : ∀ s ∈ r.gates.keys.map (Step.gate · .close), Follows key s := by
        rintro s hs
        rcases List.mem_map.mp hs with ⟨k, -, rfl⟩
        exact follows_gate key k .close
      have hclosings := run_follows hgates hfind
      rw [hevents] at hclosings
      rw [closeAll_eq]
      exact hclosings

/-- A step gives a key that has no gate the one it begins, on which it may act at once. -/
theorem step_of_none (hfind : r.find? key = none) (s : Step) :
    At key (alone key [s]).1 (alone key [s]).2 (r.step s) := by
  have hno : s.begin? key = none → alone key [s] = (none, []) := fun hbegin =>
    alone_of_none (by rw [lifeOf, hbegin]; rfl)
  have hyes : ∀ {now : Instant}, s.begin? key = some now →
      lifeOf key [s] = some (now, (s.event? key).toList) := fun {now} hbegin => by
    rw [lifeOf, hbegin, eventsAt_singleton]
  cases s with
  | ensure k now =>
      have hensured := find?_ensure_of_none hfind k now
      by_cases hk : k = key
      · rw [if_pos hk] at hensured
        rw [alone_of_lifeOf (hyes (if_pos hk))]
        exact ⟨hensured, rfl⟩
      · rw [if_neg hk] at hensured
        rw [hno (if_neg hk)]
        exact ⟨hensured, rfl⟩
  | arrive k call request ttl now =>
      have hensured := find?_ensure_of_none hfind k now
      rw [step_arrive_eq]
      by_cases hk : k = key
      · rw [if_pos hk] at hensured
        rw [alone_of_lifeOf (hyes (if_pos hk))]
        exact follows_gate key k _ _ _ hensured
      · rw [if_neg hk] at hensured
        rw [hno (if_neg hk)]
        exact visit_of_none hensured k _
  | gate k event =>
      rw [hno rfl]
      exact visit_of_none hfind k event
  | closeAll =>
      rw [hno rfl, closeAll_eq]
      exact closings_of_none hfind _

/-- Closing all gates closes each gate that is there, and makes none. -/
theorem find?_closeAll (r : Registry) (key : Key) :
    (r.step .closeAll).1.find? key = (r.find? key).map fun gate => (gate.step .close).1 := by
  cases hfind : r.find? key with
  | none => exact (step_of_none hfind .closeAll).1
  | some gate => exact (step_of_find? key .closeAll r gate hfind).1

/-- Whatever is noticed when all gates are closed comes from closing one of them. -/
theorem mem_closeAll {n : Notice} (h : (key, n) ∈ (r.step .closeAll).2) :
    ∃ gate, r.find? key = some gate ∧ n ∈ (gate.step .close).2 := by
  cases hfind : r.find? key with
  | none => exact absurd ((step_of_none hfind .closeAll).mem h) List.not_mem_nil
  | some gate =>
      have hnotice := (step_of_find? key .closeAll r gate hfind).mem h
      refine ⟨gate, rfl, ?_⟩
      rw [Step.event?, Option.toList_some, Gate.run_cons] at hnotice
      exact (List.mem_append.mp hnotice).resolve_right List.not_mem_nil

/-! ### Runs, seen from a key -/

/-- Whatever happens, the gate of a key stays the gate of the key. -/
theorem run_of_find? (hfind : r.find? key = some gate) (ss : List Step) :
    At key (some (gate.run (eventsAt key ss)).1) (gate.run (eventsAt key ss)).2 (r.run ss) :=
  run_follows (fun s _ => step_of_find? key s) hfind

/-- A key that has no gate is given the one of its life. -/
theorem run_of_none (hfind : r.find? key = none) (ss : List Step) :
    At key (alone key ss).1 (alone key ss).2 (r.run ss) := by
  induction ss generalizing r with
  | nil => exact ⟨hfind, rfl⟩
  | cons s ss ih =>
      have hstep := step_of_none hfind s
      cases hbegin : s.begin? key with
      | none =>
          have hskip : alone key (s :: ss) = alone key ss := by
            rw [alone, lifeOf, hbegin, alone]
          rw [alone_of_none (by rw [lifeOf, hbegin]; rfl)] at hstep
          rw [hskip]
          exact hstep.cons (ih hstep.1)
      | some now =>
          -- From here on it is a key that has a gate.
          rw [alone_of_lifeOf (by rw [lifeOf, hbegin])] at hstep
          rw [alone_of_lifeOf (by rw [lifeOf, hbegin]), eventsAt_cons, Gate.run_append,
            ← eventsAt_singleton]
          exact hstep.cons (run_of_find? hstep.1 ss)

/-- What a run of a new registry comes to at a key is told by the life of the key. -/
theorem run_empty (key : Key) (ss : List Step) :
    At key (alone key ss).1 (alone key ss).2 (empty.run ss) :=
  run_of_none (Table.find?_empty key) ss

theorem alone_filter (key : Key) (ss : List Step) :
    alone key (ss.filter (Step.concerns key)) = alone key ss := by
  rw [alone, lifeOf_filter, alone]

/-- The gate of a key has started with the policy of the key and has come to where it is by the
    events at the key. -/
theorem life_of_alone (h : (alone key ss).1 = some gate) :
    ∃ now es, ((Gate.start key.policy now).run es).1 = gate := by
  cases hlife : lifeOf key ss with
  | none =>
      rw [alone_of_none hlife] at h
      exact nomatch h
  | some life =>
      rw [alone_of_lifeOf hlife] at h
      exact ⟨life.1, life.2, Option.some.inj h⟩

theorem sound_of_find? (h : (empty.run ss).1.find? key = some gate) : gate.Sound := by
  rcases life_of_alone ((run_empty key ss).1.symm.trans h) with ⟨now, es, rfl⟩
  exact Gate.sound_of_start key.policy now es

theorem policy_of_find? (h : (empty.run ss).1.find? key = some gate) :
    gate.policy = key.policy := by
  rcases life_of_alone ((run_empty key ss).1.symm.trans h) with ⟨now, es, rfl⟩
  exact Gate.run_policy (Gate.sound_start key.policy now) es

theorem alone_isSome (key : Key) (ss : List Step) :
    (alone key ss).1.isSome = (lifeOf key ss).isSome := by
  cases hlife : lifeOf key ss with
  | none => rw [alone_of_none hlife]; rfl
  | some life => rw [alone_of_lifeOf hlife]; rfl

/-- There are as many gates as keys that were to have one. -/
theorem size_run (ss : List Step) :
    (empty.run ss).1.size = (ss.filterMap Step.makes?).dedup.length := by
  have hperm : (empty.run ss).1.gates.keys.Perm (ss.filterMap Step.makes?).dedup := by
    -- Neither has a key twice, so it is enough that they have the same keys.
    refine (List.perm_ext_iff_of_nodup (Table.nodup_keys _) (List.nodup_dedup _)).mpr fun key => ?_
    have hfind : (empty.run ss).1.gates.find? key = (alone key ss).1 := (run_empty key ss).1
    rw [List.mem_dedup, ← lifeOf_isSome_iff, ← alone_isSome, ← hfind]
    exact Table.mem_keys_iff _ key
  exact (List.length_map _).symm.trans hperm.length_eq

theorem counts_filter (r : Registry) (key : Key) :
    r.counts.filter (fun e => e.1 = key) =
      ((r.find? key).map fun gate => (key, gate.counts)).toList := by
  rw [counts, List.filter_map, find?]
  change (r.gates.entries.filter fun e => e.1 = key).map _ = _
  rw [Table.entries_filter_key, ← Option.toList_map, Option.map_map]
  rfl

/-- The snapshots that look like that of a key are those of its gate. -/
theorem snapshot_filter {r : Registry}
    (hpolicy : ∀ k g, r.find? k = some g → g.policy = k.policy) (key : Key) :
    r.snapshot.filter (Registered.isOf key) =
      ((r.find? key).map fun gate => ⟨key.remedy, gate.snapshot⟩).toList := by
  have hsame : ∀ e ∈ r.gates.entries, Registered.isOf key ⟨e.1.remedy, e.2.snapshot⟩ =
      decide (e.1 = key) := by
    rintro ⟨k, g⟩ he
    have hg : g.policy = k.policy := hpolicy k g ((Table.find?_eq_some_iff _ _ _).mpr he)
    -- A snapshot shows the remedy and the policy, and there is no more to a key.
    rw [Registered.isOf, Gate.snapshot, hg, Bool.eq_iff_iff, Bool.and_eq_true, beq_iff_eq,
      beq_iff_eq, decide_eq_true_iff]
    exact ⟨fun ⟨hr, hp⟩ => by cases k; cases key; cases hr; cases hp; rfl,
      fun heq => heq ▸ ⟨rfl, rfl⟩⟩
  rw [snapshot, List.filter_map, List.filter_congr (q := fun e => e.1 = key) hsame,
    Table.entries_filter_key, ← Option.toList_map, Option.map_map, find?]
  rfl

/-- In a row of steps that all concern one key, every notice is from its gate. -/
theorem notices_of_concerned (key : Key) (ss : List Step) :
    (empty.run (ss.filter (Step.concerns key))).2 =
      (empty.run ss).2.filter (fun n => n.1 = key) := by
  have hmine : ∀ n ∈ (empty.run (ss.filter (Step.concerns key))).2, n.1 = key := by
    intro n hn
    by_contra hother
    have hnone := (run_empty n.1 (ss.filter (Step.concerns key))).2
    rw [alone_of_none (lifeOf_other (fun heq => hother heq.symm) ss), List.map_nil] at hnone
    exact List.filter_eq_nil_iff.mp hnone n hn (decide_eq_true rfl)
  have hall := List.filter_eq_self.mpr fun n hn => decide_eq_true (hmine n hn)
  rw [← hall, (run_empty key _).2, (run_empty key ss).2, alone_filter]

/-- **Keys are isolated.** The gate of a key begins with the first step that has it made and is
    never replaced: it is what is found under the key whenever it is asked for, and after
    whatever else happens it is this gate after the events at its key. It is the same
    gate, with the same verdicts, counts and snapshot, if all steps at other keys are left out
    and the others keep their readings of the clock. There are as many gates as different keys
    that had one made. -/
theorem keys_are_isolated (ss : List Step) (key : Key) :
    let later := (empty.run ss).1
    let restricted := empty.run (ss.filter (Step.concerns key))
    later.find? key = (alone key ss).1 ∧
    (∀ gate, later.find? key = some gate →
      (∀ now, later.ensure key now = (later, gate)) ∧
      ∀ ts, (later.run ts).1.find? key = some (gate.run (eventsAt key ts)).1) ∧
    restricted.1.find? key = later.find? key ∧
    restricted.2 = (empty.run ss).2.filter (fun n => n.1 = key) ∧
    restricted.1.counts = later.counts.filter (fun e => e.1 = key) ∧
    restricted.1.snapshot = later.snapshot.filter (Registered.isOf key) ∧
    later.size = (ss.filterMap Step.makes?).dedup.length := by
  intro later restricted
  have hfind : ∀ k, later.find? k = (alone k ss).1 := fun k => (run_empty k ss).1
  have hsame : restricted.1.find? key = later.find? key := by
    rw [hfind, ← alone_filter]
    exact (run_empty key _).1
  have hothers : ∀ k g, restricted.1.find? k = some g → k = key := by
    intro k g hg
    by_contra hne
    rw [(run_empty k _).1, alone_of_none (lifeOf_other (fun heq => hne heq.symm) ss)] at hg
    exact nomatch hg
  have hpolicy : ∀ ts k g, (empty.run ts).1.find? k = some g → g.policy = k.policy :=
    fun _ _ _ hg => policy_of_find? hg
  refine ⟨hfind key, fun gate hgate => ⟨fun now => ?_, fun ts => (run_of_find? hgate ts).1⟩, hsame,
    notices_of_concerned key ss, ?_, ?_, size_run ss⟩
  · rw [ensure, hgate]
  · -- No other key has a gate there, so nothing is left out of its listing.
    have hkept : restricted.1.counts.filter (fun e => e.1 = key) = restricted.1.counts := by
      refine List.filter_eq_self.mpr fun e he => decide_eq_true ?_
      rcases List.mem_map.mp he with ⟨⟨k, g⟩, hmem, rfl⟩
      exact hothers k g ((Table.find?_eq_some_iff _ _ _).mpr hmem)
    rw [← hkept, counts_filter, counts_filter, hsame]
  · have hkept : restricted.1.snapshot.filter (Registered.isOf key) = restricted.1.snapshot := by
      refine List.filter_eq_self.mpr fun s hs => ?_
      rcases List.mem_map.mp hs with ⟨⟨k, g⟩, hmem, rfl⟩
      have hg := (Table.find?_eq_some_iff _ _ _).mpr hmem
      have hk := hothers k g hg
      subst hk
      have hsnapshot : g.snapshot.policy = k.policy := hpolicy _ k g hg
      rw [Registered.isOf, hsnapshot, beq_self_eq_true, beq_self_eq_true]
      rfl
    rw [← hkept, snapshot_filter (hpolicy _), snapshot_filter (hpolicy _), hsame]

namespace Doors

/-- A door of one slot a second. -/
def narrow : Key := ⟨"door", Rush.policy⟩

/-- A door of the same name that has two slots a second. -/
def wide : Key := ⟨"door", ⟨2, .ofSeconds 1⟩⟩

/-- Calls come to both doors in turn. -/
def steps : List Step :=
  [.arrive wide 0 Rush.request (.ofSeconds 5) Instant.epoch,
    .arrive narrow 1 Rush.request (.ofSeconds 5) Instant.epoch,
    .arrive wide 2 Rush.request (.ofSeconds 5) Instant.epoch,
    .arrive narrow 3 Rush.request (.ofSeconds 5) Instant.epoch]

end Doors

/-- At the narrow door the second call waits, and would do so without the wide one; it is the
    same door for a call that comes later. -/
theorem keys_are_isolated_at_doors :
    let later := (empty.run Doors.steps).1
    (∃ gate, later.find? Doors.narrow = some gate ∧
      (∀ now, later.ensure Doors.narrow now = (later, gate)) ∧
      gate.line.toList.map (·.2.call) = [3]) ∧
    (empty.run (Doors.steps.filter (Step.concerns Doors.narrow))).2 =
      [(Doors.narrow, .granted 1), (Doors.narrow, .returned 1 true), (Doors.narrow, .parked 3)] ∧
    later.size = 2 := by
  intro later
  have hisolated := keys_are_isolated Doors.steps Doors.narrow
  have hthere : (later.find? Doors.narrow).isSome = true := by decide +kernel
  rcases Option.isSome_iff_exists.mp hthere with ⟨gate, hgate⟩
  have hline : (later.find? Doors.narrow).map (fun g => g.line.toList.map (·.2.call)) =
      some [3] := by decide +kernel
  rw [hgate] at hline
  refine ⟨⟨gate, hgate, (hisolated.2.1 gate hgate).1, Option.some.inj hline⟩, ?_, ?_⟩
  · rw [hisolated.2.2.2.1]
    decide +kernel
  · rw [hisolated.2.2.2.2.2.2]
    decide +kernel

end Registry

end Turnstile
