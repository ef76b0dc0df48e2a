import Mathlib.Data.List.Pairwise
import Turnstile.Proofs.Registry.Keys

/-!
# Listings

The gates of a registry are listed in one order, however they are come by.

A registry keeps its gates in the order of their keys, so that a listing has only to be read
off. Whoever keeps them in no order, or in one that changes, has to sort what is found, and then
the outcome might depend on how it was found in two ways. Two items might compare as equal, and
stay in the order in which they came. Or the comparison might be no order at all.

Neither is the case, for one reason: an item shows the remedy and the policy of its gate, and the
comparison, which goes through the name, the quota and the length of a window, is that of keys.
If it left out one of these, two gates of one remedy could change places. As it leaves out
none, different gates have different items, one of which comes first, and there is a single
arrangement in order. Any sort finds it, stable or not.

An item has fields of a fixed width, and a gate counts without bound. Nothing is cut off from the
slots given away, as there are never more of them than the quota, which is as wide as the
field. A count of those who wait has sixty-four bits, which are enough for any line that is
meant (`Line.nextTicket`). `Snapshot.Shows` says what an item is to show field by field, by
what the gate has and by who stands in its line.

## Main definitions

* `Snapshot.Shows`: A snapshot has the state of a gate.
* `Registered.order`: Items are compared by name, then quota, then window length.
* `Registered.ofEntry`: The item of a gate.
* `Registry.listing`: The items of gates as they are found, sorted.

## Theorems

* `shows_snapshot`: The snapshot of a gate shows it.
* `order_ofEntry`: Items of gates compare as their keys do.
* `snapshot_ascending`: The snapshots of a registry are in order.
* `eq_of_perm_of_pairwise_order`: There is one arrangement in order.
* `run_reads`: Looking at gates changes none.
* `listing_canonical`: The listing is that of the keys in their order, whatever was found first.
-/

namespace Turnstile

/-- A snapshot has the state of a gate: its policy, the start of the window that the gate last
    observed, the slots given away in it, how many stand in line with each priority that
    anybody in line has, and whether the gate is closed. -/
structure Snapshot.Shows (s : Snapshot) (g : Gate) : Prop where
  policy : s.policy = g.policy
  windowStart : s.windowStart = ⟨g.policy.windowStart g.window, false⟩
  admitted : s.admitted.toNat = g.admitted
  waiting : ∀ q, s.waiting.find? q =
    if g.line.waiting q = 0 then none else some (UInt64.ofNat (g.line.waiting q))
  closed : s.closed = g.closed

theorem Gate.shows_snapshot {g : Gate} (h : g.Sound) : g.snapshot.Shows g where
  policy := rfl
  windowStart := rfl
  admitted :=
    UInt32.toNat_ofNat_of_lt' (Nat.lt_of_le_of_lt h.admitted_le g.policy.quota.toNat_lt)
  waiting q := by
    rw [snapshot, Table.find?_mapValues, counts, h.exact.counts_eq]
    split <;> rfl
  closed := rfl

namespace Registered

/-- Items are compared by the names of their remedies, then by quota, then by window length. -/
def order (a b : Registered) : Ordering :=
  (compare a.remedy b.remedy).then
    ((compare a.gate.policy.quota b.gate.policy.quota).then
      (compare a.gate.policy.window b.gate.policy.window))

/-- The key that an item shows. -/
def key (s : Registered) : Key := ⟨s.remedy, s.gate.policy⟩

/-- The item of a gate. -/
def ofEntry (e : Key × Gate) : Registered := ⟨e.1.remedy, e.2.snapshot⟩

/-- Nothing of a key is left out of the comparison. -/
theorem order_eq (a b : Registered) : a.order b = compare a.key b.key :=
  rfl

theorem order_swap (a b : Registered) : a.order b = (b.order a).swap :=
  Std.OrientedOrd.eq_swap (a := a.key) (b := b.key)

theorem isLE_trans (a b c : Registered) (hab : (a.order b).isLE = true)
    (hbc : (b.order c).isLE = true) : (a.order c).isLE = true :=
  Std.TransOrd.isLE_trans (a := a.key) (b := b.key) (c := c.key) hab hbc

theorem isLE_total (a b : Registered) : ((a.order b).isLE || (b.order a).isLE) = true := by
  rw [order_swap b a]
  cases a.order b <;> rfl

theorem isLE_antisymm {a b : Registered} (hab : (a.order b).isLE = true)
    (hba : (b.order a).isLE = true) : a.order b = .eq := by
  rw [order_eq] at hab hba ⊢
  exact Std.OrientedCmp.isLE_antisymm hab hba

instance : Std.Symm fun a b : Registered => a.order b ≠ .eq where
  symm a b hne heq := by
    rw [order_swap, Ordering.swap_eq_eq] at heq
    exact hne heq

end Registered

namespace Registry

/-- The items of gates in the order in which they are found, sorted. -/
def listing (found : List (Key × Gate)) : List Registered :=
  (found.map Registered.ofEntry).mergeSort fun a b => (a.order b).isLE

variable {r : Registry}

theorem snapshot_eq (r : Registry) : r.snapshot = r.gates.entries.map Registered.ofEntry :=
  rfl

/-- Items of gates compare as their keys do. -/
theorem order_ofEntry {e f : Key × Gate} (he : e.2.policy = e.1.policy)
    (hf : f.2.policy = f.1.policy) :
    (Registered.ofEntry e).order (Registered.ofEntry f) = compare e.1 f.1 := by
  have hkey : ∀ {x : Key × Gate}, x.2.policy = x.1.policy → (Registered.ofEntry x).key = x.1 := by
    intro x hx
    exact congrArg (Key.mk x.1.remedy) hx
  rw [Registered.order_eq, hkey he, hkey hf]

/-- The snapshots of a registry are in order, and no two compare as equal. -/
theorem snapshot_ascending (h : ∀ e ∈ r.gates.entries, e.2.policy = e.1.policy) :
    r.snapshot.Pairwise fun a b => a.order b = .lt := by
  rw [snapshot_eq, List.pairwise_map]
  refine List.Pairwise.imp_of_mem (fun {e f} he hf hlt => ?_) r.gates.ascending
  rw [order_ofEntry (h e he) (h f hf)]
  exact hlt

theorem ne_eq_of_lt {a b : Registered} (h : a.order b = .lt) : a.order b ≠ .eq := by
  rw [h]
  exact Ordering.noConfusion

/-- Items in a strict order are in the only order they have. -/
theorem eq_of_perm_of_pairwise_order {items sorted : List Registered}
    (hsorted : sorted.Pairwise fun a b => a.order b = .lt) (hperm : items.Perm sorted)
    (h : items.Pairwise fun a b => (a.order b).isLE = true) : items = sorted := by
  have hweak : sorted.Pairwise fun a b => (a.order b).isLE = true :=
    hsorted.imp fun {a b} hlt => by
      rw [hlt]
      rfl
  have hdiffer : sorted.Pairwise fun a b => a.order b ≠ .eq := hsorted.imp ne_eq_of_lt
  refine List.Perm.eq_of_pairwise (fun a b ha hb hab hba => ?_) h hweak hperm
  -- Different items of the row do not compare as equal.
  by_contra hne
  exact hdiffer.forall (hperm.mem_iff.mp ha) hb hne
    (Registered.isLE_antisymm hab hba)

theorem listing_perm (found : List (Key × Gate)) :
    (listing found).Perm (found.map Registered.ofEntry) :=
  List.mergeSort_perm _ _

theorem listing_pairwise (found : List (Key × Gate)) :
    (listing found).Pairwise fun a b => (a.order b).isLE = true :=
  List.pairwise_mergeSort Registered.isLE_trans Registered.isLE_total _

/-- Looking at gates, one after the other, changes none of them. -/
theorem run_reads (r : Registry) (keys : List Key) :
    r.run (keys.map (.gate · .read)) = (r, []) := by
  induction keys with
  | nil => rfl
  | cons key keys ih =>
      have hread : r.step (.gate key .read) = (r, []) := by
        cases hfind : r.find? key with
        | none => exact step_gate_of_none hfind _
        | some gate =>
            rw [step_gate_of_find? hfind]
            -- The gate is put back where it was found.
            have hsame : r.gates.insert key gate = r.gates :=
              Table.eq_of_find?_eq fun k => by
                rw [Table.find?_insert_of_eq]
                split
                next heq => exact (heq ▸ hfind).symm
                next => rfl
            exact congrArg (fun gates => ((⟨gates⟩ : Registry), ([] : List (Key × Notice)))) hsame
      rw [List.map_cons, run_cons, hread, ih]
      rfl

/-- **Listings are canonical.** Let the gates of a registry, in any state that it can be in, be
    found in any order. Sorted by name, quota and window length their items are the snapshot of
    the registry, and they are so however they are sorted: there is no other arrangement in
    order, as no two of them compare as equal. The snapshot ascends strictly. It has one item
    for each key that has a gate, which shows the state of that gate, and none for any other.
    Looking at the gates in the order in which they were found leaves the registry as it is. -/
theorem listing_canonical (ss : List Step) (found : List (Key × Gate))
    (hfound : found.Perm (empty.run ss).1.gates.entries) :
    let r := (empty.run ss).1
    listing found = r.snapshot ∧
    (∀ items : List Registered, items.Perm (found.map Registered.ofEntry) →
      (items.Pairwise fun a b => (a.order b).isLE = true) → items = r.snapshot) ∧
    ((found.map Registered.ofEntry).Pairwise fun a b => a.order b ≠ .eq) ∧
    (r.snapshot.Pairwise fun a b => a.order b = .lt) ∧
    (∀ key, r.snapshot.filter (Registered.isOf key) =
      ((r.find? key).map fun gate => ⟨key.remedy, gate.snapshot⟩).toList) ∧
    (∀ key gate, r.find? key = some gate →
      ∃ item, r.snapshot.filter (Registered.isOf key) = [item] ∧ item.remedy = key.remedy ∧
        item.gate.policy = key.policy ∧ item.gate.Shows gate) ∧
    r.snapshot.length = r.size ∧
    r.run (found.map (.gate ·.1 .read)) = (r, []) := by
  intro r
  have hpolicy : ∀ k g, r.find? k = some g → g.policy = k.policy := fun _ _ => policy_of_find?
  have hascending := snapshot_ascending (r := r) fun e he =>
    hpolicy e.1 e.2 ((Table.find?_eq_some_iff _ _ _).mpr he)
  have hperm : (found.map Registered.ofEntry).Perm r.snapshot := hfound.map _
  have hsole : ∀ items : List Registered, items.Perm (found.map Registered.ofEntry) →
      (items.Pairwise fun a b => (a.order b).isLE = true) → items = r.snapshot :=
    fun items hitems => eq_of_perm_of_pairwise_order hascending (hitems.trans hperm)
  refine ⟨hsole _ (listing_perm found) (listing_pairwise found), hsole, ?_, hascending,
    snapshot_filter hpolicy, fun key gate hgate => ?_, List.length_map _, ?_⟩
  · refine (List.Perm.pairwise_iff (fun {a b} hne => ?_) hperm).mpr (hascending.imp ne_eq_of_lt)
    exact Std.Symm.symm (r := fun a b : Registered => a.order b ≠ .eq) _ _ hne
  · have hitem := snapshot_filter (r := r) hpolicy key
    rw [hgate] at hitem
    exact ⟨_, hitem, rfl, hpolicy key gate hgate, Gate.shows_snapshot (sound_of_find? hgate)⟩
  · have hreads := run_reads r (found.map (·.1))
    rw [List.map_map] at hreads
    exact hreads

namespace Doors

/-- A door of one slot, whose windows are a nanosecond longer than a second. -/
def slow : Key := ⟨"door", ⟨1, ⟨1000000001, by decide⟩⟩⟩

/-- A door of another name, which is like the narrow one otherwise. -/
def dock : Key := ⟨"dock", Rush.policy⟩

/-- Both calls at the wide door are let in before it is closed. The narrow one turns to its second
    window, which is for the call that waits there, and the next call waits. -/
def turns : List Step :=
  steps ++ [.ensure slow Instant.epoch, .ensure dock Instant.epoch, .gate wide .close,
    .gate narrow (.wardenLook 0), .gate narrow (.wardenWake 0 Rush.second),
    .arrive narrow 4 Rush.request (.ofSeconds 5) Rush.second]

end Doors

/-- Four doors that differ by name, by quota or by a nanosecond are found last to first, and are
    listed first to last. One of them shows the window to which it has turned and the call that
    waits for the next, and one that it is closed. -/
theorem listing_canonical_at_doors :
    let r := (empty.run Doors.turns).1
    let found := r.gates.entries.reverse
    found.map (·.1) = [Doors.wide, Doors.slow, Doors.narrow, Doors.dock] ∧
    listing found = r.snapshot ∧
    (∃ gate item, r.find? Doors.narrow = some gate ∧
      r.snapshot.filter (Registered.isOf Doors.narrow) = [item] ∧ item.gate.Shows gate ∧
      gate.window = 1 ∧ gate.admitted = 1 ∧ gate.line.toList.map (·.2.call) = [4]) ∧
    r.snapshot = [
      ⟨"dock", ⟨Doors.dock.policy, ⟨Instant.epoch, false⟩, 0, Table.empty, false⟩⟩,
      ⟨"door", ⟨Doors.narrow.policy, ⟨Rush.second, false⟩, 1, Table.ofList [(0, 1)], false⟩⟩,
      ⟨"door", ⟨Doors.slow.policy, ⟨Instant.epoch, false⟩, 0, Table.empty, false⟩⟩,
      ⟨"door", ⟨Doors.wide.policy, ⟨Instant.epoch, false⟩, 2, Table.empty, true⟩⟩] := by
  intro r found
  rcases listing_canonical Doors.turns found (List.reverse_perm _) with
    ⟨hlisting, -, -, -, -, hitems, -⟩
  have hthere : (r.find? Doors.narrow).map
      (fun g => (g.window, g.admitted, g.line.toList.map (·.2.call))) = some (1, 1, [4]) := by
    decide +kernel
  rcases Option.map_eq_some_iff.mp hthere with ⟨gate, hgate, hstate⟩
  rcases hitems _ gate hgate with ⟨item, hfilter, -, -, hshows⟩
  simp only [Prod.mk.injEq] at hstate
  exact ⟨by decide +kernel, hlisting, ⟨gate, item, hgate, hfilter, hshows, hstate⟩,
    by decide +kernel⟩

end Registry

end Turnstile
