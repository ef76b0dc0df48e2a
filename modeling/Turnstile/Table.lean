/-!
# Tables

Finite maps, kept as one list of entries in strictly ascending key order.

The order is part of the type, so a table has exactly one representation: two
tables that answer every lookup alike are equal. Listings read off a table are
therefore canonical without a sorting step, whatever order the entries came in.

## Main definitions

* `Ascending`: A list of entries is strictly ascending by key.
* `Table`: A list of entries together with that fact.
* `Table.find?`, `Table.insert`, `Table.erase`: Lookup and update.
* `Table.alter`: Update of one key through a function of its present value.
* `Table.head?`, `Table.tail`: The entry with the least key, and the others.

## Theorems

* `ascending_insertEntry`: Insertion keeps the order.
* `ascending_eraseKey`: Removal keeps the order.
-/

namespace Turnstile

variable {κ α β : Type} [Ord κ]

/-- Strictly ascending by key, hence without repeated keys. -/
def Ascending (entries : List (κ × α)) : Prop :=
  entries.Pairwise fun a b => compare a.1 b.1 = .lt

/-- Put `v` at key `k`, in place of the present entry of `k` if there is one. -/
def insertEntry (k : κ) (v : α) : List (κ × α) → List (κ × α)
  | [] => [(k, v)]
  | e :: rest =>
    match compare k e.1 with
    | .lt => (k, v) :: e :: rest
    | .eq => (k, v) :: rest
    | .gt => e :: insertEntry k v rest

/-- Leave out the entry of key `k`. -/
def eraseKey (k : κ) (entries : List (κ × α)) : List (κ × α) :=
  entries.filter fun e => compare e.1 k != .eq

/-- The value at key `k`. -/
def findEntry (k : κ) (entries : List (κ × α)) : Option α :=
  (entries.find? fun e => compare e.1 k == .eq).map (·.2)

theorem mem_insertEntry {k : κ} {v : α} {x : κ × α} {entries : List (κ × α)}
    (h : x ∈ insertEntry k v entries) : x = (k, v) ∨ x ∈ entries := by
  induction entries with
  | nil => exact Or.inl (List.mem_singleton.mp h)
  | cons e rest ih =>
      simp only [insertEntry] at h
      split at h
      · exact List.mem_cons.mp h
      · rcases List.mem_cons.mp h with h | h
        · exact Or.inl h
        · exact Or.inr (List.mem_cons_of_mem _ h)
      · rcases List.mem_cons.mp h with h | h
        · exact Or.inr (h ▸ List.mem_cons_self)
        · exact (ih h).imp_right (List.mem_cons_of_mem _)

/-- Insertion keeps the order. -/
theorem ascending_insertEntry [Std.TransOrd κ] (k : κ) (v : α)
    {entries : List (κ × α)} (h : Ascending entries) :
    Ascending (insertEntry k v entries) := by
  induction entries with
  | nil => exact List.pairwise_singleton _ _
  | cons e rest ih =>
      have hc := List.pairwise_cons.mp h
      simp only [insertEntry]
      split
      next hlt =>
        refine List.pairwise_cons.mpr ⟨fun x hx => ?_, h⟩
        rcases List.mem_cons.mp hx with rfl | hx
        · exact hlt
        · exact Std.TransCmp.lt_trans hlt (hc.1 x hx)
      next heq =>
        exact List.pairwise_cons.mpr
          ⟨fun x hx => Std.TransCmp.lt_of_eq_of_lt heq (hc.1 x hx), hc.2⟩
      next hgt =>
        refine List.pairwise_cons.mpr ⟨fun x hx => ?_, ih hc.2⟩
        rcases mem_insertEntry hx with rfl | hx
        · exact Std.OrientedCmp.gt_iff_lt.mp hgt
        · exact hc.1 x hx

/-- Removal keeps the order. -/
theorem ascending_eraseKey (k : κ) {entries : List (κ × α)} (h : Ascending entries) :
    Ascending (eraseKey k entries) :=
  List.Pairwise.filter _ h

/-- A finite map with its entries in strictly ascending key order. -/
structure Table (κ α : Type) [Ord κ] where
  /-- The entries, least key first. -/
  entries : List (κ × α)
  /-- The keys ascend strictly. -/
  ascending : Ascending entries
deriving DecidableEq

namespace Table

/-- The table without entries. -/
def empty : Table κ α := ⟨[], List.Pairwise.nil⟩

instance : EmptyCollection (Table κ α) := ⟨empty⟩

instance : Inhabited (Table κ α) := ⟨empty⟩

/-- The value at key `k`. -/
def find? (t : Table κ α) (k : κ) : Option α :=
  findEntry k t.entries

/-- Whether key `k` has an entry. -/
def contains (t : Table κ α) (k : κ) : Bool :=
  (t.find? k).isSome

/-- Set the value at key `k`. -/
def insert [Std.TransOrd κ] (t : Table κ α) (k : κ) (v : α) : Table κ α :=
  ⟨insertEntry k v t.entries, ascending_insertEntry k v t.ascending⟩

/-- Remove the entry of key `k`, if there is one. -/
def erase (t : Table κ α) (k : κ) : Table κ α :=
  ⟨eraseKey k t.entries, ascending_eraseKey k t.ascending⟩

/-- Replace the value at key `k` by a function of what is there now. -/
def alter [Std.TransOrd κ] (t : Table κ α) (k : κ) (f : Option α → Option α) : Table κ α :=
  match f (t.find? k) with
  | some v => t.insert k v
  | none => t.erase k

/-- The table of a list of entries; of two with one key the later counts. -/
def ofList [Std.TransOrd κ] (entries : List (κ × α)) : Table κ α :=
  entries.foldl (fun t e => t.insert e.1 e.2) empty

/-- The entry with the least key. -/
def head? (t : Table κ α) : Option (κ × α) :=
  t.entries.head?

/-- All entries but the one with the least key. -/
def tail (t : Table κ α) : Table κ α :=
  ⟨t.entries.tail, List.Pairwise.tail t.ascending⟩

/-- The number of entries. -/
def size (t : Table κ α) : Nat :=
  t.entries.length

/-- Whether there is no entry. -/
def isEmpty (t : Table κ α) : Bool :=
  t.entries.isEmpty

/-- The keys in ascending order. -/
def keys (t : Table κ α) : List κ :=
  t.entries.map (·.1)

/-- Apply a function to every value. -/
def mapValues (t : Table κ α) (f : α → β) : Table κ β :=
  ⟨t.entries.map fun e => (e.1, f e.2), by
    simpa only [Ascending, List.pairwise_map] using t.ascending⟩

end Table

end Turnstile
