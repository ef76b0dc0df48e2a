import Mathlib.Algebra.BigOperators.Group.List.Lemmas
import Mathlib.Algebra.GroupWithZero.Nat
import Turnstile.Proofs.Table

/-!
# Numbers of Occurrences

Tables that have the number of how often each key occurs in a list.

The list need not be there. The calls in line have such a table beside them, and the tables of
several gates are added up without looking at a call again; what either comes to is
told by the list of what was counted. The order of the list is of no concern, and a key that does
not occur has no number, so there is one such table for each list.

## Main definitions

* `Table.Tells`: A table has the numbers of how often keys occur in a list.
* `Table.add`: The number of a key is added to.

## Theorems

* `Tells.perm`, `Tells.eq`: The order is of no concern, and the numbers are told by the list.
* `Tells.sum_eq`: The numbers make up the length of the list.
* `Tells.add`, `Tells.addEach`: Numbers are added for keys that come again.
* `Tells.perm_replicate`: A list is written out again from its numbers.
* `Tells.addTable`: Numbers are added to numbers by adding up the lists they tell.
-/

namespace Turnstile

namespace Table

variable {κ ι : Type} [Ord κ] [Std.TransOrd κ] [Std.LawfulEqOrd κ] [DecidableEq κ]
  [Ord ι] [Std.TransOrd ι] [Std.LawfulEqOrd ι] [DecidableEq ι]

/-- A table has the numbers of how often keys occur in a list, and none for a key that does
    not occur. -/
def Tells (t : Table κ Nat) (ks : List κ) : Prop :=
  ∀ k, t.find? k = if ks.count k = 0 then none else some (ks.count k)

/-- Add to the number of a key. -/
def add (t : Table κ Nat) (k : κ) (n : Nat) : Table κ Nat :=
  t.alter k fun m => some (m.getD 0 + n)

variable {t : Table κ Nat} {ks : List κ}

omit [Std.TransOrd κ] [Std.LawfulEqOrd κ] in
theorem Tells.perm {ls : List κ} (h : t.Tells ks) (hperm : ks.Perm ls) : t.Tells ls := by
  intro k
  rw [← hperm.count_eq]
  exact h k

omit [Std.TransOrd κ] [Std.LawfulEqOrd κ] in
theorem Tells.getD (h : t.Tells ks) (k : κ) : (t.find? k).getD 0 = ks.count k := by
  rw [h k]
  split
  next hzero => exact hzero.symm
  next => rfl

theorem Tells.eq {u : Table κ Nat} (h : t.Tells ks) (h' : u.Tells ks) : t = u :=
  eq_of_find?_eq fun k => (h k).trans (h' k).symm

/-- The numbers of how often keys occur make up all of them. -/
theorem Tells.sum_eq (h : t.Tells ks) : (t.entries.map (·.2)).sum = ks.length := by
  have hkeys : (t.entries.map (·.1)).Perm ks.dedup := by
    refine (List.perm_ext_iff_of_nodup t.nodup_keys ks.nodup_dedup).mpr fun k => ?_
    rw [mem_keys_iff, contains, h k, List.mem_dedup, ← List.count_pos_iff]
    split
    next hzero => simp only [hzero, Option.isSome_none, Bool.false_eq_true, Nat.lt_irrefl]
    next hsome => exact ⟨fun _ => Nat.pos_of_ne_zero hsome, fun _ => rfl⟩
  have hvalues : t.entries.map (·.2) = (t.entries.map (·.1)).map (ks.count ·) := by
    rw [List.map_map]
    refine List.map_congr_left fun e he => ?_
    have hfind := (find?_eq_some_iff t e.1 e.2).mpr he
    rw [h e.1] at hfind
    split at hfind
    · cases hfind
    · exact (Option.some.inj hfind).symm
  rw [hvalues, (hkeys.map _).sum_eq, List.sum_map_count_dedup_eq_length]

/-- A key that comes some more times has its number added to. -/
theorem Tells.add (h : t.Tells ks) (k : κ) {n : Nat} (hn : n ≠ 0) :
    (t.add k n).Tells (ks ++ List.replicate n k) := by
  intro l
  rw [Table.add, find?_alter_of_eq, List.count_append, List.count_replicate, h.getD k]
  -- At the key itself the sum is not zero, and at others nothing changes.
  by_cases hk : k = l
  · subst hk
    rw [if_pos rfl, beq_self_eq_true, if_pos rfl, if_neg (by omega)]
  · rw [if_neg hk, beq_false_of_ne hk, if_neg Bool.false_ne_true, Nat.add_zero]
    exact h l

omit [Ord ι] [Std.TransOrd ι] [Std.LawfulEqOrd ι] [DecidableEq ι] in
/-- Keys that each come some more times have their numbers added to, one after the other. -/
theorem Tells.addEach (h : t.Tells ks) (f : ι → κ) {es : List (ι × Nat)}
    (hes : ∀ e ∈ es, e.2 ≠ 0) :
    (es.foldl (fun t e => t.add (f e.1) e.2) t).Tells
      (ks ++ es.flatMap fun e => List.replicate e.2 (f e.1)) := by
  induction es generalizing t ks with
  | nil =>
      rw [List.flatMap_nil, List.append_nil]
      exact h
  | cons e es ih =>
      rw [List.foldl_cons, List.flatMap_cons, ← List.append_assoc]
      exact ih (h.add (f e.1) (hes e List.mem_cons_self)) fun x hx =>
        hes x (List.mem_cons_of_mem _ hx)

omit [Ord ι] [Std.TransOrd ι] [Std.LawfulEqOrd ι] in
theorem count_replicates (es : List (ι × Nat)) (i : ι) :
    (es.flatMap fun e => List.replicate e.2 e.1).count i =
      ((es.filter fun e => e.1 = i).map (·.2)).sum := by
  induction es with
  | nil => rfl
  | cons e es ih =>
      rw [List.flatMap_cons, List.count_append, List.count_replicate, ih, List.filter_cons]
      by_cases hi : e.1 = i
      · rw [if_pos (beq_iff_eq.mpr hi), if_pos (decide_eq_true hi), List.map_cons, List.sum_cons]
      · rw [beq_false_of_ne hi, if_neg Bool.false_ne_true, Nat.zero_add,
          if_neg (by rw [decide_eq_true_iff]; exact hi)]

/-- A list is written out again from its numbers, in some order. -/
theorem Tells.perm_replicate {c : Table ι Nat} {is : List ι} (h : c.Tells is) :
    (c.entries.flatMap fun e => List.replicate e.2 e.1).Perm is := by
  refine List.perm_iff_count.mpr fun i => ?_
  rw [count_replicates, entries_filter_key, ← h.getD i]
  cases c.find? i <;> rfl

theorem Tells.ne_zero {c : Table ι Nat} {is : List ι} (h : c.Tells is) :
    ∀ e ∈ c.entries, e.2 ≠ 0 := by
  intro e he hzero
  have hfind := (find?_eq_some_iff c e.1 e.2).mpr he
  rw [h e.1, hzero] at hfind
  split at hfind
  next => cases hfind
  next hcount => exact hcount (Option.some.inj hfind)

/-- Numbers are added to numbers by adding up the lists they tell. -/
theorem Tells.addTable {c : Table ι Nat} {is : List ι} (h : t.Tells ks) (hc : c.Tells is)
    (f : ι → κ) :
    (c.entries.foldl (fun t e => t.add (f e.1) e.2) t).Tells (ks ++ is.map f) := by
  -- The numbers write out the second list in their own order, and the order is of no concern.
  refine (h.addEach f hc.ne_zero).perm (List.Perm.append_left ks ?_)
  have hmap := hc.perm_replicate.map f
  rw [List.map_flatMap] at hmap
  simp only [List.map_replicate] at hmap
  exact hmap

end Table

end Turnstile
