import Turnstile.Table.Lemmas

/-!
# Lookup under Lawful Keys

The lookup laws of tables say which keys compare as equal. For every key type
in use comparing as equal is being equal, and the laws are then needed in that
form: one value per key, changed at one key and nowhere else.

The keys of a table are also without repetition. Counting entries is counting
keys, which is how the calls of a gate are counted, and each update is a permutation of
the entries with one put in or taken out.

## Theorems

* `compare_self_ne_lt`: No key comes before itself.
* `find?_insert_of_eq`, `find?_erase_of_eq`, `find?_alter_of_eq`: Lookup after each
  update, in terms of equal keys.
* `find?_mapValues`: Lookup after a change of all values.
* `contains_of_find?`, `not_contains_of_find?`: A key is contained when it has a value.
* `eq_of_mem_entries`: A key has one value.
* `insertEntry_perm`, `eraseKey_perm`: Updates as permutations of the entries.
* `nodup_keys`: No key occurs twice.
* `size_eq_of_contains_eq`: Tables with the same keys are of the same size.
* `size_erase`: One entry fewer after a key was taken out.
* `entries_filter_key`: The entries with one key.
* `countP_key_le`, `countP_insert`, `countP_erase`: Counting entries, with one more or
  fewer after an update.
* `erase_insert_self`: A key that is put in and taken out leaves the table as it was.
* `erase_comm`, `erase_insert_of_ne`: Updates at different keys are made in any order.
* `find?_ofList_iff`: The table of a list without repeated keys has its entries.
* `ofList_of_perm`: A table is read back from its entries in any order.
-/

namespace Turnstile

/-- No key comes before itself. -/
theorem compare_self_ne_lt {κ : Type} [Ord κ] [Std.ReflOrd κ] (k : κ) : compare k k ≠ .lt := by
  have hself : compare k k = .eq := Std.ReflCmp.compare_self
  rw [hself]
  exact Ordering.noConfusion

section Entries

variable {κ α : Type} [Ord κ]

/-- A key that is not there yet is added to the entries. -/
theorem insertEntry_perm (k : κ) (v : α) (entries : List (κ × α))
    (h : ∀ e ∈ entries, compare k e.1 ≠ .eq) :
    (insertEntry k v entries).Perm ((k, v) :: entries) := by
  induction entries with
  | nil => exact List.Perm.refl _
  | cons e rest ih =>
      simp only [insertEntry]
      split
      next => exact List.Perm.refl _
      next heq => exact absurd heq (h e List.mem_cons_self)
      next =>
        have hrest := ih fun x hx => h x (List.mem_cons_of_mem _ hx)
        exact (hrest.cons e).trans (List.Perm.swap ..)

/-- A key that is there is taken from the entries. -/
theorem eraseKey_perm [Std.TransOrd κ] [Std.LawfulEqOrd κ] (k : κ) (v : α)
    {entries : List (κ × α)} (hasc : Ascending entries) (h : (k, v) ∈ entries) :
    entries.Perm ((k, v) :: eraseKey k entries) := by
  induction entries with
  | nil => exact absurd h List.not_mem_nil
  | cons e rest ih =>
      have hc := List.pairwise_cons.mp hasc
      have hself : ∀ x : κ, compare x x = .eq := fun _ => Std.ReflCmp.compare_self
      rcases List.mem_cons.mp h with rfl | hmem
      · -- The key is the least one, so no other entry is left out with it.
        have hkeep : eraseKey k rest = rest := by
          refine List.filter_eq_self.mpr fun x hx => bne_iff_ne.mpr fun heq => ?_
          have hlt := hc.1 x hx
          rw [Std.OrientedCmp.eq_symm heq] at hlt
          exact Ordering.noConfusion hlt
        have hdrop : eraseKey k ((k, v) :: rest) = eraseKey k rest := by
          simp only [eraseKey, List.filter_cons, hself, bne_self_eq_false, Bool.false_eq_true,
            if_false]
        rw [hdrop, hkeep]
      · have hne : compare e.1 k ≠ .eq := by
          rw [hc.1 _ hmem]
          exact Ordering.noConfusion
        have hkeep : eraseKey k (e :: rest) = e :: eraseKey k rest := by
          simp only [eraseKey, List.filter_cons, bne_iff_ne.mpr hne, if_true]
        rw [hkeep]
        exact ((ih hc.2 hmem).cons e).trans (List.Perm.swap ..)

end Entries

namespace Table

variable {κ α : Type} [Ord κ] [Std.TransOrd κ] [Std.LawfulEqOrd κ]

theorem find?_insert_of_eq [DecidableEq κ] (t : Table κ α) (k k' : κ) (v : α) :
    (t.insert k v).find? k' = if k = k' then some v else t.find? k' := by
  rw [find?_insert]
  simp only [Std.LawfulEqOrd.compare_eq_iff_eq]

theorem find?_erase_of_eq [DecidableEq κ] (t : Table κ α) (k k' : κ) :
    (t.erase k).find? k' = if k = k' then none else t.find? k' := by
  rw [find?_erase]
  simp only [Std.LawfulEqOrd.compare_eq_iff_eq]

theorem find?_alter_of_eq [DecidableEq κ] (t : Table κ α) (k k' : κ)
    (f : Option α → Option α) :
    (t.alter k f).find? k' = if k = k' then f (t.find? k) else t.find? k' := by
  rw [find?_alter]
  simp only [Std.LawfulEqOrd.compare_eq_iff_eq]

omit [Std.TransOrd κ] [Std.LawfulEqOrd κ] in
theorem find?_mapValues {β : Type} (t : Table κ α) (f : α → β) (k : κ) :
    (t.mapValues f).find? k = (t.find? k).map f := by
  unfold find? findEntry mapValues
  rw [List.find?_map, Option.map_map, Option.map_map]
  rfl

omit [Std.TransOrd κ] [Std.LawfulEqOrd κ] in
theorem contains_of_find? {t : Table κ α} {k : κ} {v : α} (h : t.find? k = some v) :
    t.contains k = true := by
  rw [contains, h, Option.isSome_some]

omit [Std.TransOrd κ] [Std.LawfulEqOrd κ] in
theorem not_contains_of_find? {t : Table κ α} {k : κ} (h : t.find? k = none) :
    t.contains k = false := by
  rw [contains, h, Option.isSome_none]

omit [Std.LawfulEqOrd κ] in
theorem contains_insert {t : Table κ α} {k : κ} (h : t.contains k = true) (k' : κ) (v : α) :
    (t.insert k' v).contains k = true := by
  rw [contains, find?_insert]
  split
  · rfl
  · exact h

/-- A key has one value. -/
theorem eq_of_mem_entries {t : Table κ α} {k : κ} {v v' : α}
    (h : (k, v) ∈ t.entries) (h' : (k, v') ∈ t.entries) : v = v' := by
  have hv := (find?_eq_some_iff t k v).mpr h
  rw [(find?_eq_some_iff t k v').mpr h'] at hv
  exact (Option.some.inj hv).symm

omit [Std.TransOrd κ] in
/-- No key occurs twice. -/
theorem nodup_keys (t : Table κ α) : (t.entries.map (·.1)).Nodup := by
  refine List.pairwise_map.mpr (t.ascending.imp fun {a b} hlt heq => ?_)
  rw [heq] at hlt
  exact compare_self_ne_lt b.1 hlt

theorem mem_keys_iff (t : Table κ α) (k : κ) :
    k ∈ t.entries.map (·.1) ↔ t.contains k = true := by
  rw [contains, Option.isSome_iff_exists, List.mem_map]
  constructor
  · rintro ⟨⟨_, v⟩, he, rfl⟩
    exact ⟨v, (find?_eq_some_iff t _ v).mpr he⟩
  · rintro ⟨v, hv⟩
    exact ⟨(k, v), (find?_eq_some_iff t k v).mp hv, rfl⟩

/-- Tables with the same keys are of the same size, since no key occurs twice. -/
theorem size_eq_of_contains_eq {β : Type} {t : Table κ α} {u : Table κ β}
    (h : ∀ k, t.contains k = u.contains k) : t.size = u.size := by
  have hperm : (t.entries.map (·.1)).Perm (u.entries.map (·.1)) := by
    refine (List.perm_ext_iff_of_nodup t.nodup_keys u.nodup_keys).mpr fun k => ?_
    rw [mem_keys_iff, mem_keys_iff, h k]
  have hlength := hperm.length_eq
  rw [List.length_map, List.length_map] at hlength
  exact hlength

theorem size_erase {t : Table κ α} {k : κ} {v : α} (h : t.find? k = some v) :
    (t.erase k).size + 1 = t.size := by
  have hperm := eraseKey_perm k v t.ascending ((find?_eq_some_iff t k v).mp h)
  exact hperm.length_eq.symm

theorem erase_comm [DecidableEq κ] (t : Table κ α) (k k' : κ) :
    (t.erase k).erase k' = (t.erase k').erase k := by
  refine eq_of_find?_eq fun x => ?_
  simp only [find?_erase_of_eq]
  by_cases hk : k = x
  · simp only [hk, if_true, ite_self]
  · simp only [hk, if_false]

/-- A key that is put in and taken out again leaves nothing behind. -/
theorem erase_insert_self [DecidableEq κ] {t : Table κ α} {k : κ} (h : t.find? k = none) (v : α) :
    (t.insert k v).erase k = t := by
  refine eq_of_find?_eq fun x => ?_
  simp only [find?_erase_of_eq, find?_insert_of_eq]
  by_cases hk : k = x
  · rw [if_pos hk, ← hk, h]
  · simp only [hk, if_false]

/-- The entries with one key are the value that is looked up there. -/
theorem entries_filter_key [DecidableEq κ] (t : Table κ α) (k : κ) :
    t.entries.filter (fun e => e.1 = k) = ((t.find? k).map (k, ·)).toList := by
  cases hfind : t.find? k with
  | none =>
      refine List.filter_eq_nil_iff.mpr fun e he heq => ?_
      rw [← of_decide_eq_true heq, (find?_eq_some_iff t e.1 e.2).mpr he] at hfind
      exact nomatch hfind
  | some v =>
      have hperm := eraseKey_perm k v t.ascending ((find?_eq_some_iff t k v).mp hfind)
      have hothers : (eraseKey k t.entries).filter (fun e => e.1 = k) = [] := by
        refine List.filter_eq_nil_iff.mpr fun e he heq => ?_
        have hne := (List.mem_filter.mp he).2
        exact bne_iff_ne.mp hne (Std.LawfulEqOrd.compare_eq_iff_eq.mpr (of_decide_eq_true heq))
      have hfilter := hperm.filter fun e => e.1 = k
      rw [List.filter_cons, hothers, if_pos (decide_eq_true rfl)] at hfilter
      exact List.perm_singleton.mp hfilter

omit [Std.TransOrd κ] in
/-- A key is the key of one entry at most. -/
theorem countP_key_le [DecidableEq κ] (t : Table κ α) (k : κ) :
    t.entries.countP (fun e => e.1 == k) ≤ 1 := by
  have hcount := List.nodup_iff_count.mp t.nodup_keys k
  rw [List.count, List.countP_map] at hcount
  exact hcount

theorem countP_erase {t : Table κ α} {k : κ} {v : α} (h : t.find? k = some v)
    (p : κ × α → Bool) :
    (t.erase k).entries.countP p + (if p (k, v) then 1 else 0) = t.entries.countP p := by
  have hperm := eraseKey_perm k v t.ascending ((find?_eq_some_iff t k v).mp h)
  rw [hperm.countP_eq, List.countP_cons]
  rfl

theorem countP_insert [DecidableEq κ] {t : Table κ α} {k : κ} (h : t.find? k = none) (v : α)
    (p : κ × α → Bool) :
    (t.insert k v).entries.countP p = t.entries.countP p + (if p (k, v) then 1 else 0) := by
  have hfind : (t.insert k v).find? k = some v := by rw [find?_insert_of_eq, if_pos rfl]
  rw [← countP_erase hfind, erase_insert_self h]

/-- A key is put in and another one taken out in any order. -/
theorem erase_insert_of_ne [DecidableEq κ] (t : Table κ α) {k k' : κ} (v : α) (h : k ≠ k') :
    (t.insert k v).erase k' = (t.erase k').insert k v := by
  refine eq_of_find?_eq fun x => ?_
  simp only [find?_erase_of_eq, find?_insert_of_eq]
  by_cases hk : k = x
  · have hne : k' ≠ x := fun hk' => h (hk.trans hk'.symm)
    simp only [hk, hne, if_true, if_false]
  · simp only [hk, if_false]

theorem find?_foldl_insert [DecidableEq κ] {es : List (κ × α)} (h : (es.map (·.1)).Nodup)
    (t : Table κ α) (k : κ) (v : α) :
    (es.foldl (fun t e => t.insert e.1 e.2) t).find? k = some v ↔
      (k, v) ∈ es ∨ k ∉ es.map (·.1) ∧ t.find? k = some v := by
  induction es generalizing t with
  | nil => exact ⟨fun hfind => Or.inr ⟨List.not_mem_nil, hfind⟩,
      fun hor => (hor.resolve_left List.not_mem_nil).2⟩
  | cons e es ih =>
      rcases e with ⟨k', v'⟩
      rcases List.nodup_cons.mp h with ⟨hfresh, hrest⟩
      rw [List.foldl_cons, ih hrest, find?_insert_of_eq]
      by_cases hk : k' = k
      · subst hk
        -- The key does not come again, so its value is the one put in now.
        have hnone : ∀ w, (k', w) ∉ es := fun w hw =>
          hfresh (List.mem_map.mpr ⟨_, hw, rfl⟩)
        simp only [if_true, hnone, false_or, List.map_cons, List.mem_cons, hfresh,
          not_false_eq_true, not_true_eq_false, Option.some.injEq, Prod.mk.injEq, true_and,
          false_and, or_false]
        exact eq_comm
      · have hne : (k, v) ≠ (k', v') := fun heq => hk (Prod.mk.inj heq).1.symm
        simp only [if_neg hk, List.map_cons, List.mem_cons, hne, false_or, not_or]
        have hkey : k ≠ k' := fun heq => hk heq.symm
        simp only [hkey, not_false_eq_true, true_and]

/-- If no key comes twice, the table of a list has its entries. -/
theorem find?_ofList_iff [DecidableEq κ] {es : List (κ × α)} (h : (es.map (·.1)).Nodup) (k : κ)
    (v : α) : (ofList es).find? k = some v ↔ (k, v) ∈ es := by
  rw [ofList, find?_foldl_insert h]
  exact or_iff_left fun ⟨_, hempty⟩ => nomatch hempty

/-- A table is read back from its entries in any order. -/
theorem ofList_of_perm [DecidableEq κ] {es : List (κ × α)} {t : Table κ α}
    (h : es.Perm t.entries) : ofList es = t := by
  have hnodup : (es.map (·.1)).Nodup := (h.map (·.1)).nodup_iff.mpr t.nodup_keys
  refine eq_of_find?_eq fun k => Option.ext fun v => ?_
  rw [find?_ofList_iff hnodup, find?_eq_some_iff, h.mem_iff]

end Table

end Turnstile
