import Turnstile.Table

/-!
# Lookup in Tables

What each operation on tables does to lookup, which is all that can be told
about a table. Keys that compare as equal count as one key.

## Theorems

* `find?_empty`, `find?_insert`, `find?_erase`, `find?_alter`: Lookup after each
    operation.
* `find?_eq_some_iff`: Lookup finds exactly the entries.
* `eq_of_find?_eq`: Tables that answer every lookup alike are equal.
-/

namespace Turnstile

variable {κ α : Type} [Ord κ]

theorem findEntry_nil (k : κ) : findEntry k ([] : List (κ × α)) = none :=
  rfl

theorem findEntry_cons (k : κ) (e : κ × α) (rest : List (κ × α)) :
    findEntry k (e :: rest) = if compare e.1 k = .eq then some e.2 else findEntry k rest := by
  simp only [findEntry, List.find?_cons]
  cases h : compare e.1 k <;> rfl

@[simp] theorem Table.find?_empty (k : κ) : (Table.empty : Table κ α).find? k = none :=
  rfl

variable [Std.TransOrd κ]

/-- A key before all others is not found among them. -/
theorem findEntry_eq_none_of_lt {k : κ} {entries : List (κ × α)}
    (h : ∀ e ∈ entries, compare k e.1 = .lt) : findEntry k entries = none := by
  induction entries with
  | nil => rfl
  | cons e rest ih =>
      have hgt := Std.OrientedCmp.gt_iff_lt.mpr (h e List.mem_cons_self)
      rw [findEntry_cons, if_neg (by rw [hgt]; exact Ordering.noConfusion)]
      exact ih fun x hx => h x (List.mem_cons_of_mem _ hx)

theorem findEntry_insertEntry (k k' : κ) (v : α) (entries : List (κ × α)) :
    findEntry k' (insertEntry k v entries) =
      if compare k k' = .eq then some v else findEntry k' entries := by
  induction entries with
  | nil => rw [insertEntry, findEntry_cons]
  | cons e rest ih =>
      simp only [insertEntry]
      split
      next => rw [findEntry_cons]
      next heq =>
        rw [findEntry_cons, findEntry_cons]
        have hkey : compare k k' = compare e.1 k' := Std.TransCmp.congr_left heq
        by_cases h : compare k k' = .eq
        · rw [if_pos h, if_pos h]
        · rw [if_neg h, if_neg h, if_neg (hkey ▸ h)]
      next hgt =>
        rw [findEntry_cons, findEntry_cons, ih]
        by_cases h : compare k k' = .eq
        · have hne : compare e.1 k' ≠ .eq := by
            have hlt := Std.OrientedCmp.gt_iff_lt.mp hgt
            rw [← Std.TransCmp.congr_right h, hlt]
            exact Ordering.noConfusion
          rw [if_pos h, if_neg hne, if_pos h]
        · rw [if_neg h, if_neg h]

theorem findEntry_eraseKey (k k' : κ) (entries : List (κ × α)) :
    findEntry k' (eraseKey k entries) =
      if compare k k' = .eq then none else findEntry k' entries := by
  induction entries with
  | nil =>
      simp only [eraseKey, findEntry, List.filter_nil, List.find?_nil, Option.map_none, ite_self]
  | cons e rest ih =>
      have hrest : eraseKey k (e :: rest) =
          if compare e.1 k = .eq then eraseKey k rest else e :: eraseKey k rest := by
        simp only [eraseKey, List.filter_cons]
        cases h : compare e.1 k <;> rfl
      rw [hrest]
      by_cases he : compare e.1 k = .eq
      · rw [if_pos he, ih, findEntry_cons, Std.TransCmp.congr_left he]
        by_cases h : compare k k' = .eq
        · rw [if_pos h, if_pos h]
        · rw [if_neg h, if_neg h, if_neg h]
      · rw [if_neg he, findEntry_cons, findEntry_cons, ih]
        by_cases h : compare k k' = .eq
        · rw [if_pos h, if_pos h, if_neg (Std.TransCmp.congr_right h ▸ he)]
        · rw [if_neg h, if_neg h]

/-- In an ascending list lookup finds exactly the entries, up to equal keys. -/
theorem findEntry_eq_some_iff {k : κ} {v : α} {entries : List (κ × α)}
    (h : Ascending entries) :
    findEntry k entries = some v ↔ ∃ e ∈ entries, compare e.1 k = .eq ∧ e.2 = v := by
  induction entries with
  | nil => simp only [findEntry, List.find?_nil, Option.map_none, reduceCtorEq, List.not_mem_nil,
      false_and, exists_false]
  | cons e rest ih =>
      have hc := List.pairwise_cons.mp h
      rw [findEntry_cons]
      by_cases he : compare e.1 k = .eq
      · rw [if_pos he]
        constructor
        · intro hv
          exact ⟨e, List.mem_cons_self, he, Option.some.inj hv⟩
        · rintro ⟨x, hx, hk, rfl⟩
          rcases List.mem_cons.mp hx with rfl | hx
          · rfl
          · have hlt := hc.1 x hx
            rw [Std.TransCmp.congr_right hk, he] at hlt
            exact Ordering.noConfusion hlt
      · rw [if_neg he, ih hc.2]
        constructor
        · rintro ⟨x, hx, hk⟩
          exact ⟨x, List.mem_cons_of_mem _ hx, hk⟩
        · rintro ⟨x, hx, hk⟩
          rcases List.mem_cons.mp hx with rfl | hx
          · exact absurd hk.1 he
          · exact ⟨x, hx, hk⟩

/-- Ascending lists in which lookup answers alike are equal. -/
theorem eq_of_findEntry_eq [Std.LawfulEqOrd κ] {l m : List (κ × α)} (hl : Ascending l)
    (hm : Ascending m) (h : ∀ k, findEntry k l = findEntry k m) : l = m := by
  induction l generalizing m with
  | nil =>
      cases m with
      | nil => rfl
      | cons e rest =>
          have he := h e.1
          rw [findEntry_nil, findEntry_cons, if_pos Std.ReflCmp.compare_self] at he
          exact nomatch he
  | cons d rest ih =>
      have hd := List.pairwise_cons.mp hl
      cases m with
      | nil =>
          have he := h d.1
          rw [findEntry_nil, findEntry_cons, if_pos Std.ReflCmp.compare_self] at he
          exact nomatch he
      | cons e others =>
          have he := List.pairwise_cons.mp hm
          -- The least keys agree, since each of them is found in the other list.
          have hkey : compare d.1 e.1 = .eq := by
            cases hde : compare d.1 e.1 with
            | eq => rfl
            | lt =>
                have hnone : findEntry d.1 (e :: others) = none := by
                  refine findEntry_eq_none_of_lt fun x hx => ?_
                  rcases List.mem_cons.mp hx with rfl | hx
                  · exact hde
                  · exact Std.TransCmp.lt_trans hde (he.1 x hx)
                have hf := h d.1
                rw [findEntry_cons, if_pos Std.ReflCmp.compare_self, hnone] at hf
                exact nomatch hf
            | gt =>
                have hed := Std.OrientedCmp.gt_iff_lt.mp hde
                have hnone : findEntry e.1 (d :: rest) = none := by
                  refine findEntry_eq_none_of_lt fun x hx => ?_
                  rcases List.mem_cons.mp hx with rfl | hx
                  · exact hed
                  · exact Std.TransCmp.lt_trans hed (hd.1 x hx)
                have hf := h e.1
                rw [hnone, findEntry_cons, if_pos Std.ReflCmp.compare_self] at hf
                exact nomatch hf
          have hval : d.2 = e.2 := by
            have hf := h d.1
            rw [findEntry_cons, if_pos Std.ReflCmp.compare_self, findEntry_cons,
              if_pos (Std.OrientedCmp.eq_symm hkey)] at hf
            exact Option.some.inj hf
          have hhead : d = e := Prod.ext (Std.LawfulEqOrd.eq_of_compare hkey) hval
          subst hhead
          rw [ih hd.2 he.2 fun k => ?_]
          have hf := h k
          rw [findEntry_cons, findEntry_cons] at hf
          by_cases hk : compare d.1 k = .eq
          · have hfirst : ∀ l : List (κ × α), (∀ x ∈ l, compare d.1 x.1 = .lt) →
                findEntry k l = none := fun l hl =>
              findEntry_eq_none_of_lt fun x hx => by
                rw [← Std.TransCmp.congr_left hk]
                exact hl x hx
            rw [hfirst rest hd.1, hfirst others he.1]
          · rwa [if_neg hk, if_neg hk] at hf

namespace Table

theorem find?_insert (t : Table κ α) (k k' : κ) (v : α) :
    (t.insert k v).find? k' = if compare k k' = .eq then some v else t.find? k' :=
  findEntry_insertEntry k k' v t.entries

theorem find?_erase (t : Table κ α) (k k' : κ) :
    (t.erase k).find? k' = if compare k k' = .eq then none else t.find? k' :=
  findEntry_eraseKey k k' t.entries

theorem find?_alter (t : Table κ α) (k k' : κ) (f : Option α → Option α) :
    (t.alter k f).find? k' = if compare k k' = .eq then f (t.find? k) else t.find? k' := by
  unfold alter
  split
  next v hv => rw [find?_insert, hv]
  next hv => rw [find?_erase, hv]

/-- Lookup finds exactly the entries. -/
theorem find?_eq_some_iff [Std.LawfulEqOrd κ] (t : Table κ α) (k : κ) (v : α) :
    t.find? k = some v ↔ (k, v) ∈ t.entries := by
  refine (findEntry_eq_some_iff t.ascending).trans ⟨?_, fun h => ?_⟩
  · rintro ⟨e, he, hk, rfl⟩
    rw [← Std.LawfulEqOrd.eq_of_compare hk]
    exact he
  · exact ⟨(k, v), h, Std.ReflCmp.compare_self, rfl⟩

/-- Tables that answer every lookup alike are equal. -/
theorem eq_of_find?_eq [Std.LawfulEqOrd κ] {t u : Table κ α}
    (h : ∀ k, t.find? k = u.find? k) : t = u := by
  rcases t with ⟨l, hl⟩
  rcases u with ⟨m, hm⟩
  cases eq_of_findEntry_eq hl hm h
  rfl

end Table

end Turnstile
