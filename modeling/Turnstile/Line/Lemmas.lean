import Turnstile.Line
import Turnstile.Table.Lemmas

/-!
# Waiting Lines as Lists

What each operation does to the list of entries in the order of service. This
list tells all about a line except which ticket comes next.

## Theorems

* `toList_empty`, `toList_join`, `toList_clear`: The list after each operation.
* `next?_eq_none_iff`, `toList_of_next?`: Serving takes the head of the list.
* `toList_leave`: Leaving takes out one entry.
* `contains_iff`: Who waits is in the list.
-/

namespace Turnstile

namespace Line

variable {α : Type}

@[simp] theorem toList_empty : (empty : Line α).toList = [] :=
  rfl

@[simp] theorem toList_clear (l : Line α) : l.clear.toList = [] :=
  rfl

theorem toList_join (l : Line α) (priority : Priority) (arrived : Instant) (value : α) :
    (l.join priority arrived value).1.toList =
      insertEntry (l.join priority arrived value).2 value l.toList :=
  rfl

theorem size_eq (l : Line α) : l.size = l.toList.length :=
  rfl

theorem isEmpty_iff (l : Line α) : l.isEmpty = true ↔ l.toList = [] :=
  List.isEmpty_iff

/-- Nobody is served if nobody waits. -/
theorem next?_eq_none_iff (l : Line α) : l.next? = none ↔ l.toList = [] := by
  simp only [next?, Table.head?, Option.map_eq_none_iff, List.head?_eq_none_iff, toList]

/-- Serving takes the head of the list. -/
theorem toList_of_next? {l m : Line α} {place : Place} {value : α}
    (h : l.next? = some (place, value, m)) : l.toList = (place, value) :: m.toList := by
  simp only [next?, Option.map_eq_some_iff] at h
  rcases h with ⟨⟨p, v⟩, hhead, heq⟩
  cases heq
  exact List.head?_eq_some_iff.mp hhead |>.elim fun rest hrest => by
    have htail : l.entries.tail.entries = rest := by
      simp only [Table.tail, hrest, List.tail_cons]
    simp only [toList, hrest, htail]

/-- Who waits at a place is in the list. -/
theorem contains_iff (l : Line α) (p : Place) :
    l.contains p = true ↔ ∃ value, (p, value) ∈ l.toList := by
  simp only [contains, Table.contains, Option.isSome_iff_exists, Table.find?_eq_some_iff, toList]

/-- Leaving takes out the entry at the place, if it still waits. -/
theorem toList_leave (l : Line α) (p : Place) : (l.leave p).toList = eraseKey p l.toList := by
  unfold leave
  split
  next => rfl
  next h =>
    refine (List.filter_eq_self.mpr fun e he => ?_).symm
    rw [bne_iff_ne]
    intro hkey
    have hp : e.1 = p := Std.LawfulEqOrd.eq_of_compare hkey
    exact h ((contains_iff l p).mpr ⟨e.2, hp ▸ he⟩)

end Line

end Turnstile
