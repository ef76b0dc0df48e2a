import Mathlib.Data.List.Nodup
import Turnstile.Metrics
import Turnstile.Proofs.Table

/-!
# Counting Decisions

What the counter shows after some decisions were counted one after the other.

A sample is found by the fingerprint of its labels, and the fingerprint does not tell where one
label ends and the next begins: the remedy `a` with priority 11 and the remedy `a1` with
priority 1 have one sample between them, which shows the labels of whichever was decided first
and the number of both. So what is counted under a fingerprint is told by all decisions that
have it. A sample is exact as long as no other decision has its fingerprint, and this is
all that can be said.

## Main definitions

* `Decision`: What is counted of an answer.
* `Outcomes.count`, `Outcomes.tally`: The counter after one decision, and after some.

## Theorems

* `Family.mem_samples_iff`: The samples that are listed are those that are found.
* `find?_tally`: The sample of a fingerprint after counting.
* `mem_samples_tally_iff`: A sample is exact if no other decision has its fingerprint.
-/

namespace Turnstile

namespace Family

variable {label : Type} [Ord label] [Std.TransOrd label] [Std.LawfulEqOrd label]
  [DecidableEq label] {f : Family label} {mark : label → UInt64}

/-- The samples that are listed are those that are found, if each is kept under a fingerprint
    of its labels. -/
theorem mem_samples_iff (hmark : ∀ e ∈ f.entries, mark e.2.label = e.1) (l : label) (n : Nat) :
    (l, n) ∈ f.samples ↔ f.find? (mark l) = some ⟨l, n⟩ := by
  -- Labels differ where their fingerprints do, and these are keys.
  have hnodup : ((f.entries.map fun e => (e.2.label, e.2.value)).map (·.1)).Nodup := by
    rw [List.map_map]
    refine List.Nodup.of_map mark ?_
    rw [List.map_map, List.map_congr_left (g := (·.1)) hmark]
    exact Table.nodup_keys _
  rw [samples, ← Table.find?_eq_some_iff, Table.find?_ofList_iff hnodup,
    Table.find?_eq_some_iff, List.mem_map]
  constructor
  · rintro ⟨⟨k, s⟩, he, heq⟩
    cases heq
    rw [hmark _ he]
    exact he
  · intro he
    exact ⟨_, he, rfl⟩

end Family

/-- What is counted of an answer. -/
structure Decision where
  /-- The remedy that was asked for. -/
  remedy : String
  /-- The priority of the request. -/
  priority : Priority
  /-- Whether the request was let through. -/
  admitted : Bool
deriving DecidableEq

namespace Decision

/-- The labels that a decision is counted under. -/
def label (x : Decision) : OutcomeLabel where
  priority := toString x.priority.toInt
  remedy := x.remedy
  ttlPassed := !x.admitted

/-- The fingerprint of these labels. -/
def fingerprint (x : Decision) : UInt64 := x.label.fingerprint

end Decision

/-- The counter after one more decision. -/
def Outcomes.count (o : Outcomes) (x : Decision) : Outcomes :=
  o.record x.remedy x.priority x.admitted

/-- The counter after some more decisions. -/
def Outcomes.tally (o : Outcomes) (xs : List Decision) : Outcomes :=
  xs.foldl Outcomes.count o

namespace Outcomes

variable {o : Outcomes} {xs : List Decision} {x : Decision}

theorem tally_append (o : Outcomes) (xs ys : List Decision) :
    o.tally (xs ++ ys) = (o.tally xs).tally ys :=
  List.foldl_append

theorem find?_count (o : Outcomes) (x : Decision) (f : UInt64) :
    (o.count x).find? f =
      if x.fingerprint = f then
        some (match o.find? x.fingerprint with
          | some s => { s with value := s.value + 1 }
          | none => ⟨x.label, 1⟩)
      else o.find? f := by
  have hcount : o.count x = Family.update o x.fingerprint x.label (· + 1) := rfl
  rw [hcount, Family.update, Table.find?_alter_of_eq]
  cases o.find? x.fingerprint <;> rfl

theorem find?_tally_of (o : Outcomes) (xs : List Decision) (f : UInt64) :
    (o.tally xs).find? f =
      match o.find? f with
      | some s => some { s with value := s.value + xs.countP fun x => x.fingerprint = f }
      | none => (xs.find? fun x => x.fingerprint = f).map fun x =>
          ⟨x.label, xs.countP fun x => x.fingerprint = f⟩ := by
  induction xs generalizing o with
  | nil => cases hfind : o.find? f <;> exact hfind
  | cons x xs ih =>
      rw [tally, List.foldl_cons, ← tally, ih, find?_count, List.countP_cons, List.find?_cons]
      by_cases hx : x.fingerprint = f
      · -- The sample is made by this decision, or it is there and grows by one.
        subst hx
        simp only [if_true, decide_true]
        cases o.find? x.fingerprint with
        | none => simp only [Option.map_some, Nat.add_comm]
        | some s => simp only [Nat.add_assoc, Nat.add_comm]
      · simp only [hx, if_false, decide_false, Bool.false_eq_true, Nat.add_zero]

/-- The sample of a fingerprint shows the labels of the first decision that has it, and counts
    all that have it. -/
theorem find?_tally (xs : List Decision) (f : UInt64) :
    (tally Table.empty xs).find? f =
      (xs.find? fun x => x.fingerprint = f).map fun x =>
        ⟨x.label, xs.countP fun x => x.fingerprint = f⟩ :=
  find?_tally_of Table.empty xs f

theorem label_fingerprint {f : UInt64} {s : Sample OutcomeLabel}
    (h : (tally Table.empty xs).find? f = some s) : s.label.fingerprint = f := by
  rw [find?_tally] at h
  rcases Option.map_eq_some_iff.mp h with ⟨x, hx, rfl⟩
  have hfound := List.find?_some hx
  exact of_decide_eq_true hfound

theorem mem_samples (l : OutcomeLabel) (n : Nat) :
    (l, n) ∈ (tally Table.empty xs).samples ↔
      (tally Table.empty xs).find? l.fingerprint = some ⟨l, n⟩ :=
  Family.mem_samples_iff (fun e he =>
    label_fingerprint ((Table.find?_eq_some_iff _ e.1 e.2).mpr he)) l n

/-- A sample is exact if no other decision has its fingerprint. -/
theorem mem_samples_tally_iff (hown : ∀ y ∈ xs, y.fingerprint = x.fingerprint → y = x) (n : Nat) :
    (x.label, n) ∈ (tally Table.empty xs).samples ↔ 0 < n ∧ n = xs.count x := by
  have hcount : xs.countP (fun y => y.fingerprint = x.fingerprint) = xs.count x := by
    refine List.countP_congr fun y hy => ?_
    rw [decide_eq_true_iff, beq_iff_eq]
    exact ⟨hown y hy, fun heq => heq ▸ rfl⟩
  rw [mem_samples]
  change (tally Table.empty xs).find? x.fingerprint = _ ↔ _
  rw [find?_tally, hcount]
  cases hfind : xs.find? fun y => y.fingerprint = x.fingerprint with
  | none =>
      have hnot : xs.count x = 0 := by
        rw [← hcount, List.countP_eq_zero]
        exact List.find?_eq_none.mp hfind
      rw [hnot]
      exact iff_of_false (fun h => nomatch h) fun ⟨hpos, heq⟩ => absurd heq (Nat.ne_of_gt hpos)
  | some y =>
      have hmem := List.mem_of_find?_eq_some hfind
      have hfound := List.find?_some hfind
      have hy : y = x := hown y hmem (of_decide_eq_true hfound)
      have hpos : 0 < xs.count x := List.count_pos_iff.mpr (hy ▸ hmem)
      rw [hy, Option.map_some, Option.some.injEq, Sample.mk.injEq]
      exact ⟨fun ⟨_, heq⟩ => ⟨heq ▸ hpos, heq.symm⟩, fun ⟨_, heq⟩ => ⟨rfl, heq.symm⟩⟩

end Outcomes

end Turnstile
