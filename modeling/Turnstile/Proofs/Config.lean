import Mathlib.Data.List.Nodup
import Turnstile.Config.Fault

/-!
# Faultless Configurations

What the absence of a fault says in the terms of those who use a configuration.

Its logging settings name a level and a format. A name of a level is never a number, so
reading the level as a name, as the check does, or as a number first, as the log does, comes
to the same.

No two remedies have one name, whether enabled or not. So the first enabled remedy of a name
is the only one, an enabled remedy is the one that is found under its name, and nothing is
found under the name of a disabled one.

## Theorems

* `Logging.named_of_fault?`: The settings name a level and a format.
* `QueueRule.bounds_of_fault?`: The bounds that a rule is within.
* `remedy?_of_mem`: An enabled remedy is found under its name.
* `lookup_of_getElem?`: What is found under the name of any remedy, and where.
-/

namespace Turnstile

namespace Log

/-- No name of a level is a number. -/
theorem Level.ofText?_of_ofName? {s : String} {level : Level} (h : Level.ofName? s = some level) :
    Level.ofText? s = some level ∧ level.name = s := by
  have hfound := List.find?_some h
  have hname : level.name = s := beq_iff_eq.mp hfound
  have hwords : Text.signedNatural? s.toList = none := by
    rw [← hname]
    cases level <;> decide
  refine ⟨?_, hname⟩
  rw [ofText?, hwords]
  exact h

theorem Format.parse_of_ofName? {s : String} {format : Format}
    (h : Format.ofName? (Text.lower s) = some format) :
    Format.parse s = .ok format ∧ format.name = Text.lower s := by
  have hfound := List.find?_some h
  refine ⟨?_, beq_iff_eq.mp hfound⟩
  simp only [parse, h]

end Log

/-- Settings without fault name a level and a format. -/
theorem Logging.named_of_fault? {l : Logging} (h : l.fault? = none) :
    ∃ level format, Log.Level.ofName? (Text.lower l.level) = some level ∧
      Log.Format.ofName? (Text.lower l.format) = some format := by
  unfold fault? at h
  split at h
  next => exact nomatch h
  next hlevel =>
    split at h
    next => exact nomatch h
    next hformat =>
      rw [Option.isNone_iff_eq_none] at hlevel hformat
      rcases Option.ne_none_iff_exists'.mp hlevel with ⟨level, hlevel⟩
      rcases Option.ne_none_iff_exists'.mp hformat with ⟨format, hformat⟩
      exact ⟨level, format, hlevel, hformat⟩

/-- The bounds that a rule without fault is within. -/
theorem QueueRule.bounds_of_fault? {r : QueueRule} (h : r.fault? = none) :
    0 < r.quota.toNat ∧ 0 < r.windowSeconds.toNat ∧ 100 ≤ r.rejectStatus.toNat ∧
      r.rejectStatus.toNat ≤ 599 := by
  unfold fault? at h
  split at h
  next => exact nomatch h
  next hquota =>
    split at h
    next => exact nomatch h
    next hwindow =>
      split at h
      next => exact nomatch h
      next hstatus =>
        rw [not_or, UInt16.not_lt, UInt16.not_lt] at hstatus
        refine ⟨Nat.pos_of_ne_zero fun heq => hquota (UInt32.toNat_inj.mp heq),
          Nat.pos_of_ne_zero fun heq => hwindow (UInt64.toNat_inj.mp heq), hstatus.1, hstatus.2⟩

/-- Windows of at least a second are measured in microseconds as they are, up to the longest
    count there is. -/
theorem QueueRule.windowMicros_policy {r : QueueRule} (h : 0 < r.windowSeconds.toNat) :
    nanosPerSecond ≤ r.policy.window.nanos ∧
      r.policy.windowMicros = min word64Max ((r.policy.window.nanos / 1000 : Nat) : Int) := by
  have hnanos : r.policy.window.nanos = r.windowSeconds.toNat * nanosPerSecond := rfl
  have hlong : nanosPerSecond ≤ r.policy.window.nanos := by
    rw [hnanos]
    exact Nat.le_mul_of_pos_left _ h
  refine ⟨hlong, ?_⟩
  unfold Policy.windowMicros
  simp only [nanosPerSecond, word64Max] at hlong ⊢
  omega

namespace Config

variable {earlier : List String} {remedies : List Remedy} {r s : Remedy}

/-- A remedy without fault has a name that no earlier one has. -/
theorem not_mem_of_fault? (h : r.fault? earlier = none) : r.name ∉ earlier := by
  intro hmem
  rw [Remedy.fault?] at h
  by_cases hblank : Text.allBlank r.name = true
  · rw [if_pos hblank] at h
    exact nomatch h
  · rw [if_neg hblank, if_pos hmem] at h
    exact nomatch h

/-- The names of remedies without fault are new, and they are different ones. -/
theorem names_of_remedyFault? (h : remedyFault? earlier remedies = none) :
    (∀ r ∈ remedies, r.name ∉ earlier) ∧ remedies.Pairwise fun r s => r.name ≠ s.name := by
  induction remedies generalizing earlier with
  | nil => exact ⟨fun _ hr => absurd hr List.not_mem_nil, List.Pairwise.nil⟩
  | cons r rest ih =>
      rw [remedyFault?, Option.or_eq_none_iff] at h
      -- What comes later differs from the names before this one and from its own.
      rcases ih h.2 with ⟨hnew, hdistinct⟩
      constructor
      · intro s hs
        rcases List.mem_cons.mp hs with rfl | hrest
        · exact not_mem_of_fault? h.1
        · exact fun hmem => hnew s hrest (List.mem_cons_of_mem _ hmem)
      · refine List.pairwise_cons.mpr ⟨fun s hs heq => hnew s hs ?_, hdistinct⟩
        rw [← heq]
        exact List.mem_cons_self

/-- The rule of a remedy without fault has none. -/
theorem rule_of_remedyFault? (h : remedyFault? earlier remedies = none) (hr : r ∈ remedies)
    {rule : QueueRule} (hrule : r.rule = some rule) : rule.fault? = none := by
  induction remedies generalizing earlier with
  | nil => exact absurd hr List.not_mem_nil
  | cons s rest ih =>
      rw [remedyFault?, Option.or_eq_none_iff] at h
      rcases List.mem_cons.mp hr with rfl | hrest
      · have hfault := h.1
        unfold Remedy.fault? at hfault
        split at hfault
        next => exact nomatch hfault
        next =>
          split at hfault
          next => exact nomatch hfault
          next =>
            rw [Option.map_eq_none_iff, hrule] at hfault
            exact hfault
      · exact ih h.2 hrest

/-- Of remedies with different names an enabled one is the first of its name. -/
theorem find?_of_mem (h : remedies.Pairwise fun r s => r.name ≠ s.name) (hr : r ∈ remedies)
    (henabled : r.enabled = true) :
    remedies.find? (fun s => s.enabled && s.name == r.name) = some r := by
  induction remedies with
  | nil => exact absurd hr List.not_mem_nil
  | cons s rest ih =>
      have hc := List.pairwise_cons.mp h
      rcases List.mem_cons.mp hr with rfl | hrest
      · exact List.find?_cons_of_pos (by rw [henabled, beq_self_eq_true, Bool.and_self])
      · rw [List.find?_cons_of_neg]
        · exact ih hc.2 hrest
        · rw [Bool.and_eq_true, beq_iff_eq]
          exact fun hboth => hc.1 r hrest hboth.2

/-- An enabled remedy of a configuration without fault is found under its name. -/
theorem remedy?_of_mem {c : Config} (h : c.fault? = none) (hr : r ∈ c.remedies)
    (henabled : r.enabled = true) : c.remedy? r.name = some r := by
  rw [fault?, Option.or_eq_none_iff] at h
  exact find?_of_mem (names_of_remedyFault? h.2).2 hr henabled

/-- Of remedies with different names only one has the name of one of them. -/
theorem eq_of_name_eq (h : remedies.Pairwise fun r s => r.name ≠ s.name) (hs : s ∈ remedies)
    (hr : r ∈ remedies) (hname : s.name = r.name) : s = r := by
  have hnodup : (remedies.map (·.name)).Nodup := List.pairwise_map.mpr h
  exact List.inj_on_of_nodup_map hnodup hs hr hname

/-- Of remedies with different names a disabled one is not found, and nor is another one in its
    place. -/
theorem not_found_of_disabled (h : remedies.Pairwise fun r s => r.name ≠ s.name)
    (hr : r ∈ remedies) (hdisabled : r.enabled = false) (hs : s ∈ remedies) :
    (s.enabled && s.name == r.name) = false := by
  refine Bool.eq_false_iff.mpr fun hboth => ?_
  rw [Bool.and_eq_true, beq_iff_eq] at hboth
  have heq := eq_of_name_eq h hs hr hboth.2
  exact Bool.false_ne_true (hdisabled.symm.trans (heq ▸ hboth.1))

/-- Of remedies with different names each one is found where it stands if it is enabled, and
    not found if it is not. -/
theorem findIdx?_of_getElem? (h : remedies.Pairwise fun r s => r.name ≠ s.name) {i : Nat}
    (hi : remedies[i]? = some r) :
    remedies.findIdx? (fun s => s.enabled && s.name == r.name) =
      if r.enabled then some i else none := by
  by_cases henabled : r.enabled = true
  · rcases List.getElem?_eq_some_iff.mp hi with ⟨hlt, rfl⟩
    rw [if_pos henabled]
    refine List.findIdx?_eq_some_iff_getElem.mpr ⟨hlt, ?_, fun j hj hboth => ?_⟩
    · rw [henabled, beq_self_eq_true, Bool.and_self]
    · rw [Bool.and_eq_true, beq_iff_eq] at hboth
      exact List.pairwise_iff_getElem.mp h j i (Nat.lt_trans hj hlt) hlt hj hboth.2
  · rw [if_neg henabled]
    exact List.findIdx?_eq_none_iff.mpr fun s hs =>
      not_found_of_disabled h (List.mem_of_getElem? hi) (Bool.eq_false_iff.mpr henabled) hs

/-- The position of a remedy of a configuration without fault is found under its name if it is
    enabled, and so is the remedy. -/
theorem lookup_of_getElem? {c : Config} (h : c.fault? = none) {i : Nat}
    (hi : c.remedies[i]? = some r) :
    c.remedy? r.name = (if r.enabled then some r else none) ∧
      c.position? r.name = if r.enabled then some i else none := by
  have hr := List.mem_of_getElem? hi
  have hnames : c.remedies.Pairwise fun r s => r.name ≠ s.name := by
    rw [fault?, Option.or_eq_none_iff] at h
    exact (names_of_remedyFault? h.2).2
  refine ⟨?_, findIdx?_of_getElem? hnames hi⟩
  by_cases henabled : r.enabled = true
  · rw [if_pos henabled]
    exact find?_of_mem hnames hr henabled
  · rw [if_neg henabled]
    exact List.find?_eq_none.mpr fun s hs => Bool.eq_false_iff.mp
      (not_found_of_disabled hnames hr (Bool.eq_false_iff.mpr henabled) hs)

/-- What is found under a name has it. -/
theorem name_of_remedy? {c : Config} {name : String} (h : c.remedy? name = some r) :
    r.name = name := by
  have hfound := List.find?_some h
  rw [Bool.and_eq_true, beq_iff_eq] at hfound
  exact hfound.2

end Config

end Turnstile
