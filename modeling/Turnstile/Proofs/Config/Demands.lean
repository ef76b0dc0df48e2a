import Turnstile.Config.Fault

/-!
# What the Check Demands

The check accepts a configuration if it meets every demand, and otherwise reports the first
one that it does not meet.

The demands are listed here in the order in which they count. Most of them are about one
setting. That a remedy has a name of its own is about those before it in the list: of two
remedies with one name the later is at fault, and a fault of the earlier one is reported before
that. The check carries the names that it has passed, so what has to be known of them
when a remedy is reached is that they are the names of the remedies before it.

A fault is never looked for behind the first, so `Demand.Reports` follows the list up to there,
and the check of each part of a configuration is proved against the demands on that part.
Demands on one part after those on another are reported by asking the one and then the other.

## Main definitions

* `Demand`: Something that is demanded, with the fault where it is not met.
* `Demand.Reports`: What is reported on demands that are looked at one after the other.
* `Config.demands`: The demands on a configuration in their order.
* `Config.Proper`: Configurations as they should be.

## Theorems

* `Demand.Reports.eq_none_iff`, `Demand.Reports.eq_some_iff`: Nothing is reported if all demands
  are met, and otherwise the fault of the first that is not.
* `Config.reports_demands`: The check reports on the demands.
* `Config.check_reports_first_fault`: It accepts what is as it should be, and reports the first
  fault of anything else.
-/

namespace Turnstile

/-- Something that is demanded, with the fault where it is not met. -/
structure Demand (φ : Type) where
  /-- What is demanded. -/
  Met : Prop
  /-- The fault where it is not met. -/
  fault : φ

namespace Demand

variable {φ ψ : Type}

/-- A demand on a part of something, where a fault of the part is a fault of the whole. -/
def within (whole : φ → ψ) (d : Demand φ) : Demand ψ := ⟨d.Met, whole d.fault⟩

/-- What is reported on demands that are looked at one after the other. -/
inductive Reports : List (Demand φ) → Option φ → Prop
  | none : Reports [] none
  | met {d : Demand φ} {ds : List (Demand φ)} {report : Option φ} :
      d.Met → Reports ds report → Reports (d :: ds) report
  | unmet {d : Demand φ} {ds : List (Demand φ)} : ¬ d.Met → Reports (d :: ds) (some d.fault)

namespace Reports

variable {d : Demand φ} {ds es : List (Demand φ)} {report later : Option φ}

/-- A test for a demand that is not met, before the tests for those after it. -/
theorem ite {p : Prop} [Decidable p] (hp : p ↔ ¬ d.Met) (h : Reports ds report) :
    Reports (d :: ds) (if p then some d.fault else report) := by
  by_cases hcase : p
  · rw [if_pos hcase]
    exact .unmet (hp.mp hcase)
  · rw [if_neg hcase]
    exact .met (Classical.not_not.mp fun hunmet => hcase (hp.mpr hunmet)) h

theorem append (h : Reports ds report) (hlater : Reports es later) :
    Reports (ds ++ es) (report.or later) := by
  induction h with
  | none => exact hlater
  | met hd _ ih => exact .met hd ih
  | unmet hd => exact .unmet hd

theorem within (whole : φ → ψ) (h : Reports ds report) :
    Reports (ds.map (·.within whole)) (report.map whole) := by
  induction h with
  | none => exact .none
  | met hd _ ih => exact .met hd ih
  | unmet hd => exact .unmet hd

theorem unique (h : Reports ds report) (hlater : Reports ds later) : report = later := by
  induction h with
  | none =>
      cases hlater
      rfl
  | met hd _ ih =>
      cases hlater with
      | met _ hrest => exact ih hrest
      | unmet hunmet => exact absurd hd hunmet
  | unmet hunmet =>
      cases hlater with
      | met hd _ => exact absurd hd hunmet
      | unmet _ => rfl

theorem of_first {before after : List (Demand φ)} (hbefore : ∀ e ∈ before, e.Met)
    (hd : ¬ d.Met) : Reports (before ++ d :: after) (some d.fault) := by
  induction before with
  | nil => exact .unmet hd
  | cons e before ih =>
      exact .met (hbefore e List.mem_cons_self)
        (ih fun e' he' => hbefore e' (List.mem_cons_of_mem _ he'))

/-- Nothing is reported if all demands are met, and only then. -/
theorem eq_none_iff (h : Reports ds report) : report = .none ↔ ∀ d ∈ ds, d.Met := by
  induction h with
  | none => simp only [List.not_mem_nil, false_implies, implies_true]
  | met hd _ ih => simp only [ih, List.forall_mem_cons, hd, true_and]
  | unmet hd => simp only [reduceCtorEq, List.forall_mem_cons, hd, false_and]

/-- What is reported is the fault of the first demand that is not met. -/
theorem eq_some_iff (h : Reports ds report) (f : φ) :
    report = some f ↔ ∃ before d after, ds = before ++ d :: after ∧ (∀ e ∈ before, e.Met) ∧
      ¬ d.Met ∧ d.fault = f := by
  constructor
  · intro hreport
    induction h with
    | none => exact nomatch hreport
    | @met e _ _ he _ ih =>
        rcases ih hreport with ⟨before, d, after, rfl, hbefore, hd⟩
        exact ⟨e :: before, d, after, rfl, List.forall_mem_cons.mpr ⟨he, hbefore⟩, hd⟩
    | @unmet d ds hd =>
        exact ⟨[], d, ds, rfl, fun _ he => absurd he List.not_mem_nil, hd, Option.some.inj hreport⟩
  · rintro ⟨before, d, after, rfl, hbefore, hd, rfl⟩
    exact h.unique (of_first hbefore hd)

end Reports

end Demand

/-! ### The demands in their order -/

/-- A text has a character that is not blank. -/
def Text.NotBlank (s : String) : Prop := ∃ c ∈ s.toList, isBlank c = false

/-- The demands on logging settings. -/
def Logging.demands (l : Logging) : List (Demand Config.Fault) := [
  ⟨Text.lower l.level ∈ ["trace", "debug", "info", "warn", "error"], .level l.level⟩,
  ⟨Text.lower l.format ∈ ["json", "pretty", "compact"], .format l.format⟩]

/-- The demands on a queue rule. -/
def QueueRule.demands (r : QueueRule) : List (Demand QueueRule.Fault) := [
  ⟨r.quota ≠ 0, .noQuota⟩,
  ⟨r.windowSeconds ≠ 0, .noWindow⟩,
  ⟨100 ≤ r.rejectStatus.toNat ∧ r.rejectStatus.toNat ≤ 599, .status r.rejectStatus⟩,
  ⟨∀ p ∈ r.prioritization, Text.NotBlank p.header, .noHeader⟩]

/-- The demands on a remedy, given those before it in the list. -/
def Remedy.demands (earlier : List Remedy) (r : Remedy) : List (Demand Config.Fault) :=
  [⟨Text.NotBlank r.name, .unnamedRemedy⟩,
    ⟨∀ s ∈ earlier, s.name ≠ r.name, .duplicateRemedy r.name⟩] ++
  r.rule.toList.flatMap fun rule => rule.demands.map (·.within (.badRule r.name))

namespace Config

/-- The demands on the ports. -/
def portDemands (c : Config) : List (Demand Fault) := [
  ⟨c.metrics.port ≠ 0, .noMetricsPort⟩,
  ⟨c.gatewayPort ≠ 0, .noGatewayPort⟩,
  ⟨c.metrics.enabled = true → c.metrics.port ≠ c.gatewayPort, .portClash c.gatewayPort⟩]

/-- The demands on remedies in a row. -/
def remedyDemands (remedies : List Remedy) : List (Demand Fault) :=
  remedies.zipIdx.flatMap fun (r, i) => r.demands (remedies.take i)

/-- The demands on a configuration. -/
def demands (c : Config) : List (Demand Fault) :=
  c.logging.demands ++ c.portDemands ++ remedyDemands c.remedies

end Config

/-! ### Configurations as they should be -/

/-- A queue rule as it should be. -/
structure QueueRule.Proper (r : QueueRule) : Prop where
  quota : r.quota ≠ 0
  window : r.windowSeconds ≠ 0
  status : 100 ≤ r.rejectStatus.toNat ∧ r.rejectStatus.toNat ≤ 599
  header : ∀ p ∈ r.prioritization, Text.NotBlank p.header

/-- A configuration as it should be. Remedies are held to it whether they are enabled or not. -/
structure Config.Proper (c : Config) : Prop where
  level : Text.lower c.logging.level ∈ ["trace", "debug", "info", "warn", "error"]
  format : Text.lower c.logging.format ∈ ["json", "pretty", "compact"]
  metricsPort : c.metrics.port ≠ 0
  gatewayPort : c.gatewayPort ≠ 0
  apart : c.metrics.enabled = true → c.metrics.port ≠ c.gatewayPort
  named : ∀ r ∈ c.remedies, Text.NotBlank r.name
  distinct : c.remedies.Pairwise fun r s => r.name ≠ s.name
  rules : ∀ r ∈ c.remedies, ∀ rule ∈ r.rule, rule.Proper

/-! ### The check of each part -/

theorem Text.allBlank_iff (s : String) : allBlank s = true ↔ ¬ NotBlank s := by
  simp only [allBlank, NotBlank, List.all_eq_true, not_exists, not_and, Bool.not_eq_false]

theorem Log.Level.ofName?_isNone_iff (s : String) :
    (ofName? s).isNone = true ↔ s ∉ ["trace", "debug", "info", "warn", "error"] := by
  rw [Option.isNone_iff_eq_none, ofName?, List.find?_eq_none]
  constructor
  · intro h hmem
    simp only [List.mem_cons, List.not_mem_nil, or_false] at hmem
    rcases hmem with rfl | rfl | rfl | rfl | rfl
    · exact h trace (by decide) rfl
    · exact h debug (by decide) rfl
    · exact h info (by decide) rfl
    · exact h warn (by decide) rfl
    · exact h error (by decide) rfl
  · intro h level _ hname
    rw [← beq_iff_eq.mp hname] at h
    cases level <;> exact h (by decide)

theorem Log.Format.ofName?_isNone_iff (s : String) :
    (ofName? s).isNone = true ↔ s ∉ ["json", "pretty", "compact"] := by
  rw [Option.isNone_iff_eq_none, ofName?, List.find?_eq_none]
  constructor
  · intro h hmem
    simp only [List.mem_cons, List.not_mem_nil, or_false] at hmem
    rcases hmem with rfl | rfl | rfl
    · exact h json (by decide) rfl
    · exact h pretty (by decide) rfl
    · exact h compact (by decide) rfl
  · intro h format _ hname
    rw [← beq_iff_eq.mp hname] at h
    cases format <;> exact h (by decide)

theorem Logging.reports_demands (l : Logging) : Demand.Reports l.demands l.fault? :=
  .ite (Log.Level.ofName?_isNone_iff _) (.ite (Log.Format.ofName?_isNone_iff _) .none)

theorem QueueRule.reports_demands (r : QueueRule) : Demand.Reports r.demands r.fault? := by
  have hstatus : r.rejectStatus < 100 ∨ 599 < r.rejectStatus ↔
      ¬ (100 ≤ r.rejectStatus.toNat ∧ r.rejectStatus.toNat ≤ 599) := by
    rw [UInt16.lt_iff_toNat_lt, UInt16.lt_iff_toNat_lt]
    simp only [UInt16.reduceToNat]
    omega
  have hheader : (r.prioritization.any fun p => Text.allBlank p.header) = true ↔
      ¬ ∀ p ∈ r.prioritization, Text.NotBlank p.header := by
    cases r.prioritization with
    | none => simp only [Option.any_none, Bool.false_eq_true, Option.not_mem_none, false_implies,
        implies_true, not_true_eq_false]
    | some p => simp only [Option.any_some, Text.allBlank_iff, Option.mem_some_iff, forall_eq']
  exact .ite Decidable.not_not.symm (.ite Decidable.not_not.symm
    (.ite hstatus (.ite hheader .none)))

/-- The check of a remedy reports on the demands on it, if the names that were passed are those of
    the remedies before it. -/
theorem Remedy.reports_demands (r : Remedy) {earlier : List Remedy} {passed : List String}
    (hpassed : ∀ name, name ∈ passed ↔ ∃ s ∈ earlier, s.name = name) :
    Demand.Reports (r.demands earlier) (r.fault? passed) := by
  have hduplicate : r.name ∈ passed ↔ ¬ ∀ s ∈ earlier, s.name ≠ r.name := by
    simp only [hpassed, ne_eq, Classical.not_forall, Classical.not_not, exists_prop]
  have hrule : Demand.Reports
      (r.rule.toList.flatMap fun rule => rule.demands.map (·.within (Config.Fault.badRule r.name)))
      ((r.rule.bind QueueRule.fault?).map (Config.Fault.badRule r.name)) := by
    cases r.rule with
    | none => exact .none
    | some rule =>
        rw [Option.toList_some, List.flatMap_singleton, Option.bind_some]
        exact rule.reports_demands.within _
  exact .ite (Text.allBlank_iff _) (.ite hduplicate hrule)

namespace Config

theorem reports_portDemands (c : Config) : Demand.Reports c.portDemands c.portFault? := by
  have hclash : (c.metrics.enabled ∧ c.metrics.port = c.gatewayPort) ↔
      ¬ (c.metrics.enabled = true → c.metrics.port ≠ c.gatewayPort) := by
    simp only [ne_eq, Classical.not_imp, Classical.not_not]
  exact .ite Decidable.not_not.symm (.ite Decidable.not_not.symm (.ite hclash .none))

/-- The check of the remaining remedies reports on the demands on them. -/
theorem reports_remedies {earlier rest : List Remedy} {passed : List String}
    (hpassed : ∀ name, name ∈ passed ↔ ∃ s ∈ earlier, s.name = name) :
    Demand.Reports
      ((rest.zipIdx earlier.length).flatMap fun (r, i) => r.demands ((earlier ++ rest).take i))
      (remedyFault? passed rest) := by
  -- Each remedy that is passed joins the earlier ones, so these are general in the induction.
  induction rest generalizing earlier passed with
  | nil => exact .none
  | cons r rest ih =>
      have hnext : ∀ name, name ∈ r.name :: passed ↔ ∃ s ∈ earlier ++ [r], s.name = name := by
        intro name
        simp only [List.mem_cons, hpassed, List.mem_append, List.not_mem_nil, or_false,
          or_and_right, exists_or, exists_eq_left]
        rw [or_comm, eq_comm]
      have hrest := ih hnext
      rw [List.length_append, List.append_assoc] at hrest
      rw [List.zipIdx_cons, List.flatMap_cons, remedyFault?]
      refine Demand.Reports.append ?_ hrest
      have hbefore : (earlier ++ r :: rest).take earlier.length = earlier := List.take_left
      simp only [hbefore]
      exact r.reports_demands hpassed

/-- The check of a configuration reports on the demands on it. -/
theorem reports_demands (c : Config) : Demand.Reports c.demands c.fault? := by
  have hnobody : ∀ name, name ∈ ([] : List String) ↔ ∃ s ∈ ([] : List Remedy), s.name = name := by
    simp only [List.not_mem_nil, false_and, exists_false, implies_true]
  exact (c.logging.reports_demands.append c.reports_portDemands).append (reports_remedies hnobody)

/-! ### What meets all demands -/

end Config

theorem QueueRule.proper_iff (r : QueueRule) : r.Proper ↔ ∀ d ∈ r.demands, d.Met := by
  simp only [demands, List.forall_mem_cons, List.not_mem_nil, false_implies, implies_true, and_true]
  exact ⟨fun h => ⟨h.quota, h.window, h.status, h.header⟩,
    fun ⟨hquota, hwindow, hstatus, hheader⟩ => ⟨hquota, hwindow, hstatus, hheader⟩⟩

theorem Remedy.demands_met_iff (earlier : List Remedy) (r : Remedy) :
    (∀ d ∈ r.demands earlier, d.Met) ↔
      Text.NotBlank r.name ∧ (∀ s ∈ earlier, s.name ≠ r.name) ∧ ∀ rule ∈ r.rule, rule.Proper := by
  simp only [demands, List.cons_append, List.nil_append, List.forall_mem_cons, List.mem_flatMap,
    List.mem_map, Option.mem_toList, QueueRule.proper_iff]
  refine and_congr_right fun _ => and_congr_right fun _ => ⟨fun h rule hrule d hd => ?_, ?_⟩
  · exact h _ ⟨rule, hrule, d, hd, rfl⟩
  · rintro h _ ⟨rule, hrule, d, hd, rfl⟩
    exact h rule hrule d hd

namespace Config

/-- The demands on remedies in a row say of each two that their names differ, by saying it of the
    later one. -/
theorem remedies_met_iff (remedies : List Remedy) :
    (∀ d ∈ remedyDemands remedies, d.Met) ↔
      (∀ r ∈ remedies, Text.NotBlank r.name) ∧
      (remedies.Pairwise fun r s => r.name ≠ s.name) ∧
      ∀ r ∈ remedies, ∀ rule ∈ r.rule, rule.Proper := by
  have hplaces : (∀ d ∈ remedyDemands remedies, d.Met) ↔
      ∀ (r : Remedy) (i : Nat), remedies[i]? = some r →
        ∀ d ∈ r.demands (remedies.take i), d.Met := by
    simp only [remedyDemands, List.mem_flatMap, Prod.exists, List.mk_mem_zipIdx_iff_getElem?]
    exact ⟨fun h r i hi d hd => h d ⟨r, i, hi, hd⟩, fun h d ⟨r, i, hi, hd⟩ => h r i hi d hd⟩
  simp only [hplaces, Remedy.demands_met_iff]
  constructor
  · intro h
    refine ⟨fun r hr => ?_, List.pairwise_iff_getElem.mpr fun i j hi hj hlt => ?_, fun r hr => ?_⟩
    · rcases List.getElem?_of_mem hr with ⟨i, hi⟩
      exact (h r i hi).1
    · exact (h _ j (List.getElem?_eq_getElem hj)).2.1 _
        (List.mem_take_iff_getElem.mpr ⟨i, by omega, rfl⟩)
    · rcases List.getElem?_of_mem hr with ⟨i, hi⟩
      exact (h r i hi).2.2
  · rintro ⟨hnamed, hdistinct, hrules⟩ r j hj
    have hr := List.mem_of_getElem? hj
    rcases List.getElem?_eq_some_iff.mp hj with ⟨hlt, rfl⟩
    refine ⟨hnamed _ hr, fun s hs => ?_, hrules _ hr⟩
    rcases List.mem_take_iff_getElem.mp hs with ⟨i, hi, rfl⟩
    exact List.pairwise_iff_getElem.mp hdistinct i j (by omega) hlt (by omega)

theorem proper_iff (c : Config) : c.Proper ↔ ∀ d ∈ c.demands, d.Met := by
  simp only [demands, Logging.demands, portDemands, List.forall_mem_append, remedies_met_iff,
    List.forall_mem_cons, List.not_mem_nil, false_implies, implies_true, and_true]
  constructor
  · intro h
    exact ⟨⟨⟨h.level, h.format⟩, h.metricsPort, h.gatewayPort, h.apart⟩, h.named, h.distinct,
      h.rules⟩
  · rintro ⟨⟨⟨hlevel, hformat⟩, hmetrics, hgateway, hapart⟩, hnamed, hdistinct, hrules⟩
    exact ⟨hlevel, hformat, hmetrics, hgateway, hapart, hnamed, hdistinct, hrules⟩

/-- **The check accepts what is as it should be, and reports the first fault of anything else.**
    A configuration passes exactly if it is proper, and that is to say that it meets all demands.
    A fault is reported exactly if it is that of the first demand, in their order, that is not
    met. -/
theorem check_reports_first_fault (c : Config) :
    (c.check = .ok c ↔ c.Proper) ∧
    (c.Proper ↔ ∀ d ∈ c.demands, d.Met) ∧
    ∀ f, c.check = .error f ↔ ∃ before d after, c.demands = before ++ d :: after ∧
      (∀ e ∈ before, e.Met) ∧ ¬ d.Met ∧ d.fault = f := by
  have hreports := c.reports_demands
  have hrefused : ∀ f, c.check = .error f ↔ c.fault? = some f := by
    intro f
    unfold check
    cases c.fault? <;> simp only [Except.error.injEq, Option.some.injEq, reduceCtorEq]
  refine ⟨?_, c.proper_iff, fun f => (hrefused f).trans (hreports.eq_some_iff f)⟩
  rw [check_eq_ok_iff, and_iff_left rfl, hreports.eq_none_iff, proper_iff]

/-- Capitals do not matter in a level or a format, and an accent does. -/
example : fault? { logging := { level := "INFO", format := "Json" } } = none ∧
    fault? { logging := { level := "INFÓ" } } = some (.level "INFÓ") := by
  decide +kernel

/-- The first remedy has a bad rule, and the second one its name: the rule comes first. -/
example : fault? {
      remedies := [
        { name := "ward", rule := some { quota := 3, windowSeconds := 0, ttlSeconds := 30 } },
        { name := "ward", enabled := false }] } = some (.badRule "ward" .noWindow) := by
  decide +kernel

end Config

end Turnstile
