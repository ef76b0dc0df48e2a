import Turnstile.Cli.Run
import Turnstile.Proofs.Table
import Turnstile.Proofs.Text.Digits

/-!
# What the Environment Decides

A configuration that was loaded passes the check, and the check is made behind the overrides and
not in front of them. So whoever checks it again finds nothing, and a file that the environment has
mended counts as good.

The environment decides five settings and no more. For each of them it is asked by one variable,
and the answer is taken if it makes sense: any text for the level and the format, one of two words
for the switch, a number that is a port for the ports. `Environment.Decides` says this without
reading a text, by what texts say; a port is said by its decimal form, and leading zeros and a plus
sign in front do not matter. No text says the port zero, so a variable with a zero is in the
same place as one with a word or none at all.

A variable is not looked at in any other way. Taking it out of the environment therefore changes
nothing if it says nothing, not even what is reported on a configuration that fails the check.

## Main definitions

* `Config.SaysSwitch`, `Config.SaysPort`: What texts say.
* `Environment.Decides`: A setting is what a variable says, or stays as it was.
* `Config.Overridden`: A configuration comes from another one by what the environment decides.
* `Config.Source.Holds`: What the place of the file holds.
* `Lodge`: An environment with a sensible and a senseless port, for examples.

## Theorems

* `Config.port?_eq_some_iff`, `Config.switch?_eq_some_iff`: Texts are read as what they say.
* `Config.overridden_iff`: Overriding does what the environment decides.
* `Config.load_eq_ok_iff`: What is loaded passes the check, and whatever passes it is loaded.
* `Config.loaded_as_decided`: The environment decides five settings of a loaded configuration,
  which is good for any later check.
-/

namespace Turnstile

/-- A setting is what a variable says, and stays as it was if the variable says nothing. -/
structure Environment.Decides {α : Type} (env : Environment) (name : String)
    (Says : String → α → Prop) (before after : α) : Prop where
  said : ∀ s a, env.find? name = some s → Says s a → after = a
  unsaid : (∀ s a, env.find? name = some s → ¬ Says s a) → after = before

/-- Reading a text decides a setting if it reads what the text says. -/
theorem Environment.decides_iff {α : Type} {Says : String → α → Prop} {read? : String → Option α}
    (hread : ∀ s a, read? s = some a ↔ Says s a) (env : Environment) (name : String)
    (before after : α) :
    env.Decides name Says before after ↔ after = ((env.find? name).bind read?).getD before := by
  cases hbind : (env.find? name).bind read? with
  | some a =>
      rcases Option.bind_eq_some_iff.mp hbind with ⟨s, hset, hs⟩
      refine ⟨fun h => h.said s a hset ((hread s a).mp hs), fun h => ⟨?_, fun hno => ?_⟩⟩
      · intro s' a' hset' hsays
        cases hset.symm.trans hset'
        exact h.trans (Option.some.inj (hs.symm.trans ((hread s a').mpr hsays)))
      · exact absurd ((hread s a).mp hs) (hno s a hset)
  | none =>
      have hno : ∀ s a, env.find? name = some s → ¬ Says s a := by
        intro s a hset hsays
        rw [hset, Option.bind_some, (hread s a).mpr hsays] at hbind
        exact nomatch hbind
      exact ⟨fun h => h.unsaid hno, fun h => ⟨fun s a hset hsays => absurd hsays (hno s a hset),
        fun _ => h⟩⟩

namespace Config

/-! ### What texts say -/

/-- A text says a switch. -/
def SaysSwitch (s : String) (on : Bool) : Prop :=
  s = if on then "true" else "false"

/-- A text says a port, which is not zero: the number in decimal, with leading zeros or without,
    alone or behind a plus sign. -/
def SaysPort (s : String) (port : UInt16) : Prop :=
  port ≠ 0 ∧ ∃ width, s.toList = Text.pad width port.toNat ∨
    s.toList = '+' :: Text.pad width port.toNat

theorem switch?_eq_some_iff (s : String) (on : Bool) : switch? s = some on ↔ SaysSwitch s on := by
  unfold switch? SaysSwitch
  by_cases htrue : s = "true"
  · subst htrue
    cases on <;> decide
  · by_cases hfalse : s = "false"
    · subst hfalse
      cases on <;> decide
    · rw [if_neg htrue, if_neg hfalse]
      cases on <;> simp only [htrue, hfalse, reduceCtorEq, if_true, Bool.false_eq_true, if_false]

theorem port?_eq_some_iff (s : String) (port : UInt16) : port? s = some port ↔ SaysPort s port := by
  unfold SaysPort
  rw [← Text.signedNatural?_eq_some_iff, port?]
  constructor
  · intro h
    split at h
    next n hread =>
      split at h
      next hbounds =>
        cases h
        have hnat : (UInt16.ofNat n).toNat = n := UInt16.toNat_ofNat_of_lt' hbounds.2
        refine ⟨fun hzero => ?_, hread.trans (congrArg some hnat.symm)⟩
        rw [hzero, UInt16.toNat_zero] at hnat
        omega
      next => exact nomatch h
    next => exact nomatch h
  · rintro ⟨hne, hread⟩
    have hpos : 0 < port.toNat := Nat.pos_of_ne_zero fun hzero => hne (UInt16.toNat_inj.mp hzero)
    simp only [hread]
    rw [if_pos ⟨hpos, port.toNat_lt⟩, UInt16.ofNat_toNat]

/-! ### Overriding -/

/-- A configuration comes from another one by what the environment decides. -/
structure Overridden (env : Environment) (file loaded : Config) : Prop where
  level : env.Decides levelVariable (· = ·) file.logging.level loaded.logging.level
  format : env.Decides formatVariable (· = ·) file.logging.format loaded.logging.format
  enabled : env.Decides metricsVariable SaysSwitch file.metrics.enabled loaded.metrics.enabled
  metricsPort : env.Decides metricsPortVariable SaysPort file.metrics.port loaded.metrics.port
  gatewayPort : env.Decides gatewayPortVariable SaysPort file.gatewayPort loaded.gatewayPort
  remedies : loaded.remedies = file.remedies

theorem overridden_iff (env : Environment) (file c : Config) :
    Overridden env file c ↔ c = file.override env := by
  have htext : ∀ s a : String, some s = some a ↔ s = a := fun _ _ => by rw [Option.some.injEq]
  have hlevel := env.decides_iff htext levelVariable file.logging.level
  have hformat := env.decides_iff htext formatVariable file.logging.format
  have henabled := env.decides_iff switch?_eq_some_iff metricsVariable file.metrics.enabled
  have hmetrics := env.decides_iff port?_eq_some_iff metricsPortVariable file.metrics.port
  have hgateway := env.decides_iff port?_eq_some_iff gatewayPortVariable file.gatewayPort
  rw [Option.bind_fun_some] at hlevel hformat
  constructor
  · rcases c with ⟨⟨level, format⟩, ⟨enabled, metricsPort⟩, gatewayPort, remedies⟩
    intro h
    cases (hlevel _).mp h.level
    cases (hformat _).mp h.format
    cases (henabled _).mp h.enabled
    cases (hmetrics _).mp h.metricsPort
    cases (hgateway _).mp h.gatewayPort
    cases h.remedies
    rfl
  · rintro rfl
    exact ⟨(hlevel _).mpr rfl, (hformat _).mpr rfl, (henabled _).mpr rfl, (hmetrics _).mpr rfl,
      (hgateway _).mpr rfl, rfl⟩

/-- A reading of a variable is not changed by taking out another one, nor by taking it out if
    nothing was read. -/
theorem bind_erase {α : Type} {read? : String → Option α} {env : Environment} {name other : String}
    (hsilent : name = other → (env.find? other).bind read? = none) :
    (Table.find? (env.erase name) other).bind read? = (env.find? other).bind read? := by
  rw [Table.find?_erase_of_eq]
  by_cases hname : name = other
  · rw [if_pos hname, hsilent hname, Option.bind_none]
  · rw [if_neg hname]

/-- Taking a variable out changes no override if it is not the one for the level or for the format
    and nothing is read from it. -/
theorem override_erase {env : Environment} {name : String} (hlevel : name ≠ levelVariable)
    (hformat : name ≠ formatVariable)
    (hswitch : name = metricsVariable → (env.find? metricsVariable).bind switch? = none)
    (hport : ∀ other ∈ [metricsPortVariable, gatewayPortVariable], name = other →
      (env.find? other).bind port? = none) (c : Config) :
    c.override (env.erase name) = c.override env := by
  have hothers : ∀ other, name ≠ other → Table.find? (env.erase name) other = env.find? other := by
    intro other hne
    rw [Table.find?_erase_of_eq, if_neg hne]
  have hports := fun other hother => bind_erase (hport other hother)
  simp only [override, hothers _ hlevel, hothers _ hformat, bind_erase hswitch,
    hports metricsPortVariable (by decide), hports gatewayPortVariable (by decide)]

/-! ### Loading -/

/-- What the place of the file holds: nothing stands for the defaults, and a text for the
    configuration that it says. -/
def Source.Holds : Source → Config → Prop
  | .absent, c => c = {}
  | .unreadable, _ => False
  | .text content, c => parse? content = some c

theorem read_eq_ok_iff (source : Source) (c : Config) : read source = .ok c ↔ source.Holds c := by
  cases source with
  | absent => exact ⟨fun h => (Except.ok.inj h).symm, fun h => congrArg Except.ok (Eq.symm h)⟩
  | unreadable => exact ⟨nofun, nofun⟩
  | text content =>
      cases hparse : parse? content <;>
        simp only [read, Source.Holds, hparse, Except.ok.injEq, Option.some.injEq, reduceCtorEq]

theorem load_eq (source : Source) (env : Environment) :
    load source env = match read source with
      | .error e => .error e
      | .ok file => match (file.override env).check with
        | .ok c => .ok c
        | .error fault => .error (.invalid fault) := by
  unfold load
  cases read source <;> rfl

/-- What is loaded passes the check, and whatever passes it behind the overrides is loaded. -/
theorem load_eq_ok_iff (source : Source) (env : Environment) (c : Config) :
    load source env = .ok c ↔
      c.check = .ok c ∧ ∃ file, source.Holds file ∧ Overridden env file c := by
  simp only [load_eq, ← read_eq_ok_iff, overridden_iff, check_eq_ok_iff, and_true]
  cases hread : read source with
  | error e => simp only [reduceCtorEq, false_and, exists_false, and_false]
  | ok file =>
      simp only [Except.ok.injEq, exists_eq_left']
      cases hcheck : (file.override env).check with
      | error fault =>
          simp only [reduceCtorEq, false_iff, not_and]
          rintro hnone rfl
          have hpass := (check_eq_ok_iff _ _).mpr ⟨hnone, rfl⟩
          exact nomatch hcheck.symm.trans hpass
      | ok d =>
          rcases (check_eq_ok_iff _ _).mp hcheck with ⟨hnone, rfl⟩
          simp only [Except.ok.injEq]
          constructor
          · rintro rfl
            exact ⟨hnone, rfl⟩
          · exact fun h => h.2.symm

theorem load_erase {env : Environment} {name : String}
    (h : ∀ c, override (env.erase name) c = c.override env) (source : Source) :
    load source (env.erase name) = load source env := by
  simp only [load_eq, h]

/-- **The environment decides five settings of a loaded configuration, which is good for any later
    check.** A configuration is loaded exactly if it passes the check and comes by what the
    environment decides from the one that the file holds; showing it then does not fail. A
    variable for the switch or for a port that says nothing is as good as one that is not
    set. Nothing is overridden a second time. -/
theorem loaded_as_decided (source : Source) (env : Environment) :
    (∀ c, load source env = .ok c ↔
      c.check = .ok c ∧ ∃ file, source.Holds file ∧ Overridden env file c) ∧
    (∀ c, load source env = .ok c →
      Cli.checkConfig c = .ok (Json.pretty (Cli.configSummary c) ++ "\n")) ∧
    (∀ s, env.find? metricsVariable = some s → (∀ on, ¬ SaysSwitch s on) →
      load source (env.erase metricsVariable) = load source env) ∧
    (∀ name ∈ [metricsPortVariable, gatewayPortVariable], ∀ s, env.find? name = some s →
      (∀ port, ¬ SaysPort s port) → load source (env.erase name) = load source env) ∧
    ∀ c : Config, (c.override env).override env = c.override env := by
  refine ⟨load_eq_ok_iff source env, fun c hload => ?_, fun s hset hno => ?_,
    fun name hname s hset hno => ?_, override_override env⟩
  · rw [Cli.checkConfig, ((load_eq_ok_iff source env c).mp hload).1]
  · have hsilent : (env.find? metricsVariable).bind switch? = none := by
      rw [hset, Option.bind_some, Option.eq_none_iff_forall_ne_some]
      exact fun on hread => hno on ((switch?_eq_some_iff s on).mp hread)
    have hnoport :
        ∀ other ∈ [metricsPortVariable, gatewayPortVariable], metricsVariable ≠ other := by decide
    exact load_erase (override_erase (by decide) (by decide) (fun _ => hsilent)
      fun other hother heq => absurd heq (hnoport other hother)) source
  · have hsilent : (env.find? name).bind port? = none := by
      rw [hset, Option.bind_some, Option.eq_none_iff_forall_ne_some]
      exact fun port hread => hno port ((port?_eq_some_iff s port).mp hread)
    have hport : ∀ name ∈ [metricsPortVariable, gatewayPortVariable],
        name ≠ levelVariable ∧ name ≠ formatVariable ∧ name ≠ metricsVariable := by
      decide
    rcases hport name hname with ⟨hlevel, hformat, hswitch⟩
    exact load_erase (override_erase hlevel hformat (fun heq => absurd heq hswitch)
      fun _ _ heq => heq ▸ hsilent) source

namespace Lodge

/-- A loud log, a switch and a port that make no sense, and a port with a sign and a zero. -/
def environment : Environment := Table.ofList [
  (levelVariable, "DEBUG"),
  (metricsVariable, "yes"),
  (metricsPortVariable, "0"),
  (gatewayPortVariable, "+08041")]

/-- The defaults with what the environment decides. -/
def config : Config where
  logging := { level := "DEBUG" }
  gatewayPort := 8041

/-- A text of one remedy, with a port for the gateway that the metrics listener has already. -/
def content : String :=
  "[server]\nport = 9090\n\n" ++
  "[[remedies]]\nname = \"ward\"\n\n" ++
  "[remedies.strategy_based_queue]\n" ++
  "allowed_request_count = 3\nwindow_size_in_seconds = 60\nttl_seconds = 30\n"

/-- What the text says. -/
def filed : Config where
  gatewayPort := 9090
  remedies := [
    { name := "ward", rule := some { quota := 3, windowSeconds := 60, ttlSeconds := 30 } }]

/-- What the text says, with what the environment decides. -/
def mended : Config := { config with remedies := filed.remedies }

end Lodge

/-- Without a file the defaults are loaded, but for what makes sense in the environment, and what
    does not may as well be taken out. A file whose ports clash is loaded too, as the environment
    has another port for the gateway; its remedy is loaded as it is. -/
theorem loaded_as_decided_in_lodge :
    load .absent Lodge.environment = .ok Lodge.config ∧
    Lodge.config.check = .ok Lodge.config ∧
    Cli.checkConfig Lodge.config = .ok (Json.pretty (Cli.configSummary Lodge.config) ++ "\n") ∧
    load .absent (Lodge.environment.erase metricsVariable) = load .absent Lodge.environment ∧
    load .absent (Lodge.environment.erase metricsPortVariable) =
      load .absent Lodge.environment ∧
    parse? Lodge.content = some Lodge.filed ∧
    Lodge.filed.fault? = some (.portClash 9090) ∧
    load (.text Lodge.content) Lodge.environment = .ok Lodge.mended := by
  rcases loaded_as_decided .absent Lodge.environment with ⟨hload, hshow, hswitch, hport, -⟩
  rcases loaded_as_decided (.text Lodge.content) Lodge.environment with ⟨hfile, -⟩
  have hcheck : Lodge.config.check = .ok Lodge.config :=
    (check_eq_ok_iff _ _).mpr ⟨by decide +kernel, rfl⟩
  have hdecided : Overridden Lodge.environment {} Lodge.config :=
    (overridden_iff _ _ _).mpr (by decide +kernel)
  have hloaded := (hload Lodge.config).mpr ⟨hcheck, {}, rfl, hdecided⟩
  have hyes : ∀ on, ¬ SaysSwitch "yes" on := fun on hsays => by
    have hread := (switch?_eq_some_iff _ _).mpr hsays
    exact nomatch hread
  have hzero : ∀ port, ¬ SaysPort "0" port := fun port hsays => by
    have hread := (port?_eq_some_iff _ _).mpr hsays
    exact nomatch hread
  have hparse : parse? Lodge.content = some Lodge.filed := by decide +kernel
  have hmended : Lodge.mended.check = .ok Lodge.mended :=
    (check_eq_ok_iff _ _).mpr ⟨by decide +kernel, rfl⟩
  have hover : Overridden Lodge.environment Lodge.filed Lodge.mended :=
    (overridden_iff _ _ _).mpr (by decide +kernel)
  exact ⟨hloaded, hcheck, hshow _ hloaded, hswitch "yes" (by decide +kernel) hyes,
    hport metricsPortVariable (by decide) "0" (by decide +kernel) hzero, hparse,
    by decide +kernel, (hfile _).mpr ⟨hmended, _, hparse, hover⟩⟩

end Config

end Turnstile
