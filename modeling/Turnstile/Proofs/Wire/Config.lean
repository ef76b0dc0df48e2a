import Turnstile.Config.Fault
import Turnstile.Proofs.Data.Record
import Turnstile.Wire.Config

/-!
# Configurations Round-Trip

A configuration is read back from what it is written as, and from every shorter way of
writing it. Defaults are said twice: where the settings are declared and where they are read,
and at four levels of nesting. If the two differed anywhere, leaving a member out would change
a limit or switch a remedy off, and nothing would complain.

So the fields of each record are listed here with the defaults of its declaration, and reading
is proved against that list, one record at a time from the innermost out. `Value.Writes` then
covers what may be left out or added at any depth: a default may be left out within a record
that is itself one of many in a list.

Groups are the exception. They are a table and not a record: every member of it is a group,
and so none may be left out or added.

## Main definitions

* `Config.fields`: The fields of a configuration.
* `Logging.fields`, `MetricsListener.fields`, `Config.portFields`, `Remedy.fields`,
  `QueueRule.fields`, `Prioritization.fields`: Those of its parts.

## Theorems

* `Config.writes_toValue`: Configurations are written with all their members.
* `Config.ofValue?_of_writes`: A configuration is read from each way of writing it.
* `Config.read_as_written`: So nothing is lost by writing and reading, whatever is left out.
-/

namespace Turnstile

/-! ### Groups -/

/-- The field of the header that names the group. -/
def Prioritization.headerFields (header : String) : List Field := [
  { name := "header_name", Holds := (· = .text header) }]

/-- The field of the priority of a group. -/
def Prioritization.groupFields (n : Priority) : List Field := [
  { name := "priority", Holds := (· = .int n.toInt) }]

/-- The fields of a grouping. -/
def Prioritization.fields (p : Prioritization) : List Field := [
  -- A default is the one of the declaration, so that the reader's own is compared with it.
  { name := "group_by", Holds := (·.Writes (headerFields p.header)) },
  { name := "groups", Holds := (·.WritesTable groupFields p.groups)
    Spare := p.groups = ({ header := p.header } : Prioritization).groups }]

/-- The fields of a queue rule. -/
def QueueRule.fields (r : QueueRule) : List Field :=
  let default : QueueRule :=
    { quota := r.quota, windowSeconds := r.windowSeconds, ttlSeconds := r.ttlSeconds }
  [ { name := "allowed_request_count", Holds := (· = .nat r.quota.toNat) },
    { name := "window_size_in_seconds", Holds := (· = .nat r.windowSeconds.toNat) },
    { name := "ttl_seconds", Holds := (· = .nat r.ttlSeconds.toNat) },
    { name := "response_status_code", Holds := (· = .nat r.rejectStatus.toNat)
      Spare := r.rejectStatus = default.rejectStatus },
    { name := "prioritization", Holds := (·.WritesOption Prioritization.fields r.prioritization)
      Spare := r.prioritization = default.prioritization }]

/-- The fields of a remedy. -/
def Remedy.fields (r : Remedy) : List Field := [
  { name := "name", Holds := (· = .text r.name) },
  { name := "enabled", Holds := (· = .bool r.enabled)
    Spare := r.enabled = ({ name := r.name } : Remedy).enabled },
  { name := "strategy_based_queue", Holds := (·.WritesOption QueueRule.fields r.rule)
    Spare := r.rule = ({ name := r.name } : Remedy).rule }]

/-- The fields of logging settings. -/
def Logging.fields (l : Logging) : List Field := [
  { name := "level", Holds := (· = .text l.level), Spare := l.level = ({} : Logging).level },
  { name := "format", Holds := (· = .text l.format), Spare := l.format = ({} : Logging).format }]

/-- The fields of the listener for metrics. -/
def MetricsListener.fields (m : MetricsListener) : List Field := [
  { name := "enabled", Holds := (· = .bool m.enabled)
    Spare := m.enabled = ({} : MetricsListener).enabled },
  { name := "port", Holds := (· = .nat m.port.toNat)
    Spare := m.port = ({} : MetricsListener).port }]

/-- The field of the gateway's listener. -/
def Config.portFields (port : UInt16) : List Field := [
  { name := "port", Holds := (· = .nat port.toNat), Spare := port = ({} : Config).gatewayPort }]

/-- The fields of a configuration. -/
def Config.fields (c : Config) : List Field := [
  { name := "logging", Holds := (·.Writes c.logging.fields)
    Spare := c.logging = ({} : Config).logging },
  { name := "metrics", Holds := (·.Writes c.metrics.fields)
    Spare := c.metrics = ({} : Config).metrics },
  { name := "server", Holds := (·.Writes (portFields c.gatewayPort))
    Spare := c.gatewayPort = ({} : Config).gatewayPort },
  { name := "remedies", Holds := (·.WritesList Remedy.fields c.remedies)
    Spare := c.remedies = ({} : Config).remedies }]

/-! ### Written in full -/

namespace Value

variable {α : Type} {fieldsOf : α → List Field} {write : α → Value}

theorem writesOption_ofOption (h : ∀ a, (write a).Writes (fieldsOf a)) (o : Option α) :
    (ofOption write o).WritesOption fieldsOf o := by
  cases o with
  | none => rfl
  | some a => exact h a

theorem writesList_map (h : ∀ a, (write a).Writes (fieldsOf a)) (l : List α) :
    (Value.list (l.map write)).WritesList fieldsOf l :=
  ⟨_, rfl, List.forall₂_map_left_iff.mpr (List.forall₂_same.mpr fun a _ => h a)⟩

theorem writesTable_ofTable (h : ∀ a, (write a).Writes (fieldsOf a)) (t : Table String α) :
    (ofTable id write t).WritesTable fieldsOf t :=
  ⟨_, _, rfl, List.Perm.refl _,
    List.forall₂_map_left_iff.mpr (List.forall₂_same.mpr fun e _ => ⟨rfl, h e.2⟩)⟩

/-- Members that are written in the order of the fields stand for them. -/
theorem writes_object {fields : List Field} {members : List (String × Value)}
    (h : Abridges (fields.map (·.name)) fields members) : (object members).Writes fields :=
  ⟨members, members, rfl, List.Perm.refl _, h⟩

end Value

theorem Prioritization.writes_toValue (p : Prioritization) : p.toValue.Writes p.fields := by
  have hheader : (Value.object [("header_name", .text p.header)]).Writes (headerFields p.header) :=
    Value.writes_object (.keep rfl .nil)
  have hgroup : ∀ n : Priority,
      (Value.object [("priority", .int n.toInt)]).Writes (groupFields n) := fun n =>
    Value.writes_object (.keep rfl .nil)
  exact Value.writes_object
    (.keep hheader (.keep (Value.writesTable_ofTable hgroup p.groups) .nil))

theorem QueueRule.writes_toValue (r : QueueRule) : r.toValue.Writes r.fields := by
  have hgrouping := Value.writesOption_ofOption Prioritization.writes_toValue r.prioritization
  exact Value.writes_object
    (.keep rfl (.keep rfl (.keep rfl (.keep rfl (.keep hgrouping .nil)))))

theorem Remedy.writes_toValue (r : Remedy) : r.toValue.Writes r.fields := by
  have hrule := Value.writesOption_ofOption QueueRule.writes_toValue r.rule
  exact Value.writes_object (.keep rfl (.keep rfl (.keep hrule .nil)))

theorem Logging.writes_toValue (l : Logging) : l.toValue.Writes l.fields :=
  Value.writes_object (.keep rfl (.keep rfl .nil))

theorem MetricsListener.writes_toValue (m : MetricsListener) : m.toValue.Writes m.fields :=
  Value.writes_object (.keep rfl (.keep rfl .nil))

theorem Config.writes_toValue (c : Config) : c.toValue.Writes c.fields := by
  have hport : (Value.object [("port", .nat c.gatewayPort.toNat)]).Writes
      (portFields c.gatewayPort) := Value.writes_object (.keep rfl .nil)
  have hremedies := Value.writesList_map Remedy.writes_toValue c.remedies
  exact Value.writes_object (.keep c.logging.writes_toValue
    (.keep c.metrics.writes_toValue (.keep hport (.keep hremedies .nil))))

/-! ### Read from each way of writing -/

variable {form : Form} {v : Value}

theorem Prioritization.headerOfValue?_of_writes {header : String}
    (h : v.Writes (headerFields header)) : headerOfValue? form v = some header := by
  have hname : ((headerFields header).map (·.name)).Nodup := show ["header_name"].Nodup by decide
  have hheader : v.required? 0 "header_name" (·.text?) = some header :=
    Value.required?_of_writes h hname (rfl : (headerFields header)[0]? = some _)
      not_false fun _ hw => hw ▸ rfl
  simp only [headerOfValue?, Value.isRecord_of_writes h, hheader]
  rfl

theorem Prioritization.groupOfValue?_of_writes {n : Priority} (h : v.Writes (groupFields n)) :
    groupOfValue? form v = some n := by
  have hname : ((groupFields n).map (·.name)).Nodup := show ["priority"].Nodup by decide
  have hpriority : v.required? 0 "priority" (·.int32?) = some n :=
    Value.required?_of_writes h hname (rfl : (groupFields n)[0]? = some _)
      not_false fun _ hw => hw ▸ Value.int32?_int n
  simp only [groupOfValue?, Value.isRecord_of_writes h, hpriority]
  rfl

theorem Prioritization.ofValue?_of_writes {p : Prioritization} (h : v.Writes p.fields) :
    Prioritization.ofValue? form v = some p := by
  have hnames : (p.fields.map (·.name)).Nodup := show ["group_by", "groups"].Nodup by decide
  have hheader : v.required? 0 "group_by" (headerOfValue? form) = some p.header :=
    Value.required?_of_writes h hnames (rfl : p.fields[0]? = some _) not_false
      fun _ hw => headerOfValue?_of_writes hw
  have hgroups : v.optional? 1 "groups" Table.empty (·.table? some (groupOfValue? form)) =
      some p.groups :=
    Value.optional?_of_writes h hnames (rfl : p.fields[1]? = some _) Eq.symm
      fun _ hw => Value.table?_of_writes hw fun _ _ => groupOfValue?_of_writes
  simp only [ofValue?, Value.isRecord_of_writes h, hheader, hgroups]
  rfl

theorem QueueRule.ofValue?_of_writes {r : QueueRule} (h : v.Writes r.fields) :
    QueueRule.ofValue? form v = some r := by
  have hnames : (r.fields.map (·.name)).Nodup :=
    show ["allowed_request_count", "window_size_in_seconds", "ttl_seconds",
      "response_status_code", "prioritization"].Nodup by decide
  have hquota : v.required? 0 "allowed_request_count" (·.uint32?) = some r.quota :=
    Value.required?_of_writes h hnames (rfl : r.fields[0]? = some _) not_false
      fun _ hw => hw ▸ Value.uint32?_nat r.quota
  have hwindow : v.required? 1 "window_size_in_seconds" (·.uint64?) = some r.windowSeconds :=
    Value.required?_of_writes h hnames (rfl : r.fields[1]? = some _) not_false
      fun _ hw => hw ▸ Value.uint64?_nat r.windowSeconds
  have httl : v.required? 2 "ttl_seconds" (·.uint64?) = some r.ttlSeconds :=
    Value.required?_of_writes h hnames (rfl : r.fields[2]? = some _) not_false
      fun _ hw => hw ▸ Value.uint64?_nat r.ttlSeconds
  have hstatus : v.optional? 3 "response_status_code" 429 (·.uint16?) = some r.rejectStatus :=
    Value.optional?_of_writes h hnames (rfl : r.fields[3]? = some _) Eq.symm
      fun _ hw => hw ▸ Value.uint16?_nat r.rejectStatus
  have hgrouping : v.optional? 4 "prioritization" none
      (Value.nullable? (Prioritization.ofValue? form)) = some r.prioritization :=
    Value.optional?_of_writes h hnames (rfl : r.fields[4]? = some _) Eq.symm
      fun _ hw => Value.nullable?_of_writes hw fun _ _ => Prioritization.ofValue?_of_writes
  simp only [ofValue?, Value.isRecord_of_writes h, hquota, hwindow, httl, hstatus, hgrouping]
  rfl

theorem Remedy.ofValue?_of_writes {r : Remedy} (h : v.Writes r.fields) :
    Remedy.ofValue? form v = some r := by
  have hnames : (r.fields.map (·.name)).Nodup :=
    show ["name", "enabled", "strategy_based_queue"].Nodup by decide
  have hname : v.required? 0 "name" (·.text?) = some r.name :=
    Value.required?_of_writes h hnames (rfl : r.fields[0]? = some _) not_false
      fun _ hw => hw ▸ rfl
  have henabled : v.optional? 1 "enabled" true (·.bool?) = some r.enabled :=
    Value.optional?_of_writes h hnames (rfl : r.fields[1]? = some _) Eq.symm fun _ hw => hw ▸ rfl
  have hrule : v.optional? 2 "strategy_based_queue" none
      (Value.nullable? (QueueRule.ofValue? form)) = some r.rule :=
    Value.optional?_of_writes h hnames (rfl : r.fields[2]? = some _) Eq.symm
      fun _ hw => Value.nullable?_of_writes hw fun _ _ => QueueRule.ofValue?_of_writes
  simp only [ofValue?, Value.isRecord_of_writes h, hname, henabled, hrule]
  rfl

theorem Logging.ofValue?_of_writes {l : Logging} (h : v.Writes l.fields) :
    Logging.ofValue? form v = some l := by
  have hnames : (l.fields.map (·.name)).Nodup := show ["level", "format"].Nodup by decide
  have hlevel : v.optional? 0 "level" "info" (·.text?) = some l.level :=
    Value.optional?_of_writes h hnames (rfl : l.fields[0]? = some _) Eq.symm fun _ hw => hw ▸ rfl
  have hformat : v.optional? 1 "format" "compact" (·.text?) = some l.format :=
    Value.optional?_of_writes h hnames (rfl : l.fields[1]? = some _) Eq.symm fun _ hw => hw ▸ rfl
  simp only [ofValue?, Value.isRecord_of_writes h, hlevel, hformat]
  rfl

theorem MetricsListener.ofValue?_of_writes {m : MetricsListener} (h : v.Writes m.fields) :
    MetricsListener.ofValue? form v = some m := by
  have hnames : (m.fields.map (·.name)).Nodup := show ["enabled", "port"].Nodup by decide
  have henabled : v.optional? 0 "enabled" true (·.bool?) = some m.enabled :=
    Value.optional?_of_writes h hnames (rfl : m.fields[0]? = some _) Eq.symm fun _ hw => hw ▸ rfl
  have hport : v.optional? 1 "port" 9090 (·.uint16?) = some m.port :=
    Value.optional?_of_writes h hnames (rfl : m.fields[1]? = some _) Eq.symm
      fun _ hw => hw ▸ Value.uint16?_nat m.port
  simp only [ofValue?, Value.isRecord_of_writes h, henabled, hport]
  rfl

namespace Config

theorem portOfValue?_of_writes {port : UInt16} (h : v.Writes (portFields port)) :
    portOfValue? form v = some port := by
  have hname : ((portFields port).map (·.name)).Nodup := show ["port"].Nodup by decide
  have hport : v.optional? 0 "port" 8040 (·.uint16?) = some port :=
    Value.optional?_of_writes h hname (rfl : (portFields port)[0]? = some _)
      Eq.symm fun _ hw => hw ▸ Value.uint16?_nat port
  simp only [portOfValue?, Value.isRecord_of_writes h, hport]
  rfl

theorem ofValue?_of_writes {c : Config} (h : v.Writes c.fields) : ofValue? form v = some c := by
  have hnames : (c.fields.map (·.name)).Nodup :=
    show ["logging", "metrics", "server", "remedies"].Nodup by decide
  have hlogging : v.optional? 0 "logging" {} (Logging.ofValue? form) = some c.logging :=
    Value.optional?_of_writes h hnames (rfl : c.fields[0]? = some _) Eq.symm
      fun _ => Logging.ofValue?_of_writes
  have hmetrics : v.optional? 1 "metrics" {} (MetricsListener.ofValue? form) = some c.metrics :=
    Value.optional?_of_writes h hnames (rfl : c.fields[1]? = some _) Eq.symm
      fun _ => MetricsListener.ofValue?_of_writes
  have hport : v.optional? 2 "server" 8040 (portOfValue? form) = some c.gatewayPort :=
    Value.optional?_of_writes h hnames (rfl : c.fields[2]? = some _) Eq.symm
      fun _ => portOfValue?_of_writes
  have hremedies : v.optional? 3 "remedies" [] (·.list? (Remedy.ofValue? form)) =
      some c.remedies :=
    Value.optional?_of_writes h hnames (rfl : c.fields[3]? = some _) Eq.symm
      fun _ hw => Value.list?_of_writes hw fun _ _ => Remedy.ofValue?_of_writes
  simp only [ofValue?, Value.isRecord_of_writes h, hlogging, hmetrics, hport, hremedies]
  rfl

/-- Nothing is lost by writing and reading: a configuration is read from its full form and from
    each shorter one, in either format. So reading, writing and reading again is reading once,
    and a check has the same answer. -/
theorem read_as_written :
    (∀ (c : Config) (form : Form),
      c.toValue.Writes c.fields ∧ ofValue? form c.toValue = some c) ∧
    (∀ (c : Config) (form : Form) (v : Value), v.Writes c.fields → ofValue? form v = some c) ∧
    (∀ (form form' : Form) (v : Value) (c : Config), ofValue? form v = some c →
      ofValue? form' c.toValue = ofValue? form v ∧
      (ofValue? form' c.toValue).map check = (ofValue? form v).map check) := by
  have hfull : ∀ (c : Config) (form : Form), ofValue? form c.toValue = some c := fun c _ =>
    ofValue?_of_writes c.writes_toValue
  refine ⟨fun c form => ⟨c.writes_toValue, hfull c form⟩, fun _ _ _ => ofValue?_of_writes,
    fun form form' v c hread => ?_⟩
  have hagain : ofValue? form' c.toValue = ofValue? form v := (hfull c form').trans hread.symm
  exact ⟨hagain, congrArg (Option.map check) hagain⟩

/-- A configuration that leaves most settings at their defaults. -/
def ward : Config where
  remedies := [
    { name := "ward"
      rule := some {
        quota := 3
        windowSeconds := 60
        ttlSeconds := 30
        prioritization := some {
          header := "x-tier"
          groups := Table.ofList [("gold", 2), ("iron", 5)] } } },
    { name := "annex", enabled := false }]

/-- The queue rule of the ward, without its status and with its members out of order. -/
def wardRuleInShort : Value :=
  .object [
    ("ttl_seconds", .nat 30),
    ("allowed_request_count", .nat 3),
    ("window_size_in_seconds", .nat 60),
    ("prioritization", .object [
      ("group_by", .object [("header_name", .text "x-tier")]),
      ("groups", .object [
        ("iron", .object [("priority", .int 5), ("since", .nat 1987)]),
        ("gold", .object [("priority", .int 2)])])])]

/-- The ward without what has a default, and with a remark. -/
def wardInShort : Value :=
  .object [
    ("remark", .text "for the night"),
    ("remedies", .list [
      .object [("name", .text "ward"), ("strategy_based_queue", wardRuleInShort)],
      .object [("name", .text "annex"), ("enabled", .bool false)]])]

theorem wardInShort_writes : wardInShort.Writes ward.fields := by
  have hheader : (Value.object [("header_name", .text "x-tier")]).Writes
      (Prioritization.headerFields "x-tier") := Value.writes_object (.keep rfl .nil)
  have hgold : (Value.object [("priority", .int 2)]).Writes (Prioritization.groupFields 2) :=
    Value.writes_object (.keep rfl .nil)
  have hiron : (Value.object [("priority", .int 5), ("since", .nat 1987)]).Writes
      (Prioritization.groupFields 5) :=
    Value.writes_object (.keep rfl (.add (by decide) .nil))
  have hrule : wardRuleInShort.Writes (QueueRule.fields {
      quota := 3, windowSeconds := 60, ttlSeconds := 30
      prioritization := some {
        header := "x-tier"
        groups := Table.ofList [("gold", 2), ("iron", 5)] } }) := by
    -- The members are put in the order of the fields by moving the first one on.
    refine ⟨_, _, rfl, (List.Perm.swap _ _ _).trans (.cons _ (.swap _ _ _)), ?_⟩
    refine .keep rfl (.keep rfl (.keep rfl (.leave rfl (.keep ?_ .nil))))
    refine Value.writes_object (.keep hheader (.keep ⟨_, _, rfl, .swap _ _ _, ?_⟩ .nil))
    exact .cons ⟨rfl, hiron⟩ (.cons ⟨rfl, hgold⟩ .nil)
  refine Value.writes_object (.add (by decide) (.leave rfl (.leave rfl (.leave rfl
    (.keep ⟨_, rfl, .cons ?_ (.cons ?_ .nil)⟩ .nil)))))
  · exact Value.writes_object (.keep rfl (.leave rfl (.keep hrule .nil)))
  · exact Value.writes_object (.keep rfl (.keep rfl (.leave rfl .nil)))

/-- The ward is read from its short form, and from its full form again. -/
theorem read_as_written_in_ward :
    wardInShort.Writes ward.fields ∧ ofValue? .toml wardInShort = some ward ∧
    ofValue? .json ward.toValue = ofValue? .toml wardInShort ∧
    (ofValue? .json ward.toValue).map check = (ofValue? .toml wardInShort).map check := by
  have hread := read_as_written.2.1 ward .toml wardInShort wardInShort_writes
  exact ⟨wardInShort_writes, hread, read_as_written.2.2 .toml .json wardInShort ward hread⟩

end Config

end Turnstile
