import Turnstile.Config.Basic
import Turnstile.Desk.Action
import Turnstile.Http.Header
import Turnstile.Metrics

/-!
# Desks

A desk takes requests for remedies to the gates. It finds the gate of the
remedy and its policy, tells the priority of the request from its headers, and
turns the verdict of the gate into an action. Every verdict that reaches the
desk is counted, once; a request that is given up while it waits, or whose
remedy has no queue rule, is not.

## Main definitions

* `QueueRule.priorityOf`: The priority of a request under a rule.
* `DeskError`: Why a request cannot be decided.
* `Desk`: The state of a desk: gates, counts and calls under way.
* `Desk.Step`, `Desk.step`, `Desk.run`: What can happen to a desk.
-/

namespace Turnstile

/-- The priority of a request under a rule: that of the group which the header
    names, and the default if there is no such group. -/
def QueueRule.priorityOf (rule : QueueRule) (headers : Headers) : Priority :=
  (do
    let prioritization ← rule.prioritization
    let value ← headers.first? prioritization.header
    prioritization.groups.find? (← value.text?)).getD Priority.default

/-- Why a request cannot be decided. -/
inductive DeskError where
  /-- The remedy has no queue rule. -/
  | missingConfig (remedy : String)
deriving DecidableEq

/-- The wording of a reason. -/
def DeskError.message : DeskError → String
  | .missingConfig remedy => "Remedy '" ++ remedy ++ "' is missing its configuration"

/-- The answer to a request. -/
abbrev Ruling := Except DeskError Action

/-- What is remembered of a call until it is decided. -/
structure Docket where
  /-- The name of the remedy. -/
  remedy : String
  /-- The priority of the request. -/
  priority : Priority
  /-- The status to refuse the request with. -/
  rejectStatus : UInt16
deriving DecidableEq

/-- The state of a desk. -/
structure Desk where
  /-- The gates. -/
  registry : Registry
  /-- The decided calls. -/
  outcomes : Outcomes
  /-- The calls that are not decided yet. -/
  dockets : Table CallId Docket

namespace Desk

/-- What can happen to a desk. -/
inductive Step where
  /-- A request for a remedy comes in. -/
  | request (call : CallId) (remedy : Remedy) (id : String) (headers : Headers) (now : Instant)
  /-- Something happens at a gate, other than an arrival. -/
  | gate (key : Key) (event : Event)
  /-- All gates are closed. -/
  | closeAll

/-- The desk that nobody has come to. -/
def empty : Desk := ⟨Registry.empty, Table.empty, Table.empty⟩

/-- Take a notice of a gate: a call that returns is counted and answered. -/
def hear (d : Desk) (notice : Notice) : Desk × List (CallId × Ruling) :=
  match notice with
  | .returned call admitted =>
    match d.dockets.find? call with
    | some docket =>
      ({ d with
          outcomes := d.outcomes.record docket.remedy docket.priority admitted
          dockets := d.dockets.erase call },
        [(call, .ok (if admitted then .pass else .tooManyRequests docket.rejectStatus))])
    | none => (d, [])
  | _ => (d, [])

/-- Take notices one after the other. -/
def hearAll (d : Desk) : List (Key × Notice) → Desk × List (CallId × Ruling)
  | [] => (d, [])
  | (_, notice) :: notices =>
    let (d, first) := d.hear notice
    let (d, rest) := d.hearAll notices
    (d, first ++ rest)

/-- Let something happen to the gates, and take the notices. -/
def queue (d : Desk) (s : Registry.Step) : Desk × List (CallId × Ruling) :=
  let (registry, notices) := d.registry.step s
  { d with registry }.hearAll notices

/-- A request that comes in. A number that an undecided call still bears is no
    new request.

    One reading of the clock stands for three: a new gate begins with it, the
    request is stamped with it, and it is decided by it. At a registry each has
    a reading of its own, in `Registry.Step.ensure`, in `Request.arrived` and in
    `Registry.Step.arrive`, and what is proved of gates and registries is proved
    for any three. -/
def request (d : Desk) (call : CallId) (remedy : Remedy) (id : String) (headers : Headers)
    (now : Instant) : Desk × List (CallId × Ruling) :=
  match remedy.rule with
  | none => (d, [(call, .error (.missingConfig remedy.name))])
  | some rule =>
    if d.dockets.contains call then (d, [])
    else
      let priority := rule.priorityOf headers
      let docket := { remedy := remedy.name, priority, rejectStatus := rule.rejectStatus }
      { d with dockets := d.dockets.insert call docket }.queue
        (.arrive { remedy := remedy.name, policy := rule.policy } call
          { id, priority, arrived := now } rule.ttl now)

/-- One step. -/
def step (d : Desk) : Step → Desk × List (CallId × Ruling)
  | .request call remedy id headers now => d.request call remedy id headers now
  | .gate _ (.arrive ..) => (d, [])
  | .gate key (.drop call) =>
    if (d.registry.find? key).any (·.callers.contains call) then
      { d with dockets := d.dockets.erase call }.queue (.gate key (.drop call))
    else (d, [])
  | .gate key event => d.queue (.gate key event)
  | .closeAll => d.queue .closeAll

/-- A sequence of steps. -/
def run (d : Desk) : List Step → Desk × List (CallId × Ruling)
  | [] => (d, [])
  | s :: ss =>
    let (d, first) := d.step s
    let (d, rest) := d.run ss
    (d, first ++ rest)

/-- The metrics of a desk in the text format. -/
def metrics (d : Desk) : String :=
  Metrics.text d.outcomes d.registry

end Desk

end Turnstile
