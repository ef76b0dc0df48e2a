import Turnstile.Cli.Help
import Turnstile.Config.Load
import Turnstile.Data.Json
import Turnstile.Log.Filter
import Turnstile.Timeline

/-!
# The Program

What the program does with its arguments. It loads the configuration, sets up
the log and carries out the command.

A burst of requests runs on a timeline that starts at the reading of the clock:
all requests come in at once, and then time passes until each is decided.

To serve, a port is needed for each listener, first the one for metrics. From
then on the gateway answers, which is not told here.

## Main definitions

* `Cli.Surroundings`: What the program finds around it.
* `Cli.Outcome`: How the program ends, with `exitCode`, `output` and `complaint`.
* `Cli.checkConfig`, `Cli.simulate`, `Cli.serve`: The commands.
* `Cli.run`: The program.
-/

namespace Turnstile

namespace Cli

/-- What the program finds around it. -/
structure Surroundings where
  /-- The variables that are set. -/
  environment : Environment
  /-- The home directory of the account. -/
  accountHome : String
  /-- What there is at each path. -/
  source : String → Config.Source
  /-- Whether someone listens on a port already. -/
  isTaken : UInt16 → Bool
  /-- The reading of the clock. -/
  now : Instant

/-- How the program ends. -/
inductive Outcome where
  /-- It has done what it was asked for, and printed a text. -/
  | finished (output : String)
  /-- The command line has a mistake. -/
  | misused
  /-- Something went wrong, for causes from the outer one to the inner one. -/
  | failed (causes : List String)
  /-- It broke off, since the log filter cannot be read. -/
  | brokenOff
  /-- It answers requests under a configuration. -/
  | serving (config : Config)

/-- Something that can go wrong, for causes from the outer one to the inner one. -/
abbrev Attempt := Except (List String)

/-- A cause, each line but the first indented. -/
def causeText (indent : String) (cause : String) : String :=
  ("\n" ++ indent).intercalate (cause.splitOn "\n")

/-- The inner causes of an error, numbered if there are several. -/
def causeLines : List String → List String
  | [cause] => ["    " ++ causeText "    " cause]
  | causes =>
    causes.mapIdx fun n cause =>
      let number := toString n
      String.ofList (List.replicate (5 - number.length) ' ') ++ number ++ ": " ++
        causeText "       " cause

/-- The text of an error. -/
def errorText : List String → String
  | [] => "Error: "
  | [cause] => "Error: " ++ cause
  | cause :: inner =>
    "\n".intercalate (["Error: " ++ cause, "", "Caused by:"] ++ causeLines inner)

namespace Outcome

/-- The exit code of the program. -/
def exitCode : Outcome → UInt32
  | finished _ | serving _ => 0
  | failed _ => 1
  | misused => 2
  | brokenOff => 101

/-- What the program prints. -/
def output : Outcome → String
  | finished text => text
  | _ => ""

/-- What the program says about an error. -/
def complaint : Outcome → String
  | failed causes => errorText causes
  | _ => ""

end Outcome

/-- A queue rule, as it is shown. -/
def ruleSummary (r : QueueRule) : Value :=
  .object [
    ("prioritized_by", .ofOption .text (r.prioritization.map (·.header))),
    ("response_status_code", .nat r.rejectStatus.toNat),
    ("strategy", .text r.policy.text),
    ("ttl_seconds", .nat r.ttlSeconds.toNat)]

/-- A remedy, as it is shown. -/
def remedySummary (r : Remedy) : Value :=
  .object [
    ("enabled", .bool r.enabled),
    ("name", .text r.name),
    ("strategy_based_queue", .ofOption ruleSummary r.rule)]

/-- A configuration, as it is shown. -/
def configSummary (c : Config) : Value :=
  .object [
    ("metrics", c.metrics.toValue),
    ("remedies", .list (c.remedies.map remedySummary)),
    ("server_port", .nat c.gatewayPort.toNat),
    ("valid", .bool true)]

/-- Show a configuration. -/
def checkConfig (c : Config) : Attempt String :=
  match c.check with
  | .ok c => .ok (Json.pretty (configSummary c) ++ "\n")
  | .error fault => .error fault.causes

/-- The headers of requests of a group. Without a grouping there are none. -/
def groupHeaders (r : Remedy) (group : Option String) : Attempt Headers :=
  match group, r.rule.bind (·.prioritization) with
  | some group, some prioritization =>
    match HeaderName.parse? prioritization.header, HeaderValue.parse? group with
    | none, _ => .error ["Invalid prioritization header name", "invalid HTTP header name"]
    | _, none => .error ["Invalid group value", "failed to parse header value"]
    | some name, some value => .ok [(name, value)]
  | _, _ => .ok []

/-- Send requests with the numbers from `n` on, all of them at once. -/
def burst (r : Remedy) (headers : Headers) (n : Nat) :
    Nat → Timeline Desk → Timeline Desk × List (Answered Ruling)
  | 0, t => (t, [])
  | count + 1, t =>
    let (t, first) := t.act fun d now =>
      d.step (.request n r ("sim-" ++ toString n) headers now)
    let (t, others) := burst r headers (n + 1) count t
    (t, first ++ others)

/-- How many rulings let a request through. -/
def admitted (answers : List (Answered Ruling)) : Nat :=
  answers.countP fun a =>
    match a.answer with
    | .ok action => action.isPass
    | .error _ => false

/-- How many rulings are errors. -/
def failures (answers : List (Answered Ruling)) : Nat :=
  answers.countP fun a =>
    match a.answer with
    | .ok _ => false
    | .error _ => true

/-- Send a burst of requests for a remedy, and show how they were answered and
    the metrics afterwards. -/
def simulate (c : Config) (now : Instant) (name : String) (requests : Nat)
    (group : Option String) : Attempt String := do
  match c.remedy? name with
  | none => .error ["Remedy '" ++ name ++ "' is not configured or disabled"]
  | some remedy =>
    let headers ← groupHeaders remedy group
    let (t, first) := burst remedy headers 0 requests ⟨now, 0, Desk.empty⟩
    let (t, second) := t.settle
    let (t, third) := t.finish
    let answers := first ++ second ++ third
    let summary : Value := .object [
      ("admitted", .nat (admitted answers)),
      ("elapsed_ms", .nat t.elapsed),
      ("failed", .nat (failures answers)),
      ("rejected", .nat (answers.length - admitted answers - failures answers)),
      ("remedy", .text name),
      ("requests", .nat requests)]
    return Json.pretty summary ++ "\n" ++ t.state.metrics ++ "\n"

/-- Take a port to listen on. -/
def bind (isTaken : UInt16 → Bool) (listener : String) (port : UInt16) : Attempt Unit :=
  if isTaken port then
    .error [
      "Failed to bind " ++ listener ++ " server",
      "Address 0.0.0.0:" ++ toString port.toNat ++ " unavailable",
      "Address already in use (os error 98)"]
  else .ok ()

/-- Take the ports that a configuration asks for. -/
def serve (c : Config) (isTaken : UInt16 → Bool) : Attempt Unit := do
  if c.metrics.enabled then bind isTaken "metrics" c.metrics.port
  bind isTaken "gateway" c.gatewayPort

/-- Where the configuration of an invocation lies. -/
def Invocation.path (i : Invocation) (accountHome : String) (env : Environment) : String :=
  i.config.getD (Config.path accountHome env)

/-- Load the configuration of an invocation. -/
def loadConfig (i : Invocation) (s : Surroundings) : Attempt Config :=
  let path := i.path s.accountHome s.environment
  match Config.load (s.source path) s.environment with
  | .ok c => .ok c
  | .error e => .error ("Failed to load configuration" :: e.causes path)

/-- Carry out the command of an invocation. -/
def obey (i : Invocation) (c : Config) (s : Surroundings) : Attempt Outcome := do
  match i.command with
  | none => return .finished ""
  | some .serve => do
    serve c s.isTaken
    return .serving c
  | some .checkConfig => return .finished (← checkConfig c)
  | some (.simulate remedy requests group) =>
    return .finished (← simulate c s.now remedy requests group)

/-- What a step in setting up the log gives. -/
def orLogError {α : Type} : Except Log.Error α → Attempt α
  | .ok a => .ok a
  | .error e => .error [e.message]

/-- Carry out an invocation. The log filter is read when the level is known, and
    before the format is. -/
def perform (i : Invocation) (s : Surroundings) : Attempt Outcome := do
  let c ← loadConfig i s
  let level ← orLogError (c.logging.levelInForce i.verbose)
  match Log.Filter.ofText? level ((s.environment.find? Log.filterVariable).getD "") with
  | none => return .brokenOff
  | some _ =>
    let _ ← orLogError (c.logging.start i.verbose false)
    obey i c s

/-- Run the program. -/
def run (arguments : List String) (s : Surroundings) : Outcome :=
  match Invocation.parse arguments with
  | .error (.help topic) => .finished (topic.page ++ "\n")
  | .error .version => .finished (versionText ++ "\n")
  | .error .misuse => .misused
  | .ok i =>
    match perform i s with
    | .ok outcome => outcome
    | .error causes => .failed causes

end Cli

end Turnstile
