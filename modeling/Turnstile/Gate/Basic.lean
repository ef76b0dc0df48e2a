import Turnstile.Line
import Turnstile.Policy

/-!
# Gates

A gate holds requests to a policy. It admits a call at once while the quota of
the present window lasts, lets it wait in line for a later window, or refuses
it when the time it may wait is over.

The window is observed lazily: each step that reads the clock first looks
whether the window has changed since the last look. If it has, the quota is
fresh and the gate promotes from the head of the line until the quota is used
up or nobody is left; those it meets whose deadline has come are denied and take
no slot. Calls that wait sleep until their own deadline. While anybody waits, a
warden sleeps until the window changes, so that the quota is handed out even if
nobody arrives.

A gate is a value, and all that can happen to it is one `Event`. Each event
carries its own reading of the clock, and readings need not agree with each
other: what a gate guarantees it guarantees for any sequence of events.

## Main definitions

* `Waiter`: An entry of the line: whose call it is and until when it may wait.
* `Caller`: A call that waits, and the verdict that was sent to it, if any.
* `Warden`: What a task that watches the window is doing.
* `Gate`: The state of a gate.
* `Gate.roll`: Observe the window, and promote into a fresh quota.
* `Event`, `Notice`: What can happen, and what comes of it.
* `Gate.step`, `Gate.run`: One event, and a sequence of events.
-/

namespace Turnstile

/-- The number of a call. -/
abbrev CallId := Nat

/-- An entry of the line. -/
structure Waiter where
  /-- The call that waits. -/
  call : CallId
  /-- The instant from which the call may not be admitted. -/
  deadline : Instant
deriving DecidableEq

/-- A call that has begun to wait and has neither returned nor been dropped. -/
structure Caller where
  /-- Where the call stands in line, or stood. -/
  place : Place
  /-- The instant until which the call sleeps. -/
  deadline : Instant
  /-- The verdict that was sent to the call and that it has not yet seen. -/
  verdict : Option Bool
deriving DecidableEq

/-- A task that watches for the next window while anybody waits. -/
inductive Warden where
  /-- The task was called and has not begun. -/
  | called
  /-- The task is about to look at the gate. -/
  | ready
  /-- The task sleeps until an instant. -/
  | asleep (target : Instant)
deriving DecidableEq

/-- The state of a gate. -/
structure Gate where
  /-- The policy it enforces. -/
  policy : Policy
  /-- The index of the window it last observed. -/
  window : Int
  /-- The slots given away in that window. -/
  admitted : Nat
  /-- Those who wait. -/
  line : Line Waiter
  /-- The calls that wait, or that were sent a verdict they have not seen. -/
  callers : Table CallId Caller
  /-- The tasks that watch the window. -/
  wardens : List Warden
  /-- Whether the gate takes the window to be watched, and so calls no warden. -/
  watched : Bool
  /-- Whether the gate has been closed. -/
  closed : Bool

/-- What can happen to a gate. -/
inductive Event where
  /-- A call arrives with a request and a limit on the time it may wait. -/
  | arrive (call : CallId) (request : Request) (ttl : Span) (now : Instant)
  /-- The timer of a waiting call goes off. -/
  | wake (call : CallId) (now : Instant)
  /-- A call looks for the verdict it was sent. -/
  | collect (call : CallId)
  /-- A waiting call is given up by its caller. -/
  | drop (call : CallId)
  /-- A warden wakes up; wardens are told apart by their positions. -/
  | wardenWake (warden : Nat) (now : Instant)
  /-- A warden looks whether it is still needed, and goes to sleep if so. -/
  | wardenLook (warden : Nat)
  /-- A warden is lost because what it runs on is taken down. -/
  | wardenLost (warden : Nat)
  /-- The gate is closed. -/
  | close
  /-- The gate is looked at. -/
  | read
deriving DecidableEq

/-- What comes of an event. -/
inductive Notice where
  /-- A slot of the observed window was given to a call. -/
  | granted (call : CallId)
  /-- A waiting call was sent a refusal. -/
  | denied (call : CallId)
  /-- A call began to wait. -/
  | parked (call : CallId)
  /-- A call returned to its caller with a verdict. -/
  | returned (call : CallId) (verdict : Bool)
deriving DecidableEq

namespace Gate

/-- A gate that starts to enforce a policy. -/
def start (policy : Policy) (now : Instant) : Gate where
  policy
  window := policy.windowAt now
  admitted := 0
  line := Line.empty
  callers := Table.empty
  wardens := []
  watched := false
  closed := false

/-- Whether the observed window has slots left. -/
def hasQuota (g : Gate) : Bool :=
  g.admitted < g.policy.quota.toNat

/-- Send a verdict to a waiting call; `none` if the call is gone. -/
def send? (g : Gate) (call : CallId) (verdict : Bool) : Option Gate :=
  (g.callers.find? call).map fun caller =>
    { g with callers := g.callers.insert call { caller with verdict := some verdict } }

/-- Send a verdict to a waiting call that need not be there any more. -/
def send (g : Gate) (call : CallId) (verdict : Bool) : Gate :=
  (g.send? call verdict).getD g

/-- Serve the line into the quota, at most `fuel` entries of it. An entry whose
    deadline has come is denied; any other takes a slot, if its call is there. -/
def promote : Nat → Instant → Gate → Gate × List Notice
  | 0, _, g => (g, [])
  | fuel + 1, now, g =>
    if g.hasQuota then
      match g.line.next? with
      | none => (g, [])
      | some (_, waiter, line) =>
        let g := { g with line }
        if waiter.deadline ≤ now then
          let (g', notices) := promote fuel now (g.send waiter.call false)
          (g', .denied waiter.call :: notices)
        else
          match g.send? waiter.call true with
          | some g =>
            let (g', notices) := promote fuel now { g with admitted := g.admitted + 1 }
            (g', .granted waiter.call :: notices)
          | none => promote fuel now g
    else (g, [])

/-- Observe the window. If it has moved on, the quota is fresh and the line is
    served into it; readings of an earlier window change nothing. -/
def roll (g : Gate) (now : Instant) : Gate × List Notice :=
  let window := g.policy.windowAt now
  if window ≤ g.window then (g, [])
  else promote g.line.size now { g with window, admitted := 0 }

/-- End a call: it is no longer there, and its entry leaves the line if it still
    waits. -/
def finish (g : Gate) (call : CallId) (place : Place) : Gate :=
  { g with callers := g.callers.erase call, line := g.line.leave place }

/-- Have the window watched; a warden is called if the window is not. -/
def watch (g : Gate) : Gate :=
  if g.watched then g else { g with wardens := g.wardens ++ [.called], watched := true }

/-- Begin to wait, and have the window watched. -/
def park (g : Gate) (call : CallId) (request : Request) (deadline : Instant) : Gate :=
  let (line, place) := g.line.join request.priority request.arrived { call, deadline }
  watch { g with line, callers := g.callers.insert call { place, deadline, verdict := none } }

/-- An arriving call takes a slot if there is one; otherwise it waits if the gate
    is open and there is time, and is refused if not. A number that a waiting
    call still bears is no arrival. -/
def arrive (g : Gate) (call : CallId) (request : Request) (ttl : Span) (now : Instant) :
    Gate × List Notice :=
  if g.callers.contains call then (g, [])
  else
    let deadline := request.deadline ttl
    let (g, served) := g.roll now
    if !g.closed && g.hasQuota then
      ({ g with admitted := g.admitted + 1 }, served ++ [.granted call, .returned call true])
    else if g.closed || ttl.isZero || deadline ≤ now then
      (g, served ++ [.returned call false])
    else (g.park call request deadline, served ++ [.parked call])

/-- A waiting call whose timer went off observes the window. If that, or
    something before it, decided the call, it returns the verdict it was sent;
    if its deadline has come it returns refused; otherwise it goes on waiting. -/
def wake (g : Gate) (call : CallId) (now : Instant) : Gate × List Notice :=
  if g.callers.contains call then
    let (g, served) := g.roll now
    match g.callers.find? call with
    | none => (g, served)
    | some caller =>
      if !g.line.contains caller.place then
        (g.finish call caller.place, served ++ [.returned call (caller.verdict.getD false)])
      else if caller.deadline ≤ now then
        (g.finish call caller.place, served ++ [.returned call false])
      else (g, served)
  else (g, [])

/-- A call that was sent a verdict returns it. One without a verdict waits as long
    as its entry can still be sent one, and returns refused otherwise. -/
def collect (g : Gate) (call : CallId) : Gate × List Notice :=
  match g.callers.find? call with
  | none => (g, [])
  | some caller =>
    if caller.verdict.isNone && g.line.contains caller.place then (g, [])
    else (g.finish call caller.place, [.returned call (caller.verdict.getD false)])

/-- A call that its caller gives up leaves the line. -/
def drop (g : Gate) (call : CallId) : Gate :=
  match g.callers.find? call with
  | some caller => g.finish call caller.place
  | none => g

/-- A warden whose sleep is over observes the window, and then has a look. -/
def wardenWake (g : Gate) (n : Nat) (now : Instant) : Gate × List Notice :=
  match g.wardens[n]? with
  | some (.asleep _) =>
    let (g, served) := g.roll now
    ({ g with wardens := g.wardens.set n .ready }, served)
  | _ => (g, [])

/-- A warden goes when nobody waits or the gate is closed, and otherwise sleeps
    until the window after the one last observed begins. -/
def wardenLook (g : Gate) (n : Nat) : Gate :=
  match g.wardens[n]? with
  | some .called | some .ready =>
    if g.closed || g.line.isEmpty then
      { g with wardens := g.wardens.eraseIdx n, watched := false }
    else
      let target := g.policy.windowStart (g.window + 1)
      { g with wardens := g.wardens.set n (.asleep target) }
  | _ => g

/-- A warden that is lost while it sleeps leaves word that the window is not watched
    any more; one that has not begun has no occasion to. -/
def wardenLost (g : Gate) (n : Nat) : Gate :=
  match g.wardens[n]? with
  | some (.asleep _) => { g with wardens := g.wardens.eraseIdx n, watched := false }
  | some .called => { g with wardens := g.wardens.eraseIdx n }
  | _ => g

/-- Closing refuses all who wait, once. -/
def close (g : Gate) : Gate × List Notice :=
  if g.closed then (g, [])
  else
    let calls := g.line.toList.map fun (_, waiter) => waiter.call
    (calls.foldl (fun g call => g.send call false)
      { g with closed := true, line := g.line.clear }, calls.map .denied)

/-- One event. -/
def step (g : Gate) : Event → Gate × List Notice
  | .arrive call request ttl now => g.arrive call request ttl now
  | .wake call now => g.wake call now
  | .collect call => g.collect call
  | .drop call => (g.drop call, [])
  | .wardenWake n now => g.wardenWake n now
  | .wardenLook n => (g.wardenLook n, [])
  | .wardenLost n => (g.wardenLost n, [])
  | .close => g.close
  | .read => (g, [])

/-- A sequence of events. -/
def run (g : Gate) : List Event → Gate × List Notice
  | [] => (g, [])
  | e :: es =>
    let (g, first) := g.step e
    let (g, rest) := g.run es
    (g, first ++ rest)

/-- The number of waiting calls of each priority. -/
def counts (g : Gate) : Table Priority Nat := g.line.counts

end Gate

end Turnstile
