import Turnstile.Gateway.Basic

/-!
# Timelines

Time for a state that holds gates. A timeline counts whole milliseconds from an
origin; nothing takes time but moving along it.

Timers have a resolution of one millisecond: a sleep that should end at an
instant ends at the first whole millisecond of the timeline that is not before
it, and at once if that has passed. There are two ways to move. Sleeping visits
every timer that comes due on the way, at the moment at which it does. A jump
lets the timers that came due go off only at its end.

Between two moves everything that can happen without time does happen: calls
collect their verdicts and wardens look at their gates. `settle` is that, and
the order it works in is fixed but makes no difference to the outcome.

## Main definitions

* `Timed`: States that hold gates and answer calls.
* `Timeline`: A state with an origin and the time that has passed.
* `Timeline.settle`: Let happen what needs no time.
* `Timeline.sleep`, `Timeline.jump`, `Timeline.finish`: The ways to move.
* `Timeline.act`, `Timeline.abandon`: Something happens from outside.
-/

namespace Turnstile

/-- States that hold gates, and that answer calls with values of type `ρ`. -/
class Timed (σ : Type) (ρ : outParam Type) where
  /-- The gates of a state. -/
  registry : σ → Registry
  /-- Something happens at the gate of a key. -/
  atGate : σ → Key → Event → σ × List (CallId × ρ)

/-- The calls that a list of notices tells to have returned, with their verdicts. -/
def returns (notices : List (Key × Notice)) : List (CallId × Bool) :=
  notices.filterMap fun (_, notice) =>
    match notice with
    | .returned call verdict => some (call, verdict)
    | _ => none

instance : Timed Registry Bool where
  registry r := r
  atGate r key event :=
    let (r, notices) := r.step (.gate key event)
    (r, returns notices)

instance : Timed Desk Ruling where
  registry d := d.registry
  atGate d key event := d.step (.gate key event)

instance : Timed Gateway Response where
  registry g := g.desk.registry
  atGate g key event := g.step (.gate key event)

/-- A call that was answered, and when. -/
structure Answered (ρ : Type) where
  /-- The call. -/
  call : CallId
  /-- Its answer. -/
  answer : ρ
  /-- The milliseconds from the origin to the answer. -/
  millis : Nat

/-- A state in time. -/
structure Timeline (σ : Type) where
  /-- The reading of the clock at the start. -/
  origin : Instant
  /-- The milliseconds that have passed. -/
  elapsed : Nat
  /-- The state now. -/
  state : σ

/-- A timer that is set. -/
structure Alarm where
  /-- The millisecond at which it goes off. -/
  due : Nat
  /-- The gate it belongs to. -/
  key : Key
  /-- What happens there when it goes off, at a reading of the clock. -/
  event : Instant → Event

namespace Timeline

variable {σ ρ : Type} [Timed σ ρ]

/-- The instant that a number of milliseconds from an origin reads as. What is longer
    than a step can be is not counted, so that the clock then reads its origin. -/
def instantAt? (origin : Instant) (millis : Nat) : Option Instant :=
  let nanos := millis * 1000000
  if nanos ≤ Instant.longestStep then Instant.ofNanos? (origin.nanos + nanos) else some origin

/-- The reading of the clock now; the last instant once time has run past it. -/
def now (t : Timeline σ) : Instant :=
  (instantAt? t.origin t.elapsed).getD Instant.last

/-- The first millisecond of a timeline that is not before an instant. -/
def millisUntil (origin target : Instant) : Nat :=
  ((target.nanos - origin.nanos + 999999) / 1000000).toNat

/-- The timers set at a gate: that of each warden that sleeps, and that of each
    call that was sent no verdict yet. -/
def alarmsAt (origin : Instant) (key : Key) (g : Gate) : List Alarm :=
  (g.wardens.zipIdx.filterMap fun (warden, n) =>
    match warden with
    | .asleep target => some ⟨millisUntil origin target, key, .wardenWake n⟩
    | _ => none) ++
  (g.callers.entries.filter fun (_, caller) => caller.verdict.isNone).map
    fun (call, caller) => ⟨millisUntil origin caller.deadline, key, .wake call⟩

/-- All timers that are set. -/
def alarms (t : Timeline σ) : List Alarm :=
  (Timed.registry t.state).gates.entries.flatMap fun (key, gate) => alarmsAt t.origin key gate

/-- What can happen at a gate without time. -/
def timelessAt (g : Gate) : List Event :=
  (g.wardens.zipIdx.filterMap fun (warden, n) =>
    match warden with
    | .asleep _ => none
    | _ => some (.wardenLook n)) ++
  (g.callers.entries.filter fun (_, caller) => caller.verdict.isSome).map
    fun (call, _) => .collect call

/-- What can happen without time. -/
def timeless (t : Timeline σ) : List (Key × Event) :=
  (Timed.registry t.state).gates.entries.flatMap fun (key, gate) =>
    (timelessAt gate).map (key, ·)

/-- The earliest of some timers, the first of those if there are several. -/
def earliest? : List Alarm → Option Alarm
  | [] => none
  | a :: rest =>
    match earliest? rest with
    | some b => if b.due < a.due then some b else some a
    | none => some a

/-- The event to happen next at the present time: one that needs no time, or else
    that of a timer that is due. -/
def next? (t : Timeline σ) : Option (Key × Event) :=
  match timeless t with
  | e :: _ => some e
  | [] =>
    match earliest? (alarms t) with
    | some a => if a.due ≤ t.elapsed then some (a.key, a.event t.now) else none
    | none => none

/-- Something happens from outside. -/
def act (t : Timeline σ) (f : σ → Instant → σ × List (CallId × ρ)) :
    Timeline σ × List (Answered ρ) :=
  let (state, answers) := f t.state t.now
  ({ t with state }, answers.map fun (call, answer) => ⟨call, answer, t.elapsed⟩)

/-- Let happen what can happen now, at most `fuel` events of it. -/
def settleWithin : Nat → Timeline σ → Timeline σ × List (Answered ρ)
  | 0, t => (t, [])
  | fuel + 1, t =>
    match next? t with
    | none => (t, [])
    | some (key, event) =>
      let (t, first) := t.act fun state _ => Timed.atGate state key event
      let (t, rest) := settleWithin fuel t
      (t, first ++ rest)

/-- The number of events that can happen at one time. A call needs at most two,
    its timer and the collecting of a verdict, and a warden wakes and looks at
    most twice. -/
def settleFuel (t : Timeline σ) : Nat :=
  (Timed.registry t.state).gates.entries.foldl
    (fun fuel (_, gate) => fuel + (2 * gate.callers.size + 4 * gate.wardens.length)) 0

/-- Let happen all that can happen now. -/
def settle (t : Timeline σ) : Timeline σ × List (Answered ρ) :=
  settleWithin (settleFuel t) t

/-- Let time jump; the timers that come due go off at its end. -/
def jump (t : Timeline σ) (millis : Nat) : Timeline σ × List (Answered ρ) :=
  settle { t with elapsed := t.elapsed + millis }

/-- Visit the timers that come due up to an end, at most `fuel` moments of them. -/
def visit : Nat → Nat → Timeline σ → Timeline σ × List (Answered ρ)
  | 0, _, t => (t, [])
  | fuel + 1, last, t =>
    match earliest? (alarms t) with
    | none => (t, [])
    | some a =>
      if a.due ≤ last then
        let (t, first) := settle { t with elapsed := max t.elapsed a.due }
        let (t, rest) := visit fuel last t
        (t, first ++ rest)
      else (t, [])

/-- Let time pass; every timer goes off when it comes due. -/
def sleep (t : Timeline σ) (millis : Nat) : Timeline σ × List (Answered ρ) :=
  let last := t.elapsed + millis
  let (t, first) := visit (millis + 1) last t
  let (t, rest) := settle { t with elapsed := last }
  (t, first ++ rest)

/-- Whether any call waits. -/
def isWaiting (t : Timeline σ) : Bool :=
  (Timed.registry t.state).gates.entries.any fun (_, gate) => !gate.callers.isEmpty

/-- Let time pass until no call waits, at most `fuel` moments of it. -/
def finishWithin : Nat → Timeline σ → Timeline σ × List (Answered ρ)
  | 0, t => (t, [])
  | fuel + 1, t =>
    if isWaiting t then
      match earliest? (alarms t) with
      | none => (t, [])
      | some a =>
        let (t, first) := settle { t with elapsed := max t.elapsed a.due }
        let (t, rest) := finishWithin fuel t
        (t, first ++ rest)
    else (t, [])

/-- Let time pass until no call waits. No call waits past its timer, and each
    moment is later than the one before. -/
def finish (t : Timeline σ) : Timeline σ × List (Answered ρ) :=
  let last := (alarms t).foldl (fun n a => max n a.due) t.elapsed
  finishWithin (last - t.elapsed + 1) t

/-- The key of the gate at which a call waits. -/
def keyOf? (t : Timeline σ) (call : CallId) : Option Key :=
  ((Timed.registry t.state).gates.entries.find? fun (_, gate) =>
    gate.callers.contains call).map (·.1)

/-- Give up a call, if it waits. -/
def abandon (t : Timeline σ) (call : CallId) : Timeline σ × Bool :=
  match keyOf? t call with
  | some key => ({ t with state := (Timed.atGate t.state key (.drop call)).1 }, true)
  | none => (t, false)

end Timeline

end Turnstile
