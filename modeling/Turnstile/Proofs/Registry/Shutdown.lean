import Turnstile.Proofs.Gate.Closing
import Turnstile.Proofs.Registry.Keys

/-!
# Shutdown

What it is worth that all gates are closed together.

Closing all gates closes those that are there, and each of them for good: nobody is in its
line ever again, whoever waited is refused or returns the verdict it had, and whoever comes to
it later is refused at once.

It does not close the registry. A key that is first used afterwards is given a gate like any
other, which is open, and there a call may begin to wait as if nothing had been shut.
So whoever shuts a registry down and means to wait until all calls have returned
cannot count on closing its gates: the bound on who may still wait is exactly the keys that had
no gate yet.

## Main definitions

* `Latecomer`: A registry that is shut with one of two keys in use, for examples.

## Theorems

* `returned_after_closeAll`: At a gate that was there nothing happens but that calls return.
* `arrive_of_closed`: Who comes to a closed gate of a registry is refused at once.
* `shutdown_releases_known_keys`: Whoever waits at a gate that was there is released, and whoever
  waits later does so at a gate that was not.
* `calls_wait_after_shutdown`: At a key that was not in use a call waits after the shutdown.
-/

namespace Turnstile

namespace Registry

variable {r : Registry} {key : Key} {gate : Gate}

theorem find?_after_closeAll (hfind : r.find? key = some gate) (ts : List Step) :
    At key (some ((gate.step .close).1.run (eventsAt key ts)).1)
      ((gate.step .close).1.run (eventsAt key ts)).2 ((r.step .closeAll).1.run ts) :=
  run_of_find? ((find?_closeAll r key).trans (congrArg _ hfind)) ts

/-- At a gate that was there when all were closed nothing happens but that calls return. -/
theorem returned_after_closeAll (h : gate.Sound) (hfind : r.find? key = some gate)
    (ts : List Step) :
    ∀ n, (key, n) ∈ ((r.step .closeAll).1.run ts).2 → ∃ call v, n = .returned call v := by
  intro n hn
  have hnotice := (find?_after_closeAll hfind ts).mem hn
  exact Gate.returned_of_closed (Gate.step_sound h .close) (Gate.closed_close h) _ n hnotice

/-- A call that comes to a closed gate is refused at once. -/
theorem arrive_of_closed {call : CallId} (h : gate.Sound) (hclosed : gate.closed = true)
    (hfind : r.find? key = some gate) (hnew : gate.callers.find? call = none)
    (request : Request) (ttl : Span) (now : Instant) :
    (r.step (.arrive key call request ttl now)).2 = [(key, .returned call false)] := by
  rw [step_arrive_eq, step_gate_of_find? (find?_ensure_of_find? key now hfind),
    Gate.arrive_of_closed h hclosed hnew]
  rfl

/-- **Shutting down releases whoever waits at a gate that is there.** When all gates of a registry
    are closed in any state that it can be in, each gate that is there is closed for good, with
    nobody in its line or counted. A call there that was sent a verdict before returns it,
    and every other one returns refused, unless it is given up; as long as it does not look it
    is there with this verdict. Whoever comes to such a gate later is refused at once, and
    nothing ever begins to wait there. Any other key has a gate only from its first use after the
    shutdown on, and this gate is as open as that of a registry that was never shut. -/
theorem shutdown_releases_known_keys (ss ts : List Step) :
    let before := (empty.run ss).1
    let shut := (before.step .closeAll).1
    let later := (shut.run ts).1
    (∀ key gate, before.find? key = some gate →
      (∃ closed, later.find? key = some closed ∧ closed.closed = true ∧
        closed.line.toList = [] ∧ closed.counts = Table.empty ∧
        ∀ call, closed.callers.find? call = none → ∀ request ttl now,
          (later.step (.arrive key call request ttl now)).2 = [(key, .returned call false)]) ∧
      (∀ call caller, gate.callers.find? call = some caller →
        match ((gate.step .close).1.history (eventsAt key ts)).find? (Moment.isEndOf call) with
        | some m =>
          m.event = .drop call ∨ m.notices = [.returned call (caller.verdict.getD false)]
        | none => ∃ closed, later.find? key = some closed ∧
            closed.callers.contains call = true ∧
            (closed.step (.collect call)).2 =
              [.returned call (caller.verdict.getD false)] ∧
            ∀ now, (closed.step (.wake call now)).2 =
              [.returned call (caller.verdict.getD false)]) ∧
      ∀ n, (key, n) ∈ (shut.run ts).2 → ∃ call v, n = .returned call v) ∧
    (∀ key, before.find? key = none → later.find? key = (alone key ts).1) ∧
    ∀ key call, (key, .parked call) ∈ (shut.run ts).2 → before.find? key = none := by
  intro before shut later
  have hreturned : ∀ key gate, before.find? key = some gate →
      ∀ n, (key, n) ∈ (shut.run ts).2 → ∃ call v, n = .returned call v :=
    fun _ _ hfind => returned_after_closeAll (sound_of_find? hfind) hfind ts
  refine ⟨fun key gate hfind => ⟨?_, fun call caller hcaller => ?_, hreturned key gate hfind⟩,
    fun key hnone => ?_, fun key call hparked => ?_⟩
  · rcases Gate.closed_for_good (sound_of_find? hfind) (eventsAt key ts) with ⟨hlater, hclosed⟩
    have hthere := (find?_after_closeAll hfind ts).1
    exact ⟨_, hthere, hclosed, Gate.toList_eq_nil_of_closed hlater hclosed,
      Gate.counts_of_closed hlater hclosed,
      fun call hnew => arrive_of_closed hlater hclosed hthere hnew⟩
  · have hsound := sound_of_find? hfind
    have hend := Gate.end_of_call (Gate.step_sound hsound .close) (Gate.closed_close hsound)
      (Gate.find?_close hsound hcaller) (eventsAt key ts)
    cases hfound : ((gate.step .close).1.history (eventsAt key ts)).find?
        (Moment.isEndOf call) with
    | some m =>
        rw [hfound] at hend
        exact hend
    | none =>
        -- It has not ended, so it is there with its verdict and may look for it.
        rw [hfound] at hend
        rcases Gate.closed_for_good hsound (eventsAt key ts) with ⟨hlater, hclosed⟩
        have hready := Gate.returns_of_closed hlater hclosed hend
        exact ⟨_, (find?_after_closeAll hfind ts).1, Table.contains_of_find? hend, hready⟩
  · have hshut : shut.find? key = none := (find?_closeAll before key).trans (congrArg _ hnone)
    exact (run_of_none hshut ts).1
  · cases hfind : before.find? key with
    | none => rfl
    | some gate =>
        -- At a gate that was there all notices are returns, and this is none.
        rcases hreturned key gate hfind _ hparked with ⟨_, _, heq⟩
        exact Notice.noConfusion heq

/-- The narrow door is shut while a call waits at it: the call returns refused, and so does one
    that comes later. The wide door was never used, and is not shut. -/
theorem shutdown_releases_known_keys_at_door :
    let ss : List Step :=
      [.arrive Doors.narrow 1 Rush.request (.ofSeconds 5) Instant.epoch,
        .arrive Doors.narrow 3 Rush.request (.ofSeconds 5) Instant.epoch]
    let ts : List Step := [.gate Doors.narrow (.collect 3)]
    let shut := ((empty.run ss).1.step .closeAll).1
    let later := (shut.run ts).1
    ((empty.run ss).2.contains (Doors.narrow, .parked 3) = true ∧
      (shut.run ts).2 = [(Doors.narrow, .returned 3 false)]) ∧
    (∃ closed, later.find? Doors.narrow = some closed ∧ closed.closed = true ∧
      closed.counts = Table.empty ∧
      (later.step (.arrive Doors.narrow 4 Rush.request (.ofSeconds 5) Rush.second)).2 =
        [(Doors.narrow, .returned 4 false)]) ∧
    later.find? Doors.wide = none := by
  intro ss ts shut later
  have hreleases := shutdown_releases_known_keys ss ts
  have hthere : ((empty.run ss).1.find? Doors.narrow).isSome = true := by decide +kernel
  rcases Option.isSome_iff_exists.mp hthere with ⟨gate, hgate⟩
  rcases (hreleases.1 Doors.narrow gate hgate).1 with ⟨closed, hclosed, hshut, -, hcounts, hlater⟩
  have hgone : (later.find? Doors.narrow).map (fun g => g.callers.find? 4) = some none := by
    decide +kernel
  rw [hclosed] at hgone
  exact ⟨⟨by decide +kernel, by decide +kernel⟩,
    ⟨closed, hclosed, hshut, hcounts, hlater 4 (Option.some.inj hgone) _ _ _⟩,
    hreleases.2.1 Doors.wide (by decide +kernel)⟩

namespace Latecomer

/-- A door without slots that is in use when all doors are shut. -/
def known : Key := ⟨"old", ⟨0, .ofSeconds 60⟩⟩

/-- A door without slots that nobody has used by then. -/
def unknown : Key := ⟨"new", ⟨0, .ofSeconds 60⟩⟩

end Latecomer

/-- After a shutdown a call is refused at once at the door that was in use, and one waits at the
    door that was not. -/
theorem calls_wait_after_shutdown :
    let shut := ((empty.run [.ensure Latecomer.known Instant.epoch]).1.step .closeAll).1
    (shut.run [.arrive Latecomer.known 0 Rush.request (.ofSeconds 30) Instant.epoch,
      .arrive Latecomer.unknown 1 Rush.request (.ofSeconds 30) Instant.epoch]).2 =
      [(Latecomer.known, .returned 0 false), (Latecomer.unknown, .parked 1)] := by
  decide +kernel

end Registry

end Turnstile
