import Turnstile.Proofs.Gate.Sound

/-!
# Histories

A run tells where a gate ends and what was noticed on the way, but not when. For
statements about when things happen a run is laid out as its history: the moments of
the run in order, each with the event and the gate it happened to. What the event came
to can be computed from these, so a moment holds nothing else.

A history is timely when the readings of its clock never go back. The gate itself
never asks for this.

## Main definitions

* `Moment`: An event and the gate it happens to.
* `Gate.history`: The moments of a run.
* `Timely`: Readings that never go back, from a first one on.
* `Rush`: A short run with everything in it, for examples.

## Theorems

* `history_append`: A history is that of one part of a run and then of the other.
* `exists_split_of_mem_history`: A moment comes after a part of the run.
* `split_of_history`: What is before and after a moment are the histories of two parts.
* `sound_of_mem_history`: Every gate of a history in use is sound.
* `timely_step`: What follows an event is timely from its reading on.
* `le_of_timely`: Of two readings the later one is not smaller.
-/

namespace Turnstile

/-- An event of a run and the gate it happens to. -/
structure Moment where
  /-- The gate before the event. -/
  before : Gate
  /-- The event. -/
  event : Event

namespace Moment

/-- The gate after the event. -/
def after (m : Moment) : Gate := (m.before.step m.event).1

/-- What the event came to. -/
def notices (m : Moment) : List Notice := (m.before.step m.event).2

end Moment

namespace Gate

/-- The moments of a run. -/
def history (g : Gate) : List Event → List Moment
  | [] => []
  | e :: es => ⟨g, e⟩ :: (g.step e).1.history es

theorem history_append (g : Gate) (es fs : List Event) :
    g.history (es ++ fs) = g.history es ++ (g.run es).1.history fs := by
  induction es generalizing g with
  | nil => rfl
  | cons e es ih => rw [List.cons_append, history, ih, history, run_cons, List.cons_append]

theorem history_split (g : Gate) (fs : List Event) (e : Event) (gs : List Event) :
    g.history (fs ++ e :: gs) =
      g.history fs ++ ⟨(g.run fs).1, e⟩ :: (⟨(g.run fs).1, e⟩ : Moment).after.history gs :=
  history_append g fs (e :: gs)

/-- A moment of a run comes after a part of it. -/
theorem exists_split_of_mem_history {g : Gate} {es : List Event} {m : Moment}
    (h : m ∈ g.history es) :
    ∃ pre post, es = pre ++ m.event :: post ∧ m.before = (g.run pre).1 := by
  induction es generalizing g with
  | nil => exact absurd h List.not_mem_nil
  | cons e es ih =>
      -- The first moment comes after nothing, any other after a part of the rest.
      rcases List.mem_cons.mp h with rfl | hmem
      · exact ⟨[], es, rfl, rfl⟩
      · rcases ih hmem with ⟨pre, post, hsplit, hbefore⟩
        exact ⟨e :: pre, post, by rw [hsplit, List.cons_append], hbefore⟩

/-- The moments before and after a moment are those of two parts of the run. -/
theorem split_of_history {g : Gate} {es : List Event} {pre post : List Moment} {m : Moment}
    (h : g.history es = pre ++ m :: post) :
    ∃ fs gs, es = fs ++ m.event :: gs ∧ pre = g.history fs ∧ m.before = (g.run fs).1 ∧
      post = m.after.history gs := by
  induction pre generalizing g es with
  | nil =>
      cases es with
      | nil => exact nomatch h
      | cons e es =>
          cases h
          exact ⟨[], es, rfl, rfl, rfl, rfl⟩
  | cons x pre ih =>
      cases es with
      | nil => exact nomatch h
      | cons e es =>
          rcases List.cons.inj h with ⟨rfl, hrest⟩
          rcases ih hrest with ⟨fs, gs, hes, hpre, hbefore, hpost⟩
          exact ⟨e :: fs, gs, by rw [hes, List.cons_append], by rw [hpre, history], hbefore, hpost⟩

theorem event_mem_of_mem_history {g : Gate} {es : List Event} {m : Moment}
    (h : m ∈ g.history es) : m.event ∈ es := by
  rcases exists_split_of_mem_history h with ⟨pre, post, hsplit, -⟩
  rw [hsplit]
  exact List.mem_append_right _ List.mem_cons_self

theorem sound_of_mem_history {g : Gate} (h : g.Sound) {es : List Event} {m : Moment}
    (hm : m ∈ g.history es) : m.before.Sound := by
  rcases exists_split_of_mem_history hm with ⟨pre, -, -, hbefore⟩
  rw [hbefore]
  exact run_sound h pre

theorem policy_of_mem_history {g : Gate} (h : g.Sound) {es : List Event} {m : Moment}
    (hm : m ∈ g.history es) : m.before.policy = g.policy := by
  rcases exists_split_of_mem_history hm with ⟨fs, -, -, hbefore⟩
  rw [hbefore, run_policy h]

end Gate

/-- The readings of events never go back, and never behind a first one. -/
def Timely (first : Instant) (es : List Event) : Prop :=
  (first :: es.filterMap Event.reading?).Pairwise (· ≤ ·)

instance (first : Instant) (es : List Event) : Decidable (Timely first es) :=
  inferInstanceAs (Decidable (List.Pairwise _ _))

/-- The readings that follow an event are not behind its own. -/
theorem timely_step {first : Instant} {e : Event} {es : List Event}
    (h : Timely first (e :: es)) :
    (∀ now, e.reading? = some now → first ≤ now) ∧ Timely (e.reading?.getD first) es := by
  unfold Timely at h ⊢
  cases hreading : e.reading? with
  | none =>
      rw [List.filterMap_cons_none hreading] at h
      exact ⟨fun _ hnow => (nomatch hnow), h⟩
  | some now =>
      rw [List.filterMap_cons_some hreading] at h
      have hc := List.pairwise_cons.mp h
      refine ⟨fun other hother => ?_, hc.2⟩
      cases hother
      exact hc.1 now List.mem_cons_self

/-- Of two readings the later one is not smaller. -/
theorem le_of_timely {first : Instant} {pre post : List Event} {e f : Event}
    {now later : Instant} (h : Timely first (pre ++ post)) (he : e ∈ pre) (hf : f ∈ post)
    (hnow : e.reading? = some now) (hlater : f.reading? = some later) : now ≤ later := by
  rw [Timely, List.filterMap_append] at h
  refine (List.pairwise_append.mp (List.pairwise_cons.mp h).2).2.2 now ?_ later ?_
  · exact List.mem_filterMap.mpr ⟨e, he, hnow⟩
  · exact List.mem_filterMap.mpr ⟨f, hf, hlater⟩

namespace Rush

/-- A policy of one slot a second. -/
def policy : Policy := ⟨1, .ofSeconds 1⟩

/-- What every call of the rush asks for. -/
def request : Request where
  id := "rush"
  priority := 0
  arrived := Instant.epoch

/-- The beginning of the second window. -/
def second : Instant := ⟨1000000000, by decide, by decide⟩

/-- The beginning of the third window. -/
def third : Instant := ⟨2000000000, by decide, by decide⟩

/-- Three calls arrive at once; one of them has the slot, and the others wait. -/
def arrivals : List Event :=
  [.arrive 0 request (.ofSeconds 5) Instant.epoch,
    .arrive 1 request (.ofSeconds 5) Instant.epoch,
    .arrive 2 request (.ofSeconds 5) Instant.epoch]

/-- The warden gives the slot of the second window to one of them. -/
def turn : List Event :=
  [.wardenLook 0, .wardenWake 0 second, .wardenLook 0]

/-- The gate once they have arrived. -/
def crowd : Gate := ((Gate.start policy Instant.epoch).run arrivals).1

/-- Who began to wait first. -/
def ahead : Place × Waiter :=
  (⟨0, Instant.epoch, 0⟩, ⟨1, request.deadline (.ofSeconds 5)⟩)

/-- Who began to wait second, and is like the first otherwise. -/
def behind : Place × Waiter :=
  (⟨0, Instant.epoch, 1⟩, ⟨2, request.deadline (.ofSeconds 5)⟩)

end Rush

end Turnstile
