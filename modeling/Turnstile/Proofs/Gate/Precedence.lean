import Turnstile.Proofs.Gate.History
import Turnstile.Proofs.Gate.Passage

/-!
# Precedence in Line

Nobody in line is overtaken.

The line is sorted, so within one look at the window the served are served in order.
What has to be shown is that nothing upsets the order between two looks: an entry keeps
its place for as long as it waits, and whoever stands behind it is served only when the
line before has been served or has left. An entry leaves unserved in three ways. Its
timer finds its time over, and then it was over at every later reading as well. Its call
is given up. Or the gate closes, and then nobody is served any more.

The last rule of the order is to serve who began to wait first. Places carry tickets for
it, which nobody outside can see. `ParkedBefore` says the same of a run.

## Main definitions

* `Gate.ParkedBefore`: In a run, one place was taken before the other.
* `Gate.Precedes`: The order of service, as the requests and the run have it.

## Theorems

* `precedes_iff`: The order of service is the order of the places.
* `exists_departure`: An entry that is gone left at some moment.
* `served_of_granted`: An entry is given a slot when it is served in time.
* `served_before`: Who stands before a served entry is served, and before it.
* `no_overtaking`: Nobody in line is overtaken, neither by those behind nor by those who
  arrive.
-/

namespace Turnstile

namespace Gate

/-- One place is taken at a point of a run at which the other is not. -/
def ParkedBefore (g : Gate) (es : List Event) (p q : Place) : Prop :=
  ∃ pre post, es = pre ++ post ∧
    (g.run pre).1.line.contains p = true ∧ (g.run pre).1.line.contains q = false

/-- The order of service: smaller priorities first, among equal priorities earlier
    arrivals, among equal arrivals who began to wait first. -/
def Precedes (g : Gate) (es : List Event) (p q : Place) : Prop :=
  p.priority < q.priority ∨ p.priority = q.priority ∧
    (p.arrived < q.arrived ∨ p.arrived = q.arrived ∧ g.ParkedBefore es p q)

variable {g g' : Gate} {event : Event} {notices : List Notice} {a b e : Place × Waiter}

/-- Who began to wait first has the smaller ticket. -/
theorem ticket_lt_of_parkedBefore (h : g.Sound) {es : List Event} {p q : Place}
    (hbefore : g.ParkedBefore es p q) (hq : (g.run es).1.line.contains q = true) :
    p.ticket < q.ticket := by
  rcases hbefore with ⟨pre, post, rfl, hp, hout⟩
  have hmid := run_sound h pre
  rcases (Line.contains_iff _ _).mp hp with ⟨v, hv⟩
  have hticket : p.ticket < (g.run pre).1.line.nextTicket := hmid.exact.ticket_lt _ hv
  -- Had `q` been given out by then, it would have been left for good.
  by_cases hlater : (g.run pre).1.line.nextTicket ≤ q.ticket
  · omega
  · have hgone := not_contains_run hmid (Nat.not_le.mp hlater) hout post
    rw [run_append, hgone] at hq
    exact absurd hq Bool.false_ne_true

/-- Who has the smaller ticket began to wait first. -/
theorem parkedBefore_of_ticket_lt (h : g.Sound) {es : List Event} {p q : Place}
    (hout : g.line.contains q = false) (hp : (g.run es).1.line.contains p = true)
    (hq : (g.run es).1.line.contains q = true) (hticket : p.ticket < q.ticket) :
    g.ParkedBefore es p q := by
  -- The point that is asked for is the one just before `q` joins.
  induction es generalizing g with
  | nil =>
      rw [run, hout] at hq
      exact absurd hq Bool.false_ne_true
  | cons e es ih =>
      by_cases hjoins : (g.step e).1.line.contains q = true
      · -- The other joins at this event, with the next ticket, and `p` has an older one.
        rcases (Line.contains_iff _ _).mp hjoins with ⟨v, hv⟩
        have hnext : q.ticket = g.line.nextTicket := by
          rcases mem_of_move h (step_move g e) hv with hmem | ⟨_, _, _, _, -, heq⟩
          · exact absurd hmem (Line.not_mem_of_not_contains hout v)
          · rw [show q = _ from congrArg Prod.fst heq]
        rcases (Line.contains_iff _ _).mp hp with ⟨w, hw⟩
        have hold : p.ticket < g.line.nextTicket := by omega
        exact ⟨[], e :: es, rfl, Line.contains_of_mem (mem_of_run h hold hw), hout⟩
      · rcases ih (step_sound h e) (Bool.eq_false_iff.mpr hjoins) hp hq with
          ⟨pre, post, hsplit, htaken, hfree⟩
        exact ⟨e :: pre, post, by rw [hsplit, List.cons_append], htaken, hfree⟩

/-- The order of service is the order of the places. -/
theorem precedes_iff (policy : Policy) (first : Instant) {es : List Event} {p q : Place}
    (hp : ((start policy first).run es).1.line.contains p = true)
    (hq : ((start policy first).run es).1.line.contains q = true) :
    (start policy first).Precedes es p q ↔ p.Before q := by
  have hsound := sound_start policy first
  have hticket : (start policy first).ParkedBefore es p q ↔ p.ticket < q.ticket :=
    ⟨fun hbefore => ticket_lt_of_parkedBefore hsound hbefore hq,
      parkedBefore_of_ticket_lt hsound rfl hp hq⟩
  rw [Precedes, Place.Before, hticket]

/-- An entry that is gone after a run left at some moment of it. -/
theorem exists_departure (h : g.Sound) {es : List Event} (he : e ∈ g.line.toList)
    (hgone : (g.run es).1.line.contains e.1 = false) :
    ∃ m ∈ g.history es, e ∈ m.before.line.toList ∧ m.after.line.contains e.1 = false := by
  induction es generalizing g with
  | nil =>
      rw [run, Line.contains_of_mem he] at hgone
      exact absurd hgone.symm Bool.false_ne_true
  | cons event es ih =>
      by_cases hstays : (g.step event).1.line.contains e.1 = true
      · have hin : e ∈ (g.run [event]).1.line.toList := mem_run_of_contains h he hstays
        rcases ih (step_sound h event) hin hgone with ⟨m, hm, hbefore, hafter⟩
        exact ⟨m, List.mem_cons_of_mem _ hm, hbefore, hafter⟩
      · exact ⟨⟨g, event⟩, List.mem_cons_self, he, Bool.eq_false_iff.mpr hstays⟩

/-- A slot that is given away when the window is observed goes to an entry that is served
    in time. -/
theorem mem_served_of_granted (h : g.Paired) {now : Instant} {call : CallId}
    (hgrant : .granted call ∈ (g.roll now).2) :
    ∃ e ∈ g.served now, e.2.call = call ∧ now < e.2.deadline := by
  rw [roll_notices h] at hgrant
  rcases List.mem_map.mp hgrant with ⟨e, he, heq⟩
  unfold Waiter.notice at heq
  split at heq
  next htime => exact ⟨e, he, Notice.granted.inj heq, (e.2.onTime_iff now).mp htime⟩
  next => exact nomatch heq

/-- An entry in line is given a slot when it is served in time, and in no other way. -/
theorem served_of_granted (h : g.Sound) (hmove : g.Move event g' notices)
    (hb : b ∈ g.line.toList) (hgrant : .granted b.2.call ∈ notices) :
    ∃ now, event.reading? = some now ∧ .granted b.2.call ∈ (g.roll now).2 ∧
      b ∈ g.served now ∧ now < b.2.deadline := by
  have hrolled : ∀ now : Instant, .granted b.2.call ∈ (g.roll now).2 →
      b ∈ g.served now ∧ now < b.2.deadline := by
    intro now hmem
    rcases mem_served_of_granted h.toPaired hmem with ⟨e, he, hcall, htime⟩
    have hline := mem_of_mem_served h.toPaired he
    rw [← eq_of_call_eq h.attended hline hb hcall]
    exact ⟨he, htime⟩
  cases hmove with
  | nothing | wardenLook | wardenLost | drop => exact absurd hgrant List.not_mem_nil
  | collect => exact nomatch List.mem_singleton.mp hgrant
  | close isOpen =>
      rw [(close_serves h.attended isOpen).notices_eq] at hgrant
      rcases List.mem_map.mp hgrant with ⟨x, -, hx⟩
      exact nomatch hx
  | goOn | wardenWake => exact ⟨_, rfl, hgrant, hrolled _ hgrant⟩
  | shut | late | park | decided | expire =>
      rcases List.mem_append.mp hgrant with hmem | hmem
      · exact ⟨_, rfl, hmem, hrolled _ hmem⟩
      · exact nomatch List.mem_singleton.mp hmem
  | slot new =>
      rcases List.mem_append.mp hgrant with hmem | hmem
      · exact ⟨_, rfl, hmem, hrolled _ hmem⟩
      · -- The arriving call is a new one, and the entry has its call already.
        rcases List.mem_cons.mp hmem with heq | hmem
        · have hfind := h.attended b hb
          rw [Notice.granted.inj heq, new] at hfind
          exact nomatch hfind
        · exact nomatch List.mem_singleton.mp hmem

/-- Who stands before a served entry is served, and before it. -/
theorem served_before (h : g.Paired) {now : Instant} (ha : a ∈ g.line.toList)
    (hb : b ∈ g.served now) (hab : a.1.Before b.1) : [a, b].Sublist (g.served now) := by
  rcases List.append_of_mem hb with ⟨front, back, hsplit⟩
  have hline := roll_line h now
  have hasc := g.line.ascending_toList
  have hlt := (Place.compare_eq_lt_iff a.1 b.1).mpr hab
  rw [hline, hsplit, List.append_assoc] at ha hasc
  rw [hsplit]
  -- The one before is in front of the served entry, or the line would not ascend.
  rcases List.mem_append.mp ha with hfront | hrest
  · exact (List.singleton_sublist.mpr hfront).append
      (List.singleton_sublist.mpr List.mem_cons_self)
  rcases List.mem_cons.mp hrest with rfl | hback
  · exact absurd hlt (compare_self_ne_lt a.1)
  · have hgt := (List.pairwise_cons.mp (List.pairwise_append.mp hasc).2.1).1 a hback
    rw [Std.OrientedCmp.gt_of_lt hgt] at hlt
    exact Ordering.noConfusion hlt

/-- Of two that are served in time at one look, the first has its slot first. -/
theorem granted_before (h : g.Paired) {now : Instant} (hab : [a, b].Sublist (g.served now))
    (ha : now < a.2.deadline) (hb : now < b.2.deadline) :
    [.granted a.2.call, .granted b.2.call].Sublist (g.roll now).2 := by
  have hnotices := hab.map fun e => e.2.notice (·.onTime now)
  rw [← roll_notices h, List.map_cons, List.map_cons, List.map_nil] at hnotices
  rw [Waiter.notice, if_pos ((a.2.onTime_iff now).mpr ha), Waiter.notice,
    if_pos ((b.2.onTime_iff now).mpr hb)] at hnotices
  exact hnotices

/-- An entry that left before an event while others still wait was given a slot when it
    left, if its time is not over at the event and its call was not given up in line. -/
theorem granted_of_departure (h : g.Sound) {first : Instant} {es fs : List Event}
    (htimely : Timely first (es ++ fs ++ [event])) {now : Instant}
    (hnow : event.reading? = some now) (ha : a ∈ g.line.toList)
    (hgone : (g.run fs).1.line.contains a.1 = false) (hwaiting : (g.run fs).1.line.toList ≠ [])
    (hintime : now < a.2.deadline)
    (hkept : ∀ m ∈ g.history fs, m.event = .drop a.2.call →
      m.before.line.contains a.1 = false) :
    ∃ m ∈ g.history fs, ∃ t, m.event.reading? = some t ∧
      m.before.line.contains a.1 = true ∧ m.after.line.contains a.1 = false ∧
      .granted a.2.call ∈ (m.before.roll t).2 := by
  rcases exists_departure h ha hgone with ⟨m, hm, hbefore, hafter⟩
  have hsound := sound_of_mem_history h hm
  have hin := Line.contains_of_mem hbefore
  have hmove : m.before.Move m.event m.after m.notices := step_move m.before m.event
  -- No reading of the run so far is later than that of the event.
  have hle : ∀ t, m.event.reading? = some t → t ≤ now := by
    intro t ht
    have hmem := List.mem_append_right es (event_mem_of_mem_history hm)
    exact le_of_timely htimely hmem List.mem_cons_self ht hnow
  have hleaves := leaves_of_move hsound hmove hbefore hafter
  generalize hevent : m.event = e' at hleaves hle
  generalize m.notices = notices at hleaves
  -- Of the four ways to leave, the other three are ruled out by what is given.
  cases hleaves with
  | @served _ t _ reading turn =>
      have htime : t < a.2.deadline := Int.lt_of_le_of_lt (hle t reading) hintime
      refine ⟨m, hm, t, hevent ▸ reading, hin, hafter, ?_⟩
      rw [roll_notices hsound.toPaired]
      refine List.mem_map.mpr ⟨a, turn, ?_⟩
      rw [Waiter.notice, if_pos ((a.2.onTime_iff t).mpr htime)]
  | @expired t _ timeUp =>
      have hlate : a.2.deadline ≤ now := Int.le_trans timeUp (hle t rfl)
      exact absurd hintime (Int.not_lt.mpr hlate)
  | dropped =>
      rw [hkept m hm hevent] at hin
      exact absurd hin Bool.false_ne_true
  | closed isOpen =>
      -- A closed gate has nobody in line ever after.
      rcases exists_split_of_mem_history hm with ⟨pre, post, rfl, hpre⟩
      have hclosed : m.after.closed = true := by
        rw [Moment.after, hevent]
        exact closed_of_serves (close_serves hsound.attended isOpen)
      have hlater := run_sound (step_sound hsound m.event) post
      have hend := run_closed (step_sound hsound m.event) hclosed post
      rw [run_append, run_cons, ← hpre] at hwaiting
      exact absurd (toList_eq_nil_of_closed hlater hend) hwaiting

/-- An arriving call takes a slot at once when nobody is left in line: all who were there
    when it arrived were served before. -/
theorem arrival_last (h : g.Sound) {call : CallId} {request : Request} {ttl : Span}
    {now : Instant} (hmove : g.Move (.arrive call request ttl now) g' notices)
    (hreturned : .returned call true ∈ notices) (ha : a ∈ g.line.toList) :
    (g.roll now).1.line.contains a.1 = false ∧
      a.2.notice (·.onTime now) ∈ (g.roll now).2 ∧
      notices = (g.roll now).2 ++ [.granted call, .returned call true] := by
  cases hmove with
  | nothing => exact absurd hreturned List.not_mem_nil
  | slot new isOpen quota =>
      have hnobody := toList_eq_nil_of_hasQuota (sound_roll h now) quota
      have hgone : (g.roll now).1.line.contains a.1 = false := by
        refine (Line.contains_eq_false_iff _ _).mpr fun w hw => ?_
        rw [hnobody] at hw
        exact List.not_mem_nil hw
      refine ⟨hgone, ?_, rfl⟩
      rw [roll_notices h.toPaired]
      exact List.mem_map_of_mem (mem_served_of_not_contains h.toPaired ha hgone)
  | shut | late | park =>
      exact nomatch List.mem_singleton.mp (mem_of_returned h.toPaired hreturned)

/-- **Nobody is overtaken.** Of two in line, let the one that is behind be given a slot
    later in a run whose readings never go back. The event that does so observes the
    window, and once it has, the one before is no longer in line. If its time is not over
    at that reading and its call was not given up in line, it was given a slot itself, at
    an earlier look at the window or before the other at this one. And an arriving call
    takes a slot at once only after all in line were decided. -/
theorem no_overtaking (policy : Policy) (first : Instant) (es : List Event) :
    let g := ((start policy first).run es).1
    (∀ fs event a b, Timely first (es ++ fs ++ [event]) →
      a ∈ g.line.toList → b ∈ g.line.toList → (start policy first).Precedes es a.1 b.1 →
      b ∈ (g.run fs).1.line.toList → .granted b.2.call ∈ ((g.run fs).1.step event).2 →
      ∃ now, event.reading? = some now ∧
        .granted b.2.call ∈ ((g.run fs).1.roll now).2 ∧
        ((g.run fs).1.roll now).1.line.contains a.1 = false ∧
        (now < a.2.deadline →
          (∀ m ∈ g.history fs, m.event = .drop a.2.call →
            m.before.line.contains a.1 = false) →
          (∃ m ∈ g.history fs, ∃ t, m.event.reading? = some t ∧
            m.before.line.contains a.1 = true ∧ m.after.line.contains a.1 = false ∧
            .granted a.2.call ∈ (m.before.roll t).2) ∨
          [.granted a.2.call, .granted b.2.call].Sublist ((g.run fs).1.roll now).2)) ∧
    (∀ a ∈ g.line.toList, ∀ call request ttl now,
      .returned call true ∈ (g.step (.arrive call request ttl now)).2 →
      (g.roll now).1.line.contains a.1 = false ∧ ∃ before,
        (g.step (.arrive call request ttl now)).2 =
          before ++ [.granted call, .returned call true] ∧
        (.granted a.2.call ∈ before ∨ .denied a.2.call ∈ before)) := by
  intro g
  have hsound : g.Sound := sound_of_start policy first es
  constructor
  · intro fs event a b htimely ha hb hprecedes hstays hgrant
    have hbefore : a.1.Before b.1 := (precedes_iff policy first (Line.contains_of_mem ha)
      (Line.contains_of_mem hb)).mp hprecedes
    have hsound' := run_sound hsound fs
    rcases served_of_granted hsound' (step_move _ event) hstays hgrant with
      ⟨now, hnow, hrolled, hserved, htime⟩
    refine ⟨now, hnow, hrolled, ?_⟩
    by_cases hwaits : (g.run fs).1.line.contains a.1 = true
    · -- Both are in line at the event, so one look serves both.
      have hin := mem_run_of_contains hsound ha hwaits
      have hfirst := served_before hsound'.toPaired hin hserved hbefore
      have haserved := hfirst.subset List.mem_cons_self
      refine ⟨not_contains_of_serves (roll_serves hsound'.attended now) haserved, ?_⟩
      exact fun hintime _ => Or.inr (granted_before hsound'.toPaired hfirst hintime htime)
    · -- The one before is gone already, and does not come back.
      have hgone := Bool.eq_false_iff.mpr hwaits
      refine ⟨Line.not_contains_of_subset (fun _ hw => ?_) hgone, ?_⟩
      · exact mem_of_mem_roll hsound'.toPaired hw
      · exact fun hintime hkept => Or.inl (granted_of_departure hsound htimely hnow ha hgone
          (List.ne_nil_of_mem hstays) hintime hkept)
  · intro a ha call request ttl now hreturned
    rcases arrival_last hsound (step_move g _) hreturned ha with ⟨hgone, hmem, hnotices⟩
    refine ⟨hgone, _, hnotices, ?_⟩
    unfold Waiter.notice at hmem
    split at hmem
    · exact Or.inl hmem
    · exact Or.inr hmem

/-- In the rush the two in line are alike, and who began to wait first goes first. -/
theorem no_overtaking_in_rush :
    Timely Instant.epoch (Rush.arrivals ++ Rush.turn ++ [.wardenWake 0 Rush.third]) ∧
    (start Rush.policy Instant.epoch).Precedes Rush.arrivals Rush.ahead.1 Rush.behind.1 ∧
    .granted 2 ∈ ((Rush.crowd.run Rush.turn).1.step (.wardenWake 0 Rush.third)).2 ∧
    ((∃ m ∈ Rush.crowd.history Rush.turn, ∃ t, m.event.reading? = some t ∧
      m.before.line.contains Rush.ahead.1 = true ∧
      m.after.line.contains Rush.ahead.1 = false ∧ .granted 1 ∈ (m.before.roll t).2) ∨
    [.granted 1, .granted 2].Sublist ((Rush.crowd.run Rush.turn).1.roll Rush.third).2) := by
  have htimely : Timely Instant.epoch
      (Rush.arrivals ++ Rush.turn ++ [.wardenWake 0 Rush.third]) := by decide
  have hprecedes : (start Rush.policy Instant.epoch).Precedes Rush.arrivals Rush.ahead.1
      Rush.behind.1 := by
    refine Or.inr ⟨rfl, Or.inr ⟨rfl, Rush.arrivals.take 2, Rush.arrivals.drop 2, rfl, ?_, ?_⟩⟩
    · decide
    · decide
  have hgrant : .granted 2 ∈
      ((Rush.crowd.run Rush.turn).1.step (.wardenWake 0 Rush.third)).2 := by decide
  rcases (no_overtaking Rush.policy Instant.epoch Rush.arrivals).1 Rush.turn
    (.wardenWake 0 Rush.third) Rush.ahead Rush.behind htimely (by decide) (by decide)
    hprecedes (by decide) hgrant with ⟨now, hnow, -, -, hslot⟩
  cases hnow
  refine ⟨htimely, hprecedes, hgrant, hslot (by decide) fun m hm hdrop => ?_⟩
  have hmem := event_mem_of_mem_history hm
  rw [hdrop] at hmem
  exact absurd hmem (by decide)

end Gate

end Turnstile
