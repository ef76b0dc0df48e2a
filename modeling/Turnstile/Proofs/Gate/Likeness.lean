import Turnstile.Proofs.Gate.Crossing

/-!
# Gates That Differ in Their Tickets

Tickets settle who is served first of two who agree in everything else, and for this it is
all the same which numbers they are. A gate that has once given out a ticket to somebody who
is gone gives out other tickets from then on, and nobody can tell.

Two gates are alike when they agree in everything but the tickets. Lines are compared by the
shapes of their entries in the order of service, and this is why the order in which tickets
are given out is enough: a new ticket is larger than all others, so that whoever joins comes
behind those of the same priority and arrival, whatever their tickets are.

## Main definitions

* `shape`: An entry apart from its ticket.
* `insertShape`: The place of a newcomer, told by shapes alone.
* `Gate.Alike`: Two gates agree in everything but tickets.

## Theorems

* `map_insertEntry`: A newcomer joins where its shape belongs.
* `alike_serves`: Serving entries of the same shapes.
* `toList_finish`: When a call ends, the entries of all others stay in line.
* `perform_alike`: Gates that are alike stay so, and the same is noticed.
* `counts_of_alike`, `minutes_of_alike`: They show the same numbers and have the same minutes.
-/

namespace Turnstile

/-- An entry apart from its ticket. -/
def shape (e : Place × Waiter) : Priority × Instant × Waiter :=
  (e.1.priority, e.1.arrived, e.2)

/-- What a call knows apart from its place. -/
def Caller.face (caller : Caller) : Instant × Option Bool :=
  (caller.deadline, caller.verdict)

/-- Put a newcomer behind all who are served before it and all who arrived with it. -/
def insertShape (s : Priority × Instant × Waiter) :
    List (Priority × Instant × Waiter) → List (Priority × Instant × Waiter)
  | [] => [s]
  | x :: rest =>
    if s.1 < x.1 ∨ s.1 = x.1 ∧ s.2.1 < x.2.1 then s :: x :: rest else x :: insertShape s rest

/-- A newcomer with a ticket beyond all others joins where its shape belongs. -/
theorem map_insertEntry (p : Place) (w : Waiter) (l : List (Place × Waiter))
    (hticket : ∀ e ∈ l, e.1.ticket < p.ticket) :
    (insertEntry p w l).map shape = insertShape (shape (p, w)) (l.map shape) := by
  induction l with
  | nil => rfl
  | cons e rest ih =>
      have hlt := hticket e List.mem_cons_self
      have hrest := ih fun x hx => hticket x (List.mem_cons_of_mem _ hx)
      -- The ticket of the newcomer is the larger one, and so never puts it in front.
      have hbefore : compare p e.1 = .lt ↔
          p.priority < e.1.priority ∨ p.priority = e.1.priority ∧ p.arrived < e.1.arrived :=
        Place.compare_eq_lt_iff_sooner hlt
      simp only [insertEntry, List.map_cons, insertShape, shape]
      split
      next hcompare =>
        rw [if_pos (hbefore.mp hcompare)]
        rfl
      next hcompare =>
        have hsame : p = e.1 := Std.LawfulEqOrd.eq_of_compare hcompare
        rw [hsame] at hlt
        exact absurd hlt (Nat.lt_irrefl _)
      next hcompare =>
        rw [if_neg fun h => Ordering.noConfusion ((hbefore.mpr h).symm.trans hcompare)]
        rw [List.map_cons, hrest]
        rfl

theorem servedOf_shape (now : Instant) (slots : Nat) {l m : List (Place × Waiter)}
    (h : l.map shape = m.map shape) :
    (servedOf now slots l).map shape = (servedOf now slots m).map shape := by
  induction l generalizing slots m with
  | nil =>
      cases m with
      | nil => rfl
      | cons e rest => exact nomatch h
  | cons e rest ih =>
      cases m with
      | nil => exact nomatch h
      | cons x others =>
          rw [List.map_cons, List.map_cons, List.cons.injEq] at h
          have hwaiter : e.2 = x.2 := congrArg (·.2.2) h.1
          cases slots with
          | zero => rw [servedOf_zero, servedOf_zero]
          | succ slots =>
              rw [servedOf, servedOf, List.map_cons, List.map_cons, h.1, hwaiter, ih _ h.2]

theorem exists_of_shape {l m : List (Place × Waiter)} (h : l.map shape = m.map shape)
    {e : Place × Waiter} (he : e ∈ l) : ∃ x ∈ m, shape x = shape e := by
  have hmem := List.mem_map_of_mem (f := shape) he
  rw [h] at hmem
  exact List.mem_map.mp hmem

namespace Gate

/-- Two gates agree in everything but tickets and wardens. -/
structure Alike (g h : Gate) : Prop where
  policy_eq : g.policy = h.policy
  window_eq : g.window = h.window
  admitted_eq : g.admitted = h.admitted
  closed_eq : g.closed = h.closed
  /-- The same wait in the same order. -/
  line_eq : g.line.toList.map shape = h.line.toList.map shape
  /-- Each call knows the same. -/
  callers_eq : ∀ call,
    (g.callers.find? call).map Caller.face = (h.callers.find? call).map Caller.face

variable {g g' h h' : Gate} {verdict : Waiter → Bool} {entries others : List (Place × Waiter)}
  {notices notices' : List Notice} {call : CallId} {caller : Caller}

theorem hasQuota_of_alike (h : g.Alike g') : g.hasQuota = g'.hasQuota := by
  rw [hasQuota, hasQuota, h.admitted_eq, h.policy_eq]

/-- A call is at both gates or at neither. -/
theorem find?_of_alike (halike : g.Alike h) (there : g.callers.find? call = some caller) :
    ∃ other, h.callers.find? call = some other ∧ other.face = caller.face := by
  have hface := halike.callers_eq call
  rw [there, Option.map_some] at hface
  exact Option.map_eq_some_iff.mp hface.symm

theorem find?_none_of_alike (halike : g.Alike h) (hnone : g.callers.find? call = none) :
    h.callers.find? call = none := by
  have hface := halike.callers_eq call
  rw [hnone, Option.map_none] at hface
  exact Option.map_eq_none_iff.mp hface.symm

/-- Serving entries of the same shapes leaves alike gates alike, and the same is noticed. -/
theorem alike_serves (halike : g.Alike h) (hg : Serves verdict entries g g' notices)
    (hh : Serves verdict others h h' notices') (hshape : entries.map shape = others.map shape) :
    g'.Alike h' ∧ notices = notices' := by
  constructor
  · constructor
    · rw [policy_of_serves hg, policy_of_serves hh, halike.policy_eq]
    · rw [window_of_serves hg, window_of_serves hh, halike.window_eq]
    · have hcount : ∀ l : List (Place × Waiter), l.countP (fun e => verdict e.2) =
          (l.map shape).countP fun s => verdict s.2.2 := fun l => by
        rw [List.countP_map]
        rfl
      rw [hg.admitted_eq, hh.admitted_eq, halike.admitted_eq, hcount, hcount, hshape]
    · rw [closed_of_serves hg, closed_of_serves hh, halike.closed_eq]
    · have hlines := halike.line_eq
      rw [hg.toList_eq, hh.toList_eq, List.map_append, List.map_append, hshape] at hlines
      exact List.append_cancel_left hlines
    · intro c
      -- The entry of a call is served at both gates or at neither.
      by_cases hserved : ∃ e ∈ entries, e.2.call = c
      · rcases hserved with ⟨e, he, rfl⟩
        rcases exists_of_shape hshape he with ⟨x, hx, hsame⟩
        have hwaiter : x.2 = e.2 := congrArg (·.2.2) hsame
        have hx' := hh.told.told x hx
        rw [hwaiter] at hx'
        rw [hg.told.told e he, hx']
        rfl
      · have hnone : ∀ e ∈ entries, e.2.call ≠ c := fun e he heq => hserved ⟨e, he, heq⟩
        have hnone' : ∀ x ∈ others, x.2.call ≠ c := by
          intro x hx heq
          rcases exists_of_shape hshape.symm hx with ⟨e, he, hsame⟩
          have hwaiter : e.2 = x.2 := congrArg (·.2.2) hsame
          exact hnone e he (hwaiter ▸ heq)
        rw [hg.told.untold c hnone, hh.told.untold c hnone', halike.callers_eq c]
  · have hmap : ∀ l : List (Place × Waiter), l.map (fun e => e.2.notice verdict) =
        (l.map shape).map fun s => s.2.2.notice verdict := fun l => by
      rw [List.map_map]
      rfl
    rw [hg.notices_eq, hh.notices_eq, hmap, hmap, hshape]

theorem alike_observed (halike : g.Alike h) (now : Instant) :
    (g.observed now).Alike (h.observed now) := by
  unfold observed
  rw [halike.policy_eq, halike.window_eq]
  split
  next => exact halike
  next =>
    exact ⟨rfl, rfl, rfl, halike.closed_eq, halike.line_eq, halike.callers_eq⟩

theorem roll_alike (hg : g.Paired) (hh : h.Paired) (halike : g.Alike h) (now : Instant) :
    (g.roll now).1.Alike (h.roll now).1 ∧ (g.roll now).2 = (h.roll now).2 := by
  refine alike_serves (alike_observed halike now) (roll_serves hg.attended now)
    (roll_serves hh.attended now) ?_
  unfold served
  rw [halike.policy_eq, halike.window_eq]
  split
  next => rfl
  next => exact servedOf_shape now _ halike.line_eq

/-- When a call ends, the entries of all others stay in line. -/
theorem toList_finish (hp : g.Paired) (there : g.callers.find? call = some caller) :
    (g.finish call caller.place).line.toList =
      g.line.toList.filter fun e => e.2.call != call := by
  change (g.line.leave caller.place).toList = _
  rw [Line.toList_leave_of_eq]
  refine List.filter_congr fun e he => ?_
  rw [Bool.eq_iff_iff, decide_eq_true_iff, bne_iff_ne]
  refine not_congr ⟨?_, ?_⟩
  · intro hplace
    rw [(entry_of_place hp there he hplace).1]
  · intro hcall
    have hcaller := hp.attended e he
    rw [hcall, there] at hcaller
    cases hcaller
    rfl

theorem finish_alike (hg : g.Paired) (hh : h.Paired) (halike : g.Alike h) {other : Caller}
    (there : g.callers.find? call = some caller) (there' : h.callers.find? call = some other) :
    (g.finish call caller.place).Alike (h.finish call other.place) := by
  refine ⟨halike.policy_eq, halike.window_eq, halike.admitted_eq, halike.closed_eq, ?_, fun c => ?_⟩
  · have hfilter : ∀ l : List (Place × Waiter), (l.filter fun e => e.2.call != call).map shape =
        (l.map shape).filter fun s => s.2.2.call != call := fun l => by
      rw [List.filter_map]
      rfl
    rw [toList_finish hg there, toList_finish hh there', hfilter, hfilter, halike.line_eq]
  · change ((g.callers.erase call).find? c).map _ = ((h.callers.erase call).find? c).map _
    rw [Table.find?_erase_of_eq, Table.find?_erase_of_eq]
    split
    next => rfl
    next => exact halike.callers_eq c

/-- A call is settled by what it knows. -/
theorem settle_alike (hg : g.Paired) (hh : h.Paired) (halike : g.Alike h) (call : CallId)
    (answer : Caller → Option Bool) (hanswer : ∀ a b, a.face = b.face → answer a = answer b) :
    (g.settle call answer).1.Alike (h.settle call answer).1 ∧
      (g.settle call answer).2 = (h.settle call answer).2 := by
  rcases settle_cases g call answer with hidle | ⟨caller, v, there, hv⟩
  · have hidle' : ∀ other, h.callers.find? call = some other → answer other = none := by
      intro other there'
      have hface := halike.callers_eq call
      rw [there', Option.map_some] at hface
      rcases Option.map_eq_some_iff.mp hface with ⟨caller, there, hsame⟩
      rw [← hanswer caller other hsame]
      exact hidle caller there
    rw [settle_of_none hidle, settle_of_none hidle']
    exact ⟨halike, rfl⟩
  · rcases find?_of_alike halike there with ⟨other, there', hsame⟩
    rw [settle_of_answer answer there hv,
      settle_of_answer answer there' ((hanswer other caller hsame).trans hv)]
    exact ⟨finish_alike hg hh halike there there', rfl⟩

theorem park_alike (hg : g.Paired) (hh : h.Paired) (halike : g.Alike h) (call : CallId)
    (request : Request) (deadline : Instant) :
    (g.park call request deadline).Alike (h.park call request deadline) := by
  have hjoin : ∀ k : Gate, k.Paired → (k.park call request deadline).line.toList.map shape =
      insertShape (request.priority, request.arrived, ⟨call, deadline⟩)
        (k.line.toList.map shape) := by
    intro k hk
    rw [park_line, Line.toList_join]
    exact map_insertEntry _ _ _ fun e he => hk.exact.ticket_lt e he
  refine ⟨?_, ?_, ?_, ?_, ?_, fun c => ?_⟩
  · rw [park_frame, park_frame h]
    exact halike.policy_eq
  · rw [park_frame, park_frame h]
    exact halike.window_eq
  · rw [park_frame, park_frame h]
    exact halike.admitted_eq
  · rw [park_frame, park_frame h]
    exact halike.closed_eq
  · rw [hjoin g hg, hjoin h hh, halike.line_eq]
  · rw [park_callers, park_callers, Table.find?_insert_of_eq, Table.find?_insert_of_eq]
    split
    next => rfl
    next => exact halike.callers_eq c

theorem receive_alike (hg : g.Paired) (hh : h.Paired) (halike : g.Alike h) (call : CallId)
    (request : Request) (ttl : Span) (now : Instant) :
    (g.receive call request ttl now).1.Alike (h.receive call request ttl now).1 ∧
      (g.receive call request ttl now).2 = (h.receive call request ttl now).2 := by
  unfold receive
  rw [halike.closed_eq, hasQuota_of_alike halike]
  split
  next =>
    refine ⟨⟨halike.policy_eq, halike.window_eq, ?_, rfl, halike.line_eq, halike.callers_eq⟩, rfl⟩
    exact congrArg (· + 1) halike.admitted_eq
  next =>
    split
    next => exact ⟨halike, rfl⟩
    next => exact ⟨park_alike hg hh halike call request _, rfl⟩

theorem close_alike (hg : g.Paired) (hh : h.Paired) (halike : g.Alike h) :
    g.close.1.Alike h.close.1 ∧ g.close.2 = h.close.2 := by
  cases hclosed : g.closed with
  | true =>
      have hclosed' : h.closed = true := halike.closed_eq.symm.trans hclosed
      have hnothing : ∀ k : Gate, k.closed = true → k.close = (k, []) := fun k hk => if_pos hk
      rw [hnothing g hclosed, hnothing h hclosed']
      exact ⟨halike, rfl⟩
  | false =>
      have hclosed' : h.closed = false := halike.closed_eq.symm.trans hclosed
      have hclosing : { g with closed := true : Gate }.Alike { h with closed := true } :=
        ⟨halike.policy_eq, halike.window_eq, halike.admitted_eq, rfl, halike.line_eq,
          halike.callers_eq⟩
      exact alike_serves hclosing (close_serves hg.attended hclosed)
        (close_serves hh.attended hclosed') halike.line_eq

/-- Gates that are alike stay so at a deed, and the same is noticed. -/
theorem perform_alike (hg : g.Paired) (hh : h.Paired) (halike : g.Alike h) (d : Deed) :
    (g.perform d).1.Alike (h.perform d).1 ∧ (g.perform d).2 = (h.perform d).2 := by
  cases d with
  | rollover now => exact roll_alike hg hh halike now
  | collect call =>
      change (g.collect call).1.Alike (h.collect call).1 ∧ (g.collect call).2 = (h.collect call).2
      rw [collect_eq hg, collect_eq hh]
      exact settle_alike hg hh halike call _ fun a b hface => congrArg (·.2) hface
  | drop call =>
      refine ⟨?_, rfl⟩
      change (g.drop call).Alike (h.drop call)
      unfold drop
      cases hfind : g.callers.find? call with
      | none =>
          rw [find?_none_of_alike halike hfind]
          exact halike
      | some caller =>
          rcases find?_of_alike halike hfind with ⟨other, hother, -⟩
          rw [hother]
          exact finish_alike hg hh halike hfind hother
  | close => exact close_alike hg hh halike
  | wake call now =>
      change (g.wake call now).1.Alike (h.wake call now).1 ∧
        (g.wake call now).2 = (h.wake call now).2
      cases hfind : g.callers.find? call with
      | none =>
          rw [wake_of_absent hfind, wake_of_absent (find?_none_of_alike halike hfind)]
          exact ⟨halike, rfl⟩
      | some caller =>
          rcases find?_of_alike halike hfind with ⟨other, hother, -⟩
          have hroll := roll_alike hg hh halike now
          have houtcome : ∀ a b : Caller, a.face = b.face → a.outcome now = b.outcome now := by
            intro a b hface
            injection hface with hdeadline hverdict
            rw [Caller.outcome, Caller.outcome, hdeadline, hverdict]
          have hsettle := settle_alike (paired_roll hg now) (paired_roll hh now) hroll.1 call
            (·.outcome now) houtcome
          rw [wake_eq hg hfind, wake_eq hh hother]
          exact ⟨hsettle.1, by rw [hroll.2, hsettle.2]⟩
  | arrive call request ttl now =>
      change (g.arrive call request ttl now).1.Alike (h.arrive call request ttl now).1 ∧
        (g.arrive call request ttl now).2 = (h.arrive call request ttl now).2
      cases hfind : g.callers.find? call with
      | some caller =>
          rcases find?_of_alike halike hfind with ⟨other, hother, -⟩
          rw [arrive_of_there hfind, arrive_of_there hother]
          exact ⟨halike, rfl⟩
      | none =>
          have hroll := roll_alike hg hh halike now
          have hreceive := receive_alike (paired_roll hg now) (paired_roll hh now) hroll.1 call
            request ttl now
          rw [arrive_eq hfind, arrive_eq (find?_none_of_alike halike hfind)]
          exact ⟨hreceive.1, by rw [hroll.2, hreceive.2]⟩

/-- Gates that are alike show the same numbers. -/
theorem counts_of_alike (hg : g.Paired) (hh : h.Paired) (halike : g.Alike h) :
    g.counts = h.counts := by
  have hwaiting : ∀ (k : Gate) (q : Priority), k.line.waiting q =
      (k.line.toList.map shape).countP fun s => s.1 == q := fun k q => by
    rw [List.countP_map]
    rfl
  refine Table.eq_of_find?_eq fun q => ?_
  rw [counts, counts, hg.exact.counts_eq, hh.exact.counts_eq, hwaiting, hwaiting, halike.line_eq]

/-- Gates that are alike have the same minutes, by induction on what is done. -/
theorem minutes_of_alike (hg : g.Sound) (hh : h.Sound) (halike : g.Alike h) (ds : List Deed) :
    g.minutes ds = h.minutes ds ∧ (g.performs ds).1.Alike (h.performs ds).1 := by
  induction ds generalizing g h with
  | nil => exact ⟨rfl, halike⟩
  | cons d ds ih =>
      have hg' := perform_sound hg d
      have hh' := perform_sound hh d
      have hfirst := perform_alike hg.toPaired hh.toPaired halike d
      have hrest := ih hg' hh' hfirst.1
      rw [minutes, minutes, hrest.1, hfirst.2, counts_of_alike hg'.toPaired hh'.toPaired hfirst.1]
      exact ⟨rfl, hrest.2⟩

end Gate

end Turnstile
