import Turnstile.Proofs.Desk.Dockets
import Turnstile.Proofs.Gateway.Book
import Turnstile.Proofs.Metrics

/-!
# The Tally of Decisions

What the counter of a desk says about the requests that were decided.

The desk counts a request when it answers it, under the remedy and the priority that stand on
its docket. Whether these are the ones that the request came in with, and whether every
request that a gate decided is answered, is not told by the counter. So a book is kept beside
the run, as for a gateway: it has for each number what its last new request asks for, and each
answer is entered with it. The counter is then what comes of counting the entries of the
book, once each. Nothing else is counted.

This does not make the counter right for each remedy and priority, since different decisions
may share a sample.

## Main definitions

* `Desk.Entry`: An answer with what its request asked for.
* `Desk.entered`, `Desk.entries`, `Desk.bookOf`: The book of a desk.
* `Desk.notices`, `Desk.noticesOf`: What the gates notice at a step, and in a run.
* `Desk.Accounts`: The book accounts for the counter, and for every return.
* `Gateway.deskSteps`: What a run of a gateway is to its desk.
* `Twins`: Two remedies whose counts fall together, for examples.

## Theorems

* `accounted_step`, `accounted_run`: The book accounts for a step, and for a run.
* `step_of_unknown`, `desk_of_run`: The desk of a gateway is a desk, and hears nothing of remedies
  that the gateway has not.
* `decisions_are_counted_once`: Every decision is counted once, and nothing else is.
* `decisions_share_a_count`: Decisions on different remedies share a count.
-/

namespace Turnstile

namespace Desk

/-! ### The book -/

/-- An answer with what its request asked for. -/
structure Entry where
  /-- The number of the request. -/
  call : CallId
  /-- What the last new request of this number asks for, if one asks for a remedy with a
      rule. -/
  docket : Option Docket
  /-- The answer. -/
  ruling : Ruling

namespace Entry

/-- What is counted of an answer; an error is not counted. -/
def decision? (e : Entry) : Option Decision :=
  match e.ruling with
  | .ok action => e.docket.map fun k => ⟨k.remedy, k.priority, action.isPass⟩
  | .error _ => none

/-- The verdict that an answer passes on; an error passes on none. -/
def verdict? (e : Entry) : Option (CallId × Bool) :=
  match e.ruling with
  | .ok action => some (e.call, action.isPass)
  | .error _ => none

/-- The answer is one that its request may have. -/
def IsFair (e : Entry) : Prop :=
  ∀ action, e.ruling = .ok action →
    ∃ docket, e.docket = some docket ∧
      (action = .pass ∨ action = .tooManyRequests docket.rejectStatus)

end Entry

/-- What is asked for after a step. A number that has a docket is no new request. -/
def entered (d : Desk) (asked : Table CallId Docket) : Step → Table CallId Docket
  | .request call remedy _ headers _ =>
    match remedy.rule with
    | none => asked
    | some rule =>
      if d.dockets.contains call then asked
      else asked.insert call (docketOf remedy rule headers)
  | _ => asked

/-- The answers of a step with what their requests asked for. -/
def entries (d : Desk) (asked : Table CallId Docket) (s : Step) : List Entry :=
  (d.step s).2.map fun a => ⟨a.1, (d.entered asked s).find? a.1, a.2⟩

/-- The answers of a run with what their requests asked for, when something was asked before. -/
def bookOf (d : Desk) (asked : Table CallId Docket) : List Step → List Entry
  | [] => []
  | s :: ss => d.entries asked s ++ (d.step s).1.bookOf (d.entered asked s) ss

/-- What the gates notice at a step. -/
def notices (d : Desk) (s : Step) : List (Key × Notice) :=
  match d.registryStep? s with
  | some rs => (d.registry.step rs).2
  | none => []

/-- What the gates notice in a run. -/
def noticesOf (d : Desk) : List Step → List (Key × Notice)
  | [] => []
  | s :: ss => d.notices s ++ (d.step s).1.noticesOf ss

/-- What stands on a docket is what was asked for. -/
def Booked (dockets asked : Table CallId Docket) : Prop :=
  ∀ call docket, dockets.find? call = some docket → asked.find? call = some docket

variable {d : Desk} {dockets asked : Table CallId Docket} {call : CallId}

theorem booked_erase (h : Booked dockets asked) (call : CallId) :
    Booked (dockets.erase call) asked := by
  intro other docket hfind
  rw [Table.find?_erase_of_eq] at hfind
  split at hfind
  next => exact nomatch hfind
  next => exact h other docket hfind

theorem booked_insert (h : Booked dockets asked) (call : CallId) (docket : Docket) :
    Booked (dockets.insert call docket) (asked.insert call docket) := by
  intro other docket' hfind
  rw [Table.find?_insert_of_eq] at hfind ⊢
  split at hfind
  next heq => exact (if_pos heq).trans hfind
  next hne => exact (if_neg hne).trans (h other docket' hfind)

/-- A docket is made out for what a request asks for. -/
theorem booked_prepared (h : Booked d.dockets asked) (s : Step) :
    Booked (d.prepared s) (d.entered asked s) := by
  cases s with
  | request call remedy id headers now =>
      simp only [prepared, entered]
      cases remedy.rule with
      | none => exact h
      | some rule =>
          simp only []
          split
          · exact h
          · exact booked_insert h call _
  | closeAll => exact h
  | gate key event =>
      cases event with
      | drop call =>
          simp only [prepared, entered]
          split
          · exact booked_erase h call
          · exact h
      | arrive | wake | collect | wardenWake | wardenLook | wardenLost | close | read => exact h

/-- The dockets stay as they are at a step that does nothing at the gates. -/
theorem prepared_of_none {s : Step} (hs : d.registryStep? s = none) :
    d.prepared s = d.dockets := by
  cases s with
  | request call remedy id headers now =>
      simp only [registryStep?, prepared] at hs ⊢
      cases hrule : remedy.rule with
      | none => rfl
      | some rule =>
          rw [hrule] at hs
          simp only [] at hs ⊢
          by_cases hthere : d.dockets.contains call = true
          · exact if_pos hthere
          · cases (if_neg hthere).symm.trans hs
  | closeAll => rfl
  | gate key event =>
      cases event with
      | drop call =>
          simp only [registryStep?, prepared] at hs ⊢
          by_cases hthere : (d.registry.find? key).any (·.callers.contains call) = true
          · cases (if_pos hthere).symm.trans hs
          · exact if_neg hthere
      | arrive | wake | collect | wardenWake | wardenLook | wardenLost | close | read => rfl

theorem isPass_of_verdict (v : Bool) (status : UInt16) :
    Action.isPass (if v then .pass else .tooManyRequests status) = v := by
  cases v <;> rfl

/-- The book accounts for a desk after some steps: for its counter, for what its gates
    returned, and for what stands on its dockets. -/
structure Accounts (d : Desk) (asked : Table CallId Docket) (heard : List (Key × Notice))
    (book : List Entry) (later : Desk) (askedLater : Table CallId Docket) : Prop where
  /-- The counter has counted the entries. -/
  counted : later.outcomes = d.outcomes.tally (book.filterMap Entry.decision?)
  /-- The entries pass on what the gates returned. -/
  passed : returns heard = book.filterMap Entry.verdict?
  /-- Each answer is one that its request may have. -/
  fair : ∀ e ∈ book, e.IsFair
  /-- What stands on a docket was asked for. -/
  booked : Booked later.dockets askedLater

/-- The book accounts for one step. -/
theorem accounted_step (h : Known d.registry d.dockets) (hbooked : Booked d.dockets asked)
    (s : Step) :
    Accounts d asked (d.notices s) (d.entries asked s) (d.step s).1 (d.entered asked s) := by
  have hprepared := booked_prepared hbooked s
  unfold entries notices
  rw [step_eq]
  cases hs : d.registryStep? s with
  | none =>
      rw [prepared_of_none hs] at hprepared
      -- All that is answered here is an error.
      have herror : ∀ a ∈ refused s, ∃ reason, a.2 = .error reason := by
        intro a ha
        unfold refused at ha
        split at ha
        · split at ha
          · rw [List.mem_singleton.mp ha]
            exact ⟨_, rfl⟩
          · exact absurd ha List.not_mem_nil
        · exact absurd ha List.not_mem_nil
      refine ⟨?_, ?_, fun e he action hok => ?_, hprepared⟩
      · rw [List.filterMap_map, List.filterMap_eq_nil_iff.mpr]
        · rfl
        · intro a ha
          rcases herror a ha with ⟨reason, heq⟩
          simp only [Function.comp, Entry.decision?, heq]
      · rw [List.filterMap_map, List.filterMap_eq_nil_iff.mpr]
        · rfl
        · intro a ha
          rcases herror a ha with ⟨reason, heq⟩
          simp only [Function.comp, Entry.verdict?, heq]
      · rcases List.mem_map.mp he with ⟨a, ha, rfl⟩
        rcases herror a ha with ⟨reason, heq⟩
        exact nomatch heq.symm.trans hok
  | some rs =>
      have hfits := fits_of_step h hs
      rcases queue_of_fits (d := { d with dockets := d.prepared s }) hfits with
        ⟨hreturns, hqueue⟩ | ⟨call, v, docket, hreturns, hdocket, hqueue⟩
      · simp only [hqueue]
        exact ⟨rfl, hreturns, fun e he => absurd he List.not_mem_nil, hprepared⟩
      · -- One call is answered, from a docket with what was asked for.
        have hasked := hprepared call docket hdocket
        simp only [hqueue]
        refine ⟨?_, ?_, fun e he action hok => ?_, booked_erase hprepared call⟩
        · simp only [List.map_cons, List.map_nil, List.filterMap_cons, List.filterMap_nil,
            Entry.decision?, hasked, Option.map_some, isPass_of_verdict]
          rfl
        · simp only [List.map_cons, List.map_nil, List.filterMap_cons, List.filterMap_nil,
            Entry.verdict?, isPass_of_verdict, hreturns]
        · rw [List.map_cons, List.map_nil, List.mem_singleton] at he
          subst he
          refine ⟨docket, hasked, ?_⟩
          cases v with
          | true => exact Or.inl (Except.ok.inj hok).symm
          | false => exact Or.inr (Except.ok.inj hok).symm

theorem run_cons (d : Desk) (s : Step) (ss : List Step) :
    d.run (s :: ss) = (((d.step s).1.run ss).1, (d.step s).2 ++ ((d.step s).1.run ss).2) :=
  rfl

/-- The book has every answer of a run and no others. -/
theorem answers_of_book (d : Desk) (asked : Table CallId Docket) (ss : List Step) :
    (d.bookOf asked ss).map (fun e => (e.call, e.ruling)) = (d.run ss).2 := by
  induction ss generalizing d asked with
  | nil => rfl
  | cons s ss ih =>
      rw [bookOf, List.map_append, ih, run_cons, entries, List.map_map]
      exact congrArg (· ++ _) (List.map_id'' (fun _ => rfl) _)

/-- The book accounts for a run, by induction on its steps. -/
theorem accounted_run (h : Known d.registry d.dockets) (hbooked : Booked d.dockets asked)
    (ss : List Step) :
    ∃ askedLater, Accounts d asked (d.noticesOf ss) (d.bookOf asked ss) (d.run ss).1
      askedLater := by
  induction ss generalizing d asked with
  | nil => exact ⟨asked, rfl, rfl, fun e he => absurd he List.not_mem_nil, hbooked⟩
  | cons s ss ih =>
      have hfirst := accounted_step h hbooked s
      rcases ih (known_step h s) hfirst.booked with ⟨askedLater, hrest⟩
      refine ⟨askedLater, ?_, ?_, fun e he => ?_, hrest.booked⟩
      · rw [run_cons, hrest.counted, hfirst.counted, bookOf, List.filterMap_append,
          Outcomes.tally_append]
      · rw [noticesOf, returns, List.filterMap_append, ← returns, ← returns, hfirst.passed,
          hrest.passed, bookOf, List.filterMap_append]
      · rcases List.mem_append.mp he with hin | hin
        · exact hfirst.fair e hin
        · exact hrest.fair e hin

/-- A request that is given up is neither answered nor counted. -/
theorem step_drop (d : Desk) (key : Key) (call : CallId) :
    (d.step (.gate key (.drop call))).2 = [] ∧
      (d.step (.gate key (.drop call))).1.outcomes = d.outcomes := by
  simp only [step]
  split
  next hthere =>
    rcases (Option.any_eq_true _ _).mp hthere with ⟨gate, hgate, -⟩
    have hquiet : returns (d.registry.step (.gate key (.drop call))).2 = [] := by
      rw [Registry.step_gate_of_find? hgate]
      rfl
    rw [queue_of_quiet { d with dockets := d.dockets.erase call } hquiet]
    exact ⟨rfl, rfl⟩
  next => exact ⟨rfl, rfl⟩

end Desk

/-! ### The desk of a gateway -/

namespace Gateway

/-- What a run of a gateway is to its desk. -/
def deskSteps (g : Gateway) : List Step → List Desk.Step
  | [] => []
  | s :: ss => (g.deskStep? s).toList ++ (g.step s).1.deskSteps ss

theorem desk_of_atDesk (g : Gateway) (ds : Desk.Step) :
    (g.atDesk ds).1.desk = (g.desk.step ds).1 :=
  (answer_frame _ _).2

section Requests

variable {listener : Listener} {message : Message} {name : String}

/-- A request that names a remedy is one for admission to it. -/
theorem step_of_asks (g : Gateway) (hasks : message.asks? listener = some name) (call : CallId)
    (fresh : String) (now : Instant) :
    g.step (.request listener call message fresh now) =
      match g.config.remedy? name with
      | none => (g, [(call, (Response.plain 404 ("Unknown remedy: " ++ name)).toMethod
          message.method)])
      | some remedy =>
        if g.inFlight.contains call then (g, [])
        else
          let id := (requestId? message.headers).getD fresh
          { g with inFlight := g.inFlight.insert call { id, method := message.method } }.atDesk
            (.request call remedy id message.headers now) := by
  unfold Message.asks? at hasks
  change g.request listener call message fresh now = _
  unfold request
  split at hasks
  next escaped hroute =>
    rw [hroute]
    cases hknown : g.config.remedy? name <;> simp only [admitTo, hasks, hknown]
  next => cases hasks

/-- A request for a remedy that is unknown or disabled is answered so, and nothing else
    happens. -/
theorem step_of_unknown (g : Gateway) (hasks : message.asks? listener = some name)
    (hunknown : g.config.remedy? name = none) (call : CallId) (fresh : String) (now : Instant) :
    g.step (.request listener call message fresh now) =
      (g, [(call, (Response.plain 404 ("Unknown remedy: " ++ name)).toMethod
        message.method)]) := by
  rw [step_of_asks g hasks, hunknown]

/-- The desk hears of a request if it names a remedy, the gateway has the remedy, and the
    number is not in use. -/
theorem desk_of_request (g : Gateway) (call : CallId) (fresh : String) (now : Instant) :
    (g.step (.request listener call message fresh now)).1.desk =
      (g.desk.run (g.deskStep? (.request listener call message fresh now)).toList).1 := by
  cases hasks : message.asks? listener with
  | none =>
      have hquiet : g.deskStep? (.request listener call message fresh now) = none := by
        simp only [deskStep?, hasks]
      have hmove := g.step_move (.request listener call message fresh now)
      rw [hquiet]
      generalize g.step (.request listener call message fresh now) = out at hmove
      cases hmove with
      | aside => rfl
      | waved _ asks | held _ asks | taken asks => cases hasks.symm.trans asks
  | some name =>
      rw [step_of_asks g hasks]
      cases hknown : g.config.remedy? name with
      | none =>
          have hquiet : g.deskStep? (.request listener call message fresh now) = none := by
            simp only [deskStep?, hasks, hknown]
          rw [hquiet]
          rfl
      | some remedy =>
          simp only [deskStep?, hasks, hknown]
          by_cases hthere : g.inFlight.contains call = true
          · rw [if_pos hthere, if_pos hthere]
            rfl
          · rw [if_neg hthere, if_neg hthere]
            exact desk_of_atDesk _ _

end Requests

/-- The desk of a gateway makes the step that it is said to make. -/
theorem desk_of_step (g : Gateway) (s : Step) :
    (g.step s).1.desk = (g.desk.run (g.deskStep? s).toList).1 := by
  cases s with
  | request listener call message fresh now => exact desk_of_request g call fresh now
  | closeAll => exact desk_of_atDesk g .closeAll
  | gate key event =>
      cases event with
      | drop call =>
          simp only [step]
          split
          next => exact desk_of_atDesk _ _
          next hgone =>
            have hstep : g.desk.step (.gate key (.drop call)) = (g.desk, []) := if_neg hgone
            exact (congrArg Prod.fst hstep).symm
      | arrive | wake | collect | wardenWake | wardenLook | wardenLost | close | read =>
          exact desk_of_atDesk g _

/-- The desk of a gateway is a desk. -/
theorem desk_of_run (g : Gateway) (ss : List Step) :
    (g.run ss).1.desk = (g.desk.run (g.deskSteps ss)).1 := by
  induction ss generalizing g with
  | nil => rfl
  | cons s ss ih =>
      rw [run_cons, ih, desk_of_step, deskSteps]
      cases g.deskStep? s <;> rfl

end Gateway

/-! ### The law -/

namespace Desk

/-- **Every decision is counted once.** A book is kept beside a run of a new desk, with every
    answer and what its request asked for. Every call that a gate returns is answered, once and
    with its verdict, by what its remedy has for it. The counter is what comes of counting the
    answers in the book, each under the remedy and the priority of its request, and errors not at
    all. So the sample of a decision shows how many like it there were, unless some other
    decision has its fingerprint. A request for a remedy without a rule is answered with an
    error, and a request that is given up is not answered; neither changes the counter,
    nor the former anything else. All of this goes for the desk of a gateway, which hears
    nothing of requests for remedies that are unknown or disabled. -/
theorem decisions_are_counted_once (ss : List Step) :
    let d := (empty.run ss).1
    let book := empty.bookOf Table.empty ss
    let decisions := book.filterMap Entry.decision?
    book.map (fun e => (e.call, e.ruling)) = (empty.run ss).2 ∧
    returns (empty.noticesOf ss) = book.filterMap Entry.verdict? ∧
    (∀ e ∈ book, e.IsFair) ∧
    d.outcomes = Outcomes.tally Table.empty decisions ∧
    (∀ x, (∀ y ∈ decisions, y.fingerprint = x.fingerprint → y = x) →
      ∀ n, (x.label, n) ∈ d.outcomes.samples ↔ 0 < n ∧ n = decisions.count x) ∧
    (∀ call remedy id headers now, remedy.rule = none →
      d.step (.request call remedy id headers now) =
        (d, [(call, .error (.missingConfig remedy.name))])) ∧
    (∀ key call, (d.step (.gate key (.drop call))).2 = [] ∧
      (d.step (.gate key (.drop call))).1.outcomes = d.outcomes) ∧
    (∀ config gs, ((Gateway.start config).run gs).1.desk =
      (empty.run ((Gateway.start config).deskSteps gs)).1) ∧
    ∀ (g : Gateway) listener message name, message.asks? listener = some name →
      g.config.remedy? name = none → ∀ call fresh now,
        g.step (.request listener call message fresh now) =
          (g, [(call, (Response.plain 404 ("Unknown remedy: " ++ name)).toMethod
            message.method)]) := by
  intro d book decisions
  have hbooked : Booked empty.dockets Table.empty := fun _ _ hfind => nomatch hfind
  rcases accounted_run known_empty hbooked ss with ⟨_, haccounts⟩
  have hcounted : d.outcomes = Outcomes.tally Table.empty decisions := haccounts.counted
  refine ⟨answers_of_book empty Table.empty ss, haccounts.passed, haccounts.fair, hcounted,
    fun x hown n => ?_, fun call remedy id headers now hrule => ?_, step_drop d,
    fun config gs => Gateway.desk_of_run _ gs,
    fun g listener message name hasks hunknown => Gateway.step_of_unknown g hasks hunknown⟩
  · rw [hcounted]
    exact Outcomes.mem_samples_tally_iff hown n
  · simp only [step, request, hrule]

namespace Twins

/-- One request a minute, which is not waited for, and a priority for a group. -/
def rule (priority : Priority) : QueueRule where
  quota := 1
  windowSeconds := 60
  ttlSeconds := 0
  rejectStatus := 503
  prioritization := some ⟨"x-group", Table.empty.insert "g" priority⟩

/-- A remedy of one letter, with a priority of two digits. -/
def first : Remedy where
  name := "a"
  rule := some (rule 11)

/-- A remedy whose name takes the first of the digits. -/
def second : Remedy where
  name := "a1"
  rule := some (rule 1)

/-- The headers of a request of the group. -/
def headers : Headers := [(⟨"x-group"⟩, ⟨"g"⟩)]

end Twins

/-- Two requests for one remedy, of which the second is refused: each is counted under its
    own labels. -/
theorem decisions_are_counted_once_at_twin :
    let ss : List Step := [.request 0 Twins.first "x" Twins.headers Instant.epoch,
      .request 1 Twins.first "y" Twins.headers Instant.epoch]
    let d := (empty.run ss).1
    (empty.run ss).2 = [(0, .ok .pass), (1, .ok (.tooManyRequests 503))] ∧
    ((⟨"a", 11, false⟩ : Decision).label, 1) ∈ d.outcomes.samples ∧
    d.step (.request 2 { name := "b" } "z" [] Instant.epoch) =
      (d, [(2, .error (.missingConfig "b"))]) := by
  intro ss d
  have hlaw := decisions_are_counted_once ss
  refine ⟨by decide +kernel, (hlaw.2.2.2.2.1 ⟨"a", 11, false⟩ ?_ 1).mpr ?_,
    hlaw.2.2.2.2.2.1 2 { name := "b" } "z" [] Instant.epoch rfl⟩
  · decide +kernel
  · decide +kernel

/-- One request for each of two remedies, each let through: there is one sample, which shows the
    labels of the first and counts both. -/
theorem decisions_share_a_count :
    let ss : List Step := [.request 0 Twins.first "x" Twins.headers Instant.epoch,
      .request 1 Twins.second "y" Twins.headers Instant.epoch]
    (empty.bookOf Table.empty ss).filterMap Entry.decision? =
      [⟨"a", 11, true⟩, ⟨"a1", 1, true⟩] ∧
    (empty.run ss).1.outcomes.samples = [((⟨"a", 11, true⟩ : Decision).label, 2)] := by
  decide +kernel

end Desk

end Turnstile
