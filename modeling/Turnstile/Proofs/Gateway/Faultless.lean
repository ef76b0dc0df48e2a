import Turnstile.Proofs.Config
import Turnstile.Proofs.Desk.Tally

/-!
# What a Faultless Configuration Is Good For

A configuration is checked once, when it is loaded. Whoever uses it later reads it again by
rules of his own: the log parses the level and the format, a gate measures its window, a
remedy is looked up by its name, and an answer is sent with a status. Each of these has a
way out for a value that it cannot use. None of them is taken after the check.

For the settings of the log and for the remedies this is a matter of the configuration alone.
A refusal has come a longer way. The status that it is sent with was put on a docket when the
request came in, and stood there while the request waited. The book that is kept beside the
run of a desk has this docket for each answer, and whatever it has asked for comes from a rule
of the configuration if all requests do. The answers of a gateway that tell the number of
their requests are the rulings of its desk, so they are in this book as well.

## Main definitions

* `Docket.IsOf`: A docket is made out for one of some remedies.
* `Desk.Step.IsOf`: A step is no request, or one for one of some remedies.

## Theorems

* `refusal_of_mem_book`: A refusal says what the rule of its remedy has for it.
* `isOf_of_deskSteps`: The desk of a gateway has requests for enabled remedies only.
* `ruled_of_run`: An answer that tells the number of its request follows a ruling.
* `faultless_suffices`: Nothing that is used of a faultless configuration fails.
-/

namespace Turnstile

namespace Response

theorem status_toMethod (r : Response) (method : String) :
    (r.toMethod method).status = r.status := by
  unfold toMethod
  split <;> rfl

/-- A status within the bounds of a rule is sent as it is. -/
theorem statusOf_of_bounds {status : UInt16} (hleast : 100 ≤ status.toNat)
    (hmost : status.toNat ≤ 599) : statusOf status = status.toNat :=
  if_pos ⟨hleast, Nat.le_trans hmost (by decide)⟩

end Response

/-- A docket is made out for one of some remedies, with what the rule of the remedy says. -/
def Docket.IsOf (remedies : List Remedy) (docket : Docket) : Prop :=
  ∃ remedy ∈ remedies, ∃ rule, remedy.rule = some rule ∧ docket.remedy = remedy.name ∧
    docket.rejectStatus = rule.rejectStatus

namespace Desk

/-- A step is no request, or one for one of some remedies. -/
def Step.IsOf (remedies : List Remedy) : Step → Prop
  | .request _ remedy _ _ _ => remedy ∈ remedies
  | _ => True

variable {d : Desk} {asked : Table CallId Docket} {remedies : List Remedy} {s : Step}
  {ss : List Step} {call : CallId} {docket : Docket}

theorem isOf_of_entered
    (hasked : ∀ call docket, asked.find? call = some docket → docket.IsOf remedies)
    (hs : s.IsOf remedies) (h : (d.entered asked s).find? call = some docket) :
    docket.IsOf remedies := by
  -- Only a request under a free number enters a docket, and it has what its rule says.
  cases s with
  | gate | closeAll => exact hasked call docket h
  | request new remedy id headers now =>
      simp only [entered] at h
      cases hrule : remedy.rule with
      | none =>
          rw [hrule] at h
          exact hasked call docket h
      | some rule =>
          rw [hrule] at h
          simp only [] at h
          split at h
          next => exact hasked call docket h
          next =>
            rw [Table.find?_insert_of_eq] at h
            split at h
            next =>
              cases h
              exact ⟨remedy, hs, rule, hrule, rfl, rfl⟩
            next => exact hasked call docket h

/-- If all requests are for some remedies, each answer in the book is to one of these. -/
theorem isOf_of_mem_book
    (hasked : ∀ call docket, asked.find? call = some docket → docket.IsOf remedies)
    (hss : ∀ s ∈ ss, s.IsOf remedies) {e : Entry} (he : e ∈ d.bookOf asked ss)
    (hdocket : e.docket = some docket) : docket.IsOf remedies := by
  -- What has been asked for grows along the run, so it is general in the induction.
  induction ss generalizing d asked with
  | nil => exact absurd he List.not_mem_nil
  | cons s ss ih =>
      have hs := hss s List.mem_cons_self
      have hnext : ∀ call docket, (d.entered asked s).find? call = some docket →
          docket.IsOf remedies := fun _ _ hfind => isOf_of_entered hasked hs hfind
      rcases List.mem_append.mp he with hfirst | hrest
      · rcases List.mem_map.mp hfirst with ⟨a, -, rfl⟩
        exact hnext a.1 docket hdocket
      · exact ih hnext (fun t ht => hss t (List.mem_cons_of_mem _ ht)) hrest

/-- A refusal says what the rule of its remedy has for it, if all requests are for some
    remedies. -/
theorem refusal_of_mem_book (hss : ∀ s ∈ ss, s.IsOf remedies) {e : Entry}
    (he : e ∈ empty.bookOf Table.empty ss) {r : EarlyResponse}
    (hr : e.ruling = .ok (.respond r)) :
    ∃ docket, e.docket = some docket ∧ ∃ remedy ∈ remedies, docket.remedy = remedy.name ∧
      ∃ rule, remedy.rule = some rule ∧ Action.respond r = .tooManyRequests rule.rejectStatus := by
  have hbooked : Booked empty.dockets Table.empty := fun _ _ hfind => nomatch hfind
  rcases accounted_run known_empty hbooked ss with ⟨_, haccounts⟩
  rcases haccounts.fair e he _ hr with ⟨docket, hdocket, hpass | hrefuse⟩
  · exact nomatch hpass
  · have hnobody : ∀ call docket, (Table.empty : Table CallId Docket).find? call = some docket →
        docket.IsOf remedies := fun _ _ hfind => nomatch hfind
    rcases isOf_of_mem_book hnobody hss he hdocket with
      ⟨remedy, hremedy, rule, hrule, hname, hstatus⟩
    exact ⟨docket, hdocket, remedy, hremedy, hname, rule, hrule, hstatus ▸ hrefuse⟩

end Desk

namespace Gateway

variable {g : Gateway} {s : Step} {ss : List Step} {call : CallId} {response : Response}

theorem config_of_step (g : Gateway) (s : Step) : (g.step s).1.config = g.config := by
  have hmove := g.step_move s
  generalize g.step s = out at hmove
  cases hmove with
  | aside | waved | held => rfl
  | taken | dropped | visited | closed => exact queue_config ..

/-- The desk of a gateway has requests for enabled remedies of the configuration only. -/
theorem isOf_of_deskSteps (g : Gateway) (ss : List Step) :
    ∀ ds ∈ g.deskSteps ss, ds.IsOf (g.config.remedies.filter (·.enabled)) := by
  induction ss generalizing g with
  | nil => exact fun _ hds => absurd hds List.not_mem_nil
  | cons s ss ih =>
      intro ds hds
      rcases List.mem_append.mp hds with hfirst | hrest
      · cases s with
        | closeAll | gate =>
            cases List.mem_singleton.mp hfirst
            trivial
        | request listener call message fresh now =>
            rw [Option.mem_toList] at hfirst
            simp only [deskStep?] at hfirst
            split at hfirst
            next => cases hfirst
            next name _ =>
              split at hfirst
              next => cases hfirst
              next remedy hknown =>
                split at hfirst
                next => cases hfirst
                next =>
                  cases hfirst
                  have hfound := List.find?_some hknown
                  exact List.mem_filter.mpr
                    ⟨List.mem_of_find?_eq_some hknown, (Bool.and_eq_true _ _ ▸ hfound).1⟩
      · rw [← config_of_step g s]
        exact ih _ ds hrest

theorem requestId_of_not_asks {listener : Listener} {message : Message}
    (h : message.asks? listener = none) (fresh : String) (now : Instant) (c : CallId) :
    ∀ a ∈ (g.step (.request listener c message fresh now)).2, a.2.requestId = none := by
  intro a ha
  have hreply : ∀ {r : Response} (method : String), a ∈ [(c, r.toMethod method)] →
      r.requestId = none → a.2.requestId = none := by
    intro r method hmem hnone
    rw [List.mem_singleton.mp hmem]
    exact (Response.requestId_toMethod r method).trans hnone
  -- A message that asks for nothing is answered at once, with a page or an error.
  simp only [step, request] at ha
  unfold Message.asks? at h
  split at ha
  next => exact hreply _ ha rfl
  next escaped hroute =>
    rw [hroute] at h
    simp only [admitTo, h] at ha
    exact hreply _ ha rfl
  next route hother hroute =>
    split at ha
    next => exact hreply _ ha (requestId_show? g _)
    next => exact hreply _ ha rfl

/-- What is answered after a step at the desk follows a ruling there. -/
theorem ruled_of_atDesk {ds : Desk.Step} (inFlight : Table CallId InFlight)
    (hs : g.deskStep? s = some ds) (h : (call, response) ∈ ({ g with inFlight }.atDesk ds).2) :
    ∃ ruling id method, (call, ruling) ∈ (g.desk.run (g.deskStep? s).toList).2 ∧
      response = (Response.ofRuling id ruling).toMethod method := by
  rcases mem_answer h with ⟨ruling, id, method, hruling, heq⟩
  refine ⟨ruling, id, method, ?_, heq⟩
  rw [hs, Option.toList_some, Desk.run_cons]
  exact List.mem_append_left _ hruling

/-- An answer that tells the number of its request follows a ruling of the desk. -/
theorem ruled_of_step (h : (call, response) ∈ (g.step s).2)
    (hid : response.requestId.isSome = true) :
    ∃ ruling id method, (call, ruling) ∈ (g.desk.run (g.deskStep? s).toList).2 ∧
      response = (Response.ofRuling id ruling).toMethod method := by
  cases s with
  | closeAll => exact ruled_of_atDesk _ rfl h
  | gate key event =>
      cases event with
      | drop c =>
          simp only [step] at h
          split at h
          next => exact ruled_of_atDesk _ rfl h
          next => exact absurd h List.not_mem_nil
      | arrive | wake | collect | wardenWake | wardenLook | wardenLost | close | read =>
          exact ruled_of_atDesk _ rfl h
  | request listener c message fresh now =>
      cases hasks : message.asks? listener with
      | none =>
          rw [requestId_of_not_asks hasks fresh now c _ h] at hid
          exact absurd hid Bool.false_ne_true
      | some name =>
          rw [step_of_asks g hasks] at h
          cases hknown : g.config.remedy? name with
          | none =>
              rw [hknown] at h
              cases List.mem_singleton.mp h
              rw [Response.requestId_toMethod] at hid
              exact absurd hid Bool.false_ne_true
          | some remedy =>
              rw [hknown] at h
              simp only [] at h
              by_cases hthere : g.inFlight.contains c = true
              · rw [if_pos hthere] at h
                exact absurd h List.not_mem_nil
              · rw [if_neg hthere] at h
                refine ruled_of_atDesk _ ?_ h
                simp only [deskStep?, hasks, hknown, if_neg hthere]

/-- An answer of a run that tells the number of its request follows a ruling of the desk. -/
theorem ruled_of_run (h : (call, response) ∈ (g.run ss).2)
    (hid : response.requestId.isSome = true) :
    ∃ ruling id method, (call, ruling) ∈ (g.desk.run (g.deskSteps ss)).2 ∧
      response = (Response.ofRuling id ruling).toMethod method := by
  induction ss generalizing g with
  | nil => exact absurd h List.not_mem_nil
  | cons s ss ih =>
      have hsplit : (g.desk.run (g.deskSteps (s :: ss))).2 =
          (g.desk.run (g.deskStep? s).toList).2 ++
            ((g.step s).1.desk.run ((g.step s).1.deskSteps ss)).2 := by
        rw [desk_of_step, deskSteps]
        cases g.deskStep? s with
        | none => rfl
        | some ds => rw [Option.toList_some, List.singleton_append, Desk.run_cons,
            Desk.run_cons, Desk.run]; simp only [List.append_nil]
      rw [hsplit]
      rcases List.mem_append.mp h with hfirst | hrest
      · rcases ruled_of_step hfirst hid with ⟨ruling, id, method, hruling, heq⟩
        exact ⟨ruling, id, method, List.mem_append_left _ hruling, heq⟩
      · rcases ih hrest with ⟨ruling, id, method, hruling, heq⟩
        exact ⟨ruling, id, method, List.mem_append_right _ hruling, heq⟩

/-- **A faultless configuration suffices.** Its settings name a level and a format, and these
    are found when the log is set up, whether it is to be verbose or not. Every rule admits
    somebody and has windows of at least a second, which are measured as they are. What is
    found under the name of a remedy is this remedy where it stands, or nothing if it is
    disabled. A desk that takes requests for its remedies refuses each with the status that the
    rule of its remedy has, and this is a status to be sent as it is. So whatever a gateway
    answers with the number of a request is an admission, or has exactly this status. -/
theorem faultless_suffices {c : Config} (hvalid : c.check = .ok c) :
    (∃ level format, level.name = Text.lower c.logging.level ∧
      format.name = Text.lower c.logging.format ∧
      (∀ verbose, c.logging.levelInForce verbose = .ok (if verbose then .debug else level)) ∧
      Log.Format.parse c.logging.format = .ok format) ∧
    (∀ remedy ∈ c.remedies, ∀ rule, remedy.rule = some rule →
      1 ≤ rule.policy.quota.toNat ∧ nanosPerSecond ≤ rule.policy.window.nanos ∧
      rule.policy.windowMicros = min word64Max ((rule.policy.window.nanos / 1000 : Nat) : Int)) ∧
    (∀ i remedy, c.remedies[i]? = some remedy →
      c.remedy? remedy.name = (if remedy.enabled then some remedy else none) ∧
      c.position? remedy.name = if remedy.enabled then some i else none) ∧
    (∀ ss, (∀ s ∈ ss, Desk.Step.IsOf c.remedies s) →
      ∀ e ∈ Desk.empty.bookOf Table.empty ss, ∀ r, e.ruling = .ok (.respond r) →
      ∃ docket remedy rule, e.docket = some docket ∧ remedy ∈ c.remedies ∧
        docket.remedy = remedy.name ∧ remedy.rule = some rule ∧
        r.status = rule.rejectStatus ∧ 100 ≤ r.status.toNat ∧ r.status.toNat ≤ 999 ∧
        ∀ id, (Response.ofRuling id e.ruling).status = rule.rejectStatus.toNat) ∧
    ∀ gs call response, (call, response) ∈ ((start c).run gs).2 →
      response.requestId.isSome = true → response.isAdmission = true ∨
      ∃ e ∈ Desk.empty.bookOf Table.empty ((start c).deskSteps gs), e.call = call ∧
        ∃ docket remedy rule, e.docket = some docket ∧
          c.remedy? docket.remedy = some remedy ∧ remedy.rule = some rule ∧
          response.status = rule.rejectStatus.toNat := by
  have hfault : c.fault? = none := ((Config.check_eq_ok_iff _ _).mp hvalid).1
  have hparts := hfault
  rw [Config.fault?, Option.or_eq_none_iff, Option.or_eq_none_iff] at hparts
  rcases hparts with ⟨⟨hlogging, -⟩, hremedies⟩
  have hbounds : ∀ remedy ∈ c.remedies, ∀ rule, remedy.rule = some rule →
      0 < rule.quota.toNat ∧ 0 < rule.windowSeconds.toNat ∧ 100 ≤ rule.rejectStatus.toNat ∧
        rule.rejectStatus.toNat ≤ 599 := fun remedy hremedy rule hrule =>
    QueueRule.bounds_of_fault? (Config.rule_of_remedyFault? hremedies hremedy hrule)
  refine ⟨?_, fun remedy hremedy rule hrule => ?_,
    fun i remedy hi => Config.lookup_of_getElem? hfault hi, fun ss hss e he r hr => ?_,
    fun gs call response hanswer hid => ?_⟩
  · rcases Logging.named_of_fault? hlogging with ⟨level, format, hlevel, hformat⟩
    have hparse := Log.Format.parse_of_ofName? hformat
    rcases Log.Level.ofText?_of_ofName? hlevel with ⟨htext, hname⟩
    refine ⟨level, format, hname, hparse.2, fun verbose => ?_, hparse.1⟩
    cases verbose with
    | true => rfl
    | false => simp only [Logging.levelInForce, Logging.namedLevel, htext, Bool.false_eq_true,
        if_false]
  · have hrule := hbounds remedy hremedy rule hrule
    exact ⟨hrule.1, QueueRule.windowMicros_policy hrule.2.1⟩
  · rcases Desk.refusal_of_mem_book hss he hr with
      ⟨docket, hdocket, remedy, hremedy, hname, rule, hrule, heq⟩
    cases heq
    rcases hbounds remedy hremedy rule hrule with ⟨-, -, hleast, hmost⟩
    refine ⟨docket, remedy, rule, hdocket, hremedy, hname, hrule, rfl, hleast,
      Nat.le_trans hmost (by decide), fun id => ?_⟩
    rw [hr]
    exact Response.statusOf_of_bounds hleast hmost
  · rcases ruled_of_run hanswer hid with ⟨ruling, id, method, hruling, rfl⟩
    have hpass : ((Response.admitted id).toMethod method).isAdmission = true :=
      (Response.isAdmission_iff _).mpr ⟨id, method, rfl⟩
    cases ruling with
    | error reason => exact Or.inl hpass
    | ok action =>
        cases action with
        | pass => exact Or.inl hpass
        | respond r =>
            change _ ∈ (Desk.empty.run ((start c).deskSteps gs)).2 at hruling
            rw [← Desk.answers_of_book _ Table.empty] at hruling
            rcases List.mem_map.mp hruling with ⟨e, he, heq⟩
            rcases Prod.mk.inj heq with ⟨hcall, hr⟩
            rcases Desk.refusal_of_mem_book (isOf_of_deskSteps (start c) gs) he hr with
              ⟨docket, hdocket, remedy, hremedy, hname, rule, hrule, hstatus⟩
            rcases List.mem_filter.mp hremedy with ⟨hmem, henabled⟩
            rcases hbounds remedy hmem rule hrule with ⟨-, -, hleast, hmost⟩
            refine Or.inr ⟨e, he, hcall, docket, remedy, rule, hdocket, ?_, hrule, ?_⟩
            · rw [hname]
              exact Config.remedy?_of_mem hfault hmem henabled
            · rw [Response.status_toMethod, hstatus]
              exact Response.statusOf_of_bounds hleast hmost

namespace Counter

/-- One request a minute, and nobody waits for the next one. -/
def rule : QueueRule where
  quota := 1
  windowSeconds := 60
  ttlSeconds := 0
  rejectStatus := 503

/-- The counter that is open. -/
def staffed : Remedy where
  name := "counter"
  rule := some rule

/-- A counter that is closed for good. -/
def vacant : Remedy where
  name := "vacant"
  enabled := false
  rule := some rule

def config : Config where
  logging := { level := "WARN", format := "Json" }
  remedies := [staffed, vacant]

def message : Message := ⟨"GET", "/admit/counter", []⟩

/-- Two requests come at once. -/
def steps : List Step :=
  [.request .gateway 0 message "first" Instant.epoch,
    .request .gateway 1 message "second" Instant.epoch]

/-- The same two, as they come to the desk. -/
def deskSteps : List Desk.Step :=
  [.request 0 staffed "first" [] Instant.epoch, .request 1 staffed "second" [] Instant.epoch]

/-- The answer to the second one. -/
def refusal : Response where
  status := 503
  contentType := some "text/plain"
  requestId := some "second"
  body := "Too many requests"

end Counter

/-- At the counter the second request is refused with the status of the rule, and nothing is
    found under the name of the counter that is closed. -/
theorem faultless_suffices_at_counter :
    Counter.config.check = .ok Counter.config ∧
    (∃ level format, level.name = "warn" ∧ format.name = "json" ∧
      Counter.config.logging.levelInForce false = .ok level ∧
      Log.Format.parse Counter.config.logging.format = .ok format) ∧
    (1 ≤ Counter.rule.policy.quota.toNat ∧ nanosPerSecond ≤ Counter.rule.policy.window.nanos) ∧
    (Counter.config.remedy? "counter" = some Counter.staffed ∧
      Counter.config.position? "vacant" = none) ∧
    (∃ e ∈ Desk.empty.bookOf Table.empty Counter.deskSteps,
      e.ruling = .ok (.tooManyRequests 503) ∧
      ∀ id, (Response.ofRuling id e.ruling).status = 503) ∧
    (1, Counter.refusal) ∈ ((start Counter.config).run Counter.steps).2 ∧
    ∃ docket remedy rule, Counter.config.remedy? docket = some remedy ∧
      remedy.rule = some rule ∧ Counter.refusal.status = rule.rejectStatus.toNat := by
  have hvalid : Counter.config.check = .ok Counter.config :=
    (Config.check_eq_ok_iff _ _).mpr ⟨by decide +kernel, rfl⟩
  rcases faultless_suffices hvalid with ⟨⟨level, format, hlevel, hformat, hforce, hparse⟩, hrules,
    hfound, hdesk, hgateway⟩
  have hwarn : Text.lower Counter.config.logging.level = "warn" := by decide +kernel
  have hjson : Text.lower Counter.config.logging.format = "json" := by decide +kernel
  have hrule := hrules Counter.staffed List.mem_cons_self Counter.rule rfl
  have hsteps : ∀ s ∈ Counter.deskSteps, Desk.Step.IsOf Counter.config.remedies s := by
    intro s hs
    simp only [Counter.deskSteps, List.mem_cons, List.not_mem_nil, or_false] at hs
    rcases hs with rfl | rfl
    · exact List.mem_cons_self
    · exact List.mem_cons_self
  have hruling : .ok (.tooManyRequests 503) ∈
      (Desk.empty.bookOf Table.empty Counter.deskSteps).map (·.ruling) := by decide +kernel
  have hanswer : (1, Counter.refusal) ∈ ((start Counter.config).run Counter.steps).2 := by
    decide +kernel
  refine ⟨hvalid, ⟨level, format, hlevel.trans hwarn, hformat.trans hjson, hforce false, hparse⟩,
    ⟨hrule.1, hrule.2.1⟩, ⟨(hfound 0 Counter.staffed rfl).1, (hfound 1 Counter.vacant rfl).2⟩,
    ?_, hanswer, ?_⟩
  · rcases List.mem_map.mp hruling with ⟨e, he, hr⟩
    rcases hdesk Counter.deskSteps hsteps e he _ hr with
      ⟨_, _, rule, -, -, -, -, hstatus, -, -, hsent⟩
    refine ⟨e, he, hr, fun id => (hsent id).trans ?_⟩
    rw [← hstatus]
    rfl
  · rcases (hgateway Counter.steps 1 Counter.refusal hanswer rfl).resolve_left (by decide) with
      ⟨e, -, -, docket, remedy, rule, -, hremedy, hrule, hstatus⟩
    exact ⟨docket.remedy, remedy, rule, hremedy, hrule, hstatus⟩

end Gateway

end Turnstile
