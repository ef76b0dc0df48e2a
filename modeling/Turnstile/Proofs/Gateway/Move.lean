import Turnstile.Gateway.Basic
import Turnstile.Proofs.Desk
import Turnstile.Proofs.Table

/-!
# What a Step of a Gateway Can Do

The step function of a gateway, turned around, as it is for a gate. `Move` lists what a
step can do, and `step_move` says that it does one of these.

Most requests are answered at once and leave everything as it is. The others go to the
queue of a gate, with the request put on the list of those in flight or taken from it
before, and what the gates return is answered after. What lies between is the same for all
of these and is told once: each request in flight that a gate returns is answered, and taken
from the list, and no other one.

## Main definitions

* `Message.asks?`: The remedy that a request for admission names.
* `Response.isAdmission`: The answer says that the request was admitted.
* `Gateway.registryStep?`, `Gateway.notices`: What a step does at the gates, and what comes
  of it.
* `Gateway.queue`: A step at the gates, and the answers to what they return.
* `Gateway.Move`: What a step of a gateway can do.

## Theorems

* `isAdmission_iff`: The answers of admission are those that are given.
* `step_move`: Every step is a move.
* `queue_config`, `queue_registry`: What is set up stays, and the gates change by the step.
* `admission_of_queue`: Who is answered to be admitted was returned so by a gate.
* `inFlight_of_queue`: Whoever no gate returns stays in flight.
* `countP_queue`: Every answer is to a request that was in flight, and is the last to it.
-/

namespace Turnstile

/-- The remedy that a request for admission names. -/
def Message.asks? (listener : Listener) (m : Message) : Option String :=
  match Route.of? listener m.path with
  | some (.admission escaped) => Uri.decode? escaped
  | _ => none

namespace Response

/-- Whether an answer says that the request was admitted: it is the answer to such a request,
    whole or without its body. -/
def isAdmission (r : Response) : Bool :=
  r.requestId.any fun id => r == admitted id || r == { admitted id with body := "" }

theorem requestId_toMethod (r : Response) (method : String) :
    (r.toMethod method).requestId = r.requestId := by
  unfold toMethod
  split <;> rfl

theorem contentType_toMethod (r : Response) (method : String) :
    (r.toMethod method).contentType = r.contentType := by
  unfold toMethod
  split <;> rfl

/-- The answers of admission are those that are given, to requests of any method. -/
theorem isAdmission_iff (r : Response) :
    r.isAdmission = true ↔ ∃ id method, r = (admitted id).toMethod method := by
  constructor
  · intro h
    cases hid : r.requestId with
    | none =>
        rw [isAdmission, hid] at h
        exact absurd h Bool.false_ne_true
    | some id =>
        rw [isAdmission, hid, Option.any_some, Bool.or_eq_true, beq_iff_eq, beq_iff_eq] at h
        rcases h with hwhole | hhead
        · have hget : ¬("GET" = "HEAD" ∨ "GET" = "CONNECT" ∧ (admitted id).isSuccess = true) :=
            not_or.mpr ⟨by decide, fun h => absurd h.1 (by decide)⟩
          exact ⟨id, "GET", hwhole.trans (if_neg hget).symm⟩
        · exact ⟨id, "HEAD", hhead.trans (if_pos (Or.inl rfl)).symm⟩
  · rintro ⟨id, method, rfl⟩
    rw [isAdmission, requestId_toMethod]
    refine (Bool.or_eq_true _ _).mpr ?_
    rw [beq_iff_eq, beq_iff_eq]
    unfold toMethod
    split
    · exact Or.inr rfl
    · exact Or.inl rfl

theorem not_isAdmission {r : Response} (h : r.requestId = none) : r.isAdmission = false := by
  rw [isAdmission, h]
  rfl

/-- A refusal is no admission, whatever its status is. -/
theorem not_isAdmission_of_refusal (id method : String) (status : UInt16) :
    ((ofRuling id (.ok (.tooManyRequests status))).toMethod method).isAdmission = false := by
  refine Bool.eq_false_iff.mpr fun h => ?_
  rcases (isAdmission_iff _).mp h with ⟨_, _, heq⟩
  have hsame := congrArg Response.contentType heq
  rw [contentType_toMethod, contentType_toMethod] at hsame
  have htype : "text/plain" = "text/plain; charset=utf-8" := Option.some.inj hsame
  exact absurd htype (by decide)

end Response

namespace Gateway

/-- What a step of a gateway is to its desk, if it gets there. -/
def deskStep? (g : Gateway) : Step → Option Desk.Step
  | .request listener call message fresh now =>
    match message.asks? listener with
    | none => none
    | some name =>
      match g.config.remedy? name with
      | none => none
      | some remedy =>
        if g.inFlight.contains call then none
        else
          some (.request call remedy ((requestId? message.headers).getD fresh)
            message.headers now)
  | .gate key event => some (.gate key event)
  | .closeAll => some .closeAll

/-- What a step of a gateway does at the gates, if it does anything there. -/
def registryStep? (g : Gateway) (s : Step) : Option Registry.Step :=
  (g.deskStep? s).bind g.desk.registryStep?

/-- What the gates notice at a step. -/
def notices (g : Gateway) (s : Step) : List (Key × Notice) :=
  match g.registryStep? s with
  | some rs => (g.desk.registry.step rs).2
  | none => []

/-- A step at the gates, with dockets and requests in flight as they are to be for it, and
    the answers to what the gates return. -/
def queue (g : Gateway) (dockets : Table CallId Docket) (inFlight : Table CallId InFlight)
    (rs : Registry.Step) : Gateway × List (CallId × Response) :=
  let (desk, rulings) := { g.desk with dockets }.queue rs
  { g with desk, inFlight }.answer rulings

/-- What a step of a gateway can do. -/
inductive Move (g : Gateway) : Step → Gateway × List (CallId × Response) → Prop where
  /-- Nothing changes, and whoever is answered is not admitted. -/
  | aside {s : Step} {answers : List (CallId × Response)} (quiet : g.registryStep? s = none)
      (plain : ∀ a ∈ answers, a.2.isAdmission = false) : Move g s (g, answers)
  /-- A request for a remedy without a rule is admitted at once. -/
  | waved {listener : Listener} {call : CallId} {message : Message} {fresh name : String}
      {now : Instant} {remedy : Remedy} {response : Response}
      (quiet : g.registryStep? (.request listener call message fresh now) = none)
      (asks : message.asks? listener = some name) (new : g.inFlight.find? call = none)
      (known : g.config.remedy? name = some remedy) (free : remedy.rule = none) :
      Move g (.request listener call message fresh now) (g, [(call, response)])
  /-- A request is under way whose number a desk that waits for its verdict still has. -/
  | held {listener : Listener} {call : CallId} {message : Message} {fresh name : String}
      {now : Instant} {request : InFlight}
      (quiet : g.registryStep? (.request listener call message fresh now) = none)
      (asks : message.asks? listener = some name) (new : g.inFlight.find? call = none) :
      Move g (.request listener call message fresh now)
        ({ g with inFlight := g.inFlight.insert call request }, [])
  /-- A request arrives at the gate of its remedy. -/
  | taken {listener : Listener} {call : CallId} {message : Message} {fresh name : String}
      {now : Instant} {remedy : Remedy} {rule : QueueRule} {request : InFlight}
      {docket : Docket} {asked : Request}
      (asks : message.asks? listener = some name) (new : g.inFlight.find? call = none)
      (known : g.config.remedy? name = some remedy) (ruled : remedy.rule = some rule)
      (arrives : g.registryStep? (.request listener call message fresh now) =
        some (.arrive ⟨remedy.name, rule.policy⟩ call asked rule.ttl now)) :
      Move g (.request listener call message fresh now)
        (g.queue (g.desk.dockets.insert call docket) (g.inFlight.insert call request)
          (.arrive ⟨remedy.name, rule.policy⟩ call asked rule.ttl now))
  /-- A waiting request is given up. -/
  | dropped {key : Key} {call : CallId} {gate : Gate}
      (there : g.desk.registry.find? key = some gate)
      (waits : gate.callers.contains call = true)
      (leaves : g.registryStep? (.gate key (.drop call)) = some (.gate key (.drop call))) :
      Move g (.gate key (.drop call))
        (g.queue (g.desk.dockets.erase call) (g.inFlight.erase call) (.gate key (.drop call)))
  /-- Something else happens at a gate. -/
  | visited {key : Key} {event : Event} (inside : ∀ call request ttl now,
        event ≠ .arrive call request ttl now)
      (happens : g.registryStep? (.gate key event) = some (.gate key event)) :
      Move g (.gate key event) (g.queue g.desk.dockets g.inFlight (.gate key event))
  /-- All gates are closed. -/
  | closed : Move g .closeAll (g.queue g.desk.dockets g.inFlight .closeAll)

theorem requestId_show? (g : Gateway) (route : Route) :
    ((g.show? route).getD .notFound).requestId = none := by
  cases route <;> rfl

-- Whatever is answered without a look at the desk tells no number of a request.
theorem plain_of_reply {call : CallId} {r : Response} (h : r.requestId = none)
    (method : String) : ∀ a ∈ [(call, r.toMethod method)], a.2.isAdmission = false := by
  intro a ha
  rw [List.mem_singleton.mp ha]
  exact Response.not_isAdmission ((Response.requestId_toMethod r method).trans h)

-- What the desk makes of a request that is new depends on the rule of the remedy, and on
-- whether the desk still has the number.
theorem atDesk_move {g : Gateway} {listener : Listener} {call : CallId} {message : Message}
    {fresh name : String} {now : Instant} {remedy : Remedy} (request : InFlight)
    (asks : message.asks? listener = some name) (known : g.config.remedy? name = some remedy)
    (new : g.inFlight.find? call = none) :
    g.Move (.request listener call message fresh now)
      ({ g with inFlight := g.inFlight.insert call request }.atDesk
        (.request call remedy ((requestId? message.headers).getD fresh) message.headers now)) := by
  have hdesk : g.registryStep? (.request listener call message fresh now) =
      g.desk.registryStep?
        (.request call remedy ((requestId? message.headers).getD fresh) message.headers now) := by
    simp only [registryStep?, deskStep?, asks, known, Table.not_contains_of_find? new,
      Bool.false_eq_true, if_false, Option.bind_some]
  have hfound : (g.inFlight.insert call request).find? call = some request := by
    rw [Table.find?_insert_of_eq, if_pos rfl]
  cases hrule : remedy.rule with
  | none =>
      have hstep : { g with inFlight := g.inFlight.insert call request }.atDesk
          (.request call remedy ((requestId? message.headers).getD fresh)
            message.headers now) =
          (g, [(call, (Response.admitted request.id).toMethod request.method)]) := by
        simp only [atDesk, Desk.step, Desk.request, hrule, answer, hfound,
          Table.erase_insert_self new]
        rfl
      rw [hstep]
      refine .waved (hdesk.trans ?_) asks new known hrule
      simp only [Desk.registryStep?, hrule]
  | some rule =>
      by_cases hdocket : g.desk.dockets.contains call = true
      · have hstep : { g with inFlight := g.inFlight.insert call request }.atDesk
            (.request call remedy ((requestId? message.headers).getD fresh)
              message.headers now) =
            ({ g with inFlight := g.inFlight.insert call request }, []) := by
          simp only [atDesk, Desk.step, Desk.request, hrule, hdocket, if_true, answer]
        rw [hstep]
        refine .held (hdesk.trans ?_) asks new
        simp only [Desk.registryStep?, hrule, hdocket, if_true]
      · have hstep : { g with inFlight := g.inFlight.insert call request }.atDesk
            (.request call remedy ((requestId? message.headers).getD fresh)
              message.headers now) =
            g.queue
              (g.desk.dockets.insert call
                { remedy := remedy.name, priority := rule.priorityOf message.headers
                  rejectStatus := rule.rejectStatus })
              (g.inFlight.insert call request)
              (.arrive ⟨remedy.name, rule.policy⟩ call
                { id := (requestId? message.headers).getD fresh
                  priority := rule.priorityOf message.headers, arrived := now }
                rule.ttl now) := by
          simp only [atDesk, Desk.step, Desk.request, hrule, if_neg hdocket]
          rfl
        rw [hstep]
        refine .taken asks new known hrule (hdesk.trans ?_)
        simp only [Desk.registryStep?, hrule, if_neg hdocket]

theorem request_move (g : Gateway) (listener : Listener) (call : CallId) (message : Message)
    (fresh : String) (now : Instant) :
    g.Move (.request listener call message fresh now)
      (g.request listener call message fresh now) := by
  -- A request that names no remedy does not get to the desk.
  have hquiet : message.asks? listener = none →
      g.registryStep? (.request listener call message fresh now) = none := by
    intro hasks
    simp only [registryStep?, deskStep?, hasks, Option.bind_none]
  unfold request
  cases hroute : Route.of? listener message.path with
  | none => exact .aside (hquiet (by rw [Message.asks?, hroute])) (plain_of_reply rfl _)
  | some route =>
      cases route with
      | queues | metrics | health =>
          have hasks : message.asks? listener = none := by rw [Message.asks?, hroute]
          simp only []
          split
          · exact .aside (hquiet hasks) (plain_of_reply (requestId_show? g _) _)
          · exact .aside (hquiet hasks) (plain_of_reply rfl _)
      | admission escaped =>
          simp only [admitTo]
          cases hdecode : Uri.decode? escaped with
          | none =>
              have hasks : message.asks? listener = none := by
                rw [Message.asks?, hroute]
                exact hdecode
              exact .aside (hquiet hasks) (plain_of_reply rfl _)
          | some name =>
              have hasks : message.asks? listener = some name := by
                rw [Message.asks?, hroute]
                exact hdecode
              simp only []
              cases hknown : g.config.remedy? name with
              | none =>
                  refine .aside ?_ (plain_of_reply rfl _)
                  simp only [registryStep?, deskStep?, hasks, hknown, Option.bind_none]
              | some remedy =>
                  by_cases hthere : g.inFlight.contains call = true
                  · simp only [hthere, if_true]
                    refine .aside ?_ fun a ha => absurd ha List.not_mem_nil
                    simp only [registryStep?, deskStep?, hasks, hknown, hthere, if_true,
                      Option.bind_none]
                  · simp only [if_neg hthere]
                    rw [Table.contains, Option.not_isSome_iff_eq_none] at hthere
                    exact atDesk_move _ hasks hknown hthere

/-- Every step is a move. -/
theorem step_move (g : Gateway) (s : Step) : g.Move s (g.step s) := by
  cases s with
  | request listener call message fresh now => exact request_move g listener call message fresh now
  | closeAll => exact .closed
  | gate key event =>
      cases event with
      | arrive => exact .aside rfl fun a ha => absurd ha List.not_mem_nil
      | drop call =>
          by_cases hthere : (g.desk.registry.find? key).any (·.callers.contains call) = true
          · have hstep : g.step (.gate key (.drop call)) =
                g.queue (g.desk.dockets.erase call) (g.inFlight.erase call)
                  (.gate key (.drop call)) := by
              simp only [step, if_pos hthere, atDesk, Desk.step, queue]
            rw [hstep]
            have hwaits := hthere
            cases hgate : g.desk.registry.find? key with
            | none =>
                rw [hgate] at hwaits
                exact absurd hwaits Bool.false_ne_true
            | some gate =>
                rw [hgate] at hwaits
                exact .dropped hgate hwaits (if_pos hthere)
          · have hstep : g.step (.gate key (.drop call)) = (g, []) := if_neg hthere
            rw [hstep]
            exact .aside (if_neg hthere) fun a ha => absurd ha List.not_mem_nil
      | wake | collect | wardenWake | wardenLook | wardenLost | close | read =>
          exact .visited (fun _ _ _ _ => Event.noConfusion) rfl

section Answers

variable {g : Gateway} {call : CallId} {rulings : List (CallId × Ruling)}

theorem answer_cons_of_find? {request : InFlight} (h : g.inFlight.find? call = some request)
    (ruling : Ruling) :
    g.answer ((call, ruling) :: rulings) =
      (({ g with inFlight := g.inFlight.erase call }.answer rulings).1,
        (call, (Response.ofRuling request.id ruling).toMethod request.method) ::
          ({ g with inFlight := g.inFlight.erase call }.answer rulings).2) := by
  rw [answer, h]

theorem answer_cons_of_none (h : g.inFlight.find? call = none) (ruling : Ruling) :
    g.answer ((call, ruling) :: rulings) = g.answer rulings := by
  rw [answer, h]

theorem answer_frame (g : Gateway) (rulings : List (CallId × Ruling)) :
    (g.answer rulings).1.config = g.config ∧ (g.answer rulings).1.desk = g.desk := by
  induction rulings generalizing g with
  | nil => exact ⟨rfl, rfl⟩
  | cons x rest ih =>
      rcases x with ⟨call, ruling⟩
      cases hfind : g.inFlight.find? call with
      | none =>
          rw [answer_cons_of_none hfind]
          exact ih g
      | some request =>
          rw [answer_cons_of_find? hfind]
          exact ih _

/-- An answer follows the ruling on its request. -/
theorem mem_answer {response : Response} (h : (call, response) ∈ (g.answer rulings).2) :
    ∃ ruling id method, (call, ruling) ∈ rulings ∧
      response = (Response.ofRuling id ruling).toMethod method := by
  induction rulings generalizing g with
  | nil => exact absurd h List.not_mem_nil
  | cons x rest ih =>
      rcases x with ⟨other, ruling⟩
      -- What is answered later is as it is for the later rulings alone.
      have hlater : ∀ {g' : Gateway}, (call, response) ∈ (g'.answer rest).2 →
          ∃ ruling' id method, (call, ruling') ∈ (other, ruling) :: rest ∧
            response = (Response.ofRuling id ruling').toMethod method := by
        intro g' hmem
        rcases ih hmem with ⟨ruling', id, method, hruling, heq⟩
        exact ⟨ruling', id, method, List.mem_cons_of_mem _ hruling, heq⟩
      cases hfind : g.inFlight.find? other with
      | none =>
          rw [answer_cons_of_none hfind] at h
          exact hlater h
      | some request =>
          rw [answer_cons_of_find? hfind] at h
          rcases List.mem_cons.mp h with heq | hrest
          · cases heq
            exact ⟨ruling, request.id, request.method, List.mem_cons_self, rfl⟩
          · exact hlater hrest

/-- Who is in flight and not ruled on stays in flight. -/
theorem inFlight_of_answer (hthere : g.inFlight.contains call = true)
    (hnone : ∀ ruling, (call, ruling) ∉ rulings) :
    (g.answer rulings).1.inFlight.contains call = true := by
  induction rulings generalizing g with
  | nil => exact hthere
  | cons x rest ih =>
      rcases x with ⟨other, ruling⟩
      have hrest : ∀ r, (call, r) ∉ rest := fun r hr => hnone r (List.mem_cons_of_mem _ hr)
      cases hfind : g.inFlight.find? other with
      | none =>
          rw [answer_cons_of_none hfind]
          exact ih hthere hrest
      | some request =>
          rw [answer_cons_of_find? hfind]
          refine ih ?_ hrest
          have hne : other ≠ call := by
            rintro rfl
            exact hnone ruling List.mem_cons_self
          rw [Table.contains, Table.find?_erase_of_eq, if_neg hne]
          exact hthere

/-- Every answer takes one request from those in flight. -/
theorem countP_answer (g : Gateway) (rulings : List (CallId × Ruling)) (p : CallId → Bool) :
    (g.answer rulings).2.countP (fun a => p a.1) +
        (g.answer rulings).1.inFlight.entries.countP (fun e => p e.1) =
      g.inFlight.entries.countP fun e => p e.1 := by
  induction rulings generalizing g with
  | nil => exact Nat.zero_add _
  | cons x rest ih =>
      rcases x with ⟨call, ruling⟩
      cases hfind : g.inFlight.find? call with
      | none =>
          rw [answer_cons_of_none hfind]
          exact ih g
      | some request =>
          rw [answer_cons_of_find? hfind, List.countP_cons]
          have hone := Table.countP_erase hfind fun e => p e.1
          have hrest := ih { g with inFlight := g.inFlight.erase call }
          simp only [] at hone hrest ⊢
          omega

end Answers

section Queue

variable {g : Gateway} {dockets : Table CallId Docket} {inFlight : Table CallId InFlight}
  {rs : Registry.Step} {call : CallId}

theorem queue_config (g : Gateway) (dockets : Table CallId Docket)
    (inFlight : Table CallId InFlight) (rs : Registry.Step) :
    (g.queue dockets inFlight rs).1.config = g.config :=
  (answer_frame _ _).1

theorem queue_registry (g : Gateway) (dockets : Table CallId Docket)
    (inFlight : Table CallId InFlight) (rs : Registry.Step) :
    (g.queue dockets inFlight rs).1.desk.registry = (g.desk.registry.step rs).1 := by
  unfold queue
  rw [(answer_frame _ _).2]
  exact Desk.hearAll_registry _ _

/-- Who is answered to be admitted was returned so by a gate. -/
theorem admission_of_queue {response : Response}
    (h : (call, response) ∈ (g.queue dockets inFlight rs).2)
    (hadmission : response.isAdmission = true) :
    ∃ key, (key, .returned call true) ∈ (g.desk.registry.step rs).2 := by
  rcases mem_answer h with ⟨ruling, id, method, hruling, rfl⟩
  rcases Desk.mem_hearAll hruling with ⟨key, v, status, hreturned, rfl⟩
  cases v with
  | true => exact ⟨key, hreturned⟩
  | false =>
      have hrefusal := Response.not_isAdmission_of_refusal id method status
      exact absurd (hrefusal.symm.trans hadmission) Bool.false_ne_true

/-- Who is in flight and not returned by a gate stays in flight. -/
theorem inFlight_of_queue (hthere : inFlight.contains call = true)
    (hnone : ∀ key v, (key, .returned call v) ∉ (g.desk.registry.step rs).2) :
    (g.queue dockets inFlight rs).1.inFlight.contains call = true := by
  refine inFlight_of_answer hthere fun ruling hruling => ?_
  rcases Desk.mem_hearAll hruling with ⟨key, v, -, hreturned, -⟩
  exact hnone key v hreturned

/-- Every answer is to a request that was in flight, and is the last to it. -/
theorem countP_queue (g : Gateway) (dockets : Table CallId Docket)
    (inFlight : Table CallId InFlight) (rs : Registry.Step) (p : CallId → Bool) :
    (g.queue dockets inFlight rs).2.countP (fun a => p a.1) +
        (g.queue dockets inFlight rs).1.inFlight.entries.countP (fun e => p e.1) =
      inFlight.entries.countP fun e => p e.1 :=
  countP_answer _ _ p

end Queue

end Gateway

end Turnstile
