import Turnstile.Data.Json
import Turnstile.Desk.Basic
import Turnstile.Http.Uri
import Turnstile.Wire.Queue

/-!
# Gateways

The two listeners of a gateway and their routes. On the gateway's own listener,
`/admit/` followed by the name of an enabled remedy takes a request of any
method to the desk, and `/queues` shows the gates. On the listener for metrics,
`/metrics` shows the metrics and `/health` that somebody is there. The three
that show something are read only; any other method is refused. A `HEAD`
request is answered without a body, and so is a `CONNECT` request that succeeds.

A request keeps the number it brings in its header `x-request-id`, and is given
a fresh one if it brings none that is text.

## Main definitions

* `Listener`, `Route`: Where a request comes in, and what it asks for.
* `Response`: The answer to a request.
* `Gateway`: The state of a gateway.
* `Gateway.Step`, `Gateway.step`, `Gateway.run`: What can happen to a gateway.
-/

namespace Turnstile

/-- The listener that a request comes in at. -/
inductive Listener where
  /-- The gateway's own. -/
  | gateway
  /-- The one for metrics. -/
  | metrics
deriving DecidableEq

/-- A request as it comes in. -/
structure Message where
  /-- The method. -/
  method : String
  /-- The path, with its escapes. -/
  path : String
  /-- The headers. -/
  headers : Headers
deriving DecidableEq

/-- Whether a text is a request method. -/
def Message.isMethod (s : String) : Bool :=
  s != "" && s.toList.all isTokenChar

/-- What a request asks for. -/
inductive Route where
  /-- Admission to a remedy; the name may hold escapes. -/
  | admission (escaped : String)
  /-- The state of the gates. -/
  | queues
  /-- The metrics. -/
  | metrics
  /-- Whether somebody is there. -/
  | health
deriving DecidableEq

/-- The answer to a request. -/
structure Response where
  /-- The status. -/
  status : Nat
  /-- The content type of the body, if it is told. -/
  contentType : Option String := none
  /-- The number of the request, if it is told. -/
  requestId : Option String := none
  /-- The methods that are allowed, if they are told. -/
  allow : Option String := none
  /-- The body. -/
  body : String := ""
deriving DecidableEq

/-- What a path asks for at a listener. A remedy's name is one nonempty segment. -/
def Route.of? (listener : Listener) (path : String) : Option Route :=
  match listener with
  | .gateway =>
    if path = "/queues" then some .queues
    else
      match path.toList with
      | '/' :: 'a' :: 'd' :: 'm' :: 'i' :: 't' :: '/' :: name =>
        if name.isEmpty || name.contains '/' then none else some (.admission (String.ofList name))
      | _ => none
  | .metrics =>
    if path = "/metrics" then some .metrics
    else if path = "/health" then some .health
    else none

namespace Response

/-- A text with a status. -/
def plain (status : Nat) (body : String) : Response :=
  { status, contentType := some "text/plain; charset=utf-8", body }

/-- Nothing is there. -/
def notFound : Response := { status := 404 }

/-- The route is read only. -/
def readOnly : Response := { status := 405, allow := some "GET,HEAD" }

/-- The request was admitted. -/
def admitted (id : String) : Response :=
  { plain 200 "admitted" with requestId := some id }

/-- The status that an answer is sent with: a configured one that is no status is
    replaced. -/
def statusOf (configured : UInt16) : Nat :=
  if 100 ≤ configured.toNat ∧ configured.toNat ≤ 999 then configured.toNat else 429

/-- The answer that follows from a ruling. A remedy without a queue rule lets
    every request through. -/
def ofRuling (id : String) : Ruling → Response
  | .ok .pass => admitted id
  | .ok (.respond r) =>
    { status := statusOf r.status, contentType := some r.contentType
      requestId := some id, body := r.body }
  | .error (.missingConfig _) => admitted id

/-- Whether the status tells that a request succeeded. -/
def isSuccess (r : Response) : Bool :=
  200 ≤ r.status && r.status < 300

/-- The answer without its body, if the request asked for the head only, or for a
    connection and is granted one. -/
def toMethod (method : String) (r : Response) : Response :=
  if method = "HEAD" ∨ (method = "CONNECT" ∧ r.isSuccess) then { r with body := "" } else r

end Response

/-- What is remembered of a request until it is answered. -/
structure InFlight where
  /-- The number of the request. -/
  id : String
  /-- Its method. -/
  method : String
deriving DecidableEq

/-- The state of a gateway. -/
structure Gateway where
  /-- What it was set up with. -/
  config : Config
  /-- The desk that requests are taken to. -/
  desk : Desk
  /-- The requests that wait for an answer. -/
  inFlight : Table CallId InFlight

namespace Gateway

/-- What can happen to a gateway. -/
inductive Step where
  /-- A request comes in; `fresh` is its number if it brings none. -/
  | request (listener : Listener) (call : CallId) (message : Message) (fresh : String)
      (now : Instant)
  /-- Something happens at a gate, other than an arrival. -/
  | gate (key : Key) (event : Event)
  /-- All gates are closed. -/
  | closeAll

/-- A gateway with a configuration that nobody has come to. -/
def start (config : Config) : Gateway := ⟨config, Desk.empty, Table.empty⟩

/-- Answer the requests that the desk has ruled on. -/
def answer (g : Gateway) : List (CallId × Ruling) → Gateway × List (CallId × Response)
  | [] => (g, [])
  | (call, ruling) :: rulings =>
    match g.inFlight.find? call with
    | some request =>
      let response := (Response.ofRuling request.id ruling).toMethod request.method
      let (g, rest) := { g with inFlight := g.inFlight.erase call }.answer rulings
      (g, (call, response) :: rest)
    | none => g.answer rulings

/-- Let something happen at the desk, and answer what it has ruled on. -/
def atDesk (g : Gateway) (s : Desk.Step) : Gateway × List (CallId × Response) :=
  let (desk, rulings) := g.desk.step s
  { g with desk }.answer rulings

/-- The number that a request brings, if it is text. -/
def requestId? (headers : Headers) : Option String := do
  (← headers.first? "x-request-id").text?

/-- A request for admission. A number that a waiting request still bears is no new
    request. -/
def admitTo (g : Gateway) (call : CallId) (message : Message) (escaped fresh : String)
    (now : Instant) : Gateway × List (CallId × Response) :=
  let reply := fun r : Response => (g, [(call, r.toMethod message.method)])
  match Uri.decode? escaped with
  | none => reply (.plain 400 "Invalid URL: Invalid UTF-8 in \x60remedy\x60")
  | some name =>
    match g.config.remedy? name with
    | none => reply (.plain 404 ("Unknown remedy: " ++ name))
    | some remedy =>
      if g.inFlight.contains call then (g, [])
      else
        let id := (requestId? message.headers).getD fresh
        { g with inFlight := g.inFlight.insert call { id, method := message.method } }.atDesk
          (.request call remedy id message.headers now)

/-- The answer of a route that shows something. -/
def show? (g : Gateway) : Route → Option Response
  | .queues =>
    some { status := 200, contentType := some "application/json"
           body := Json.compact (.list (g.desk.registry.snapshot.map Registered.toValue)) }
  | .metrics => some (.plain 200 g.desk.metrics)
  | .health => some { status := 200 }
  | .admission _ => none

/-- A request that comes in. -/
def request (g : Gateway) (listener : Listener) (call : CallId) (message : Message)
    (fresh : String) (now : Instant) : Gateway × List (CallId × Response) :=
  let reply := fun r : Response => (g, [(call, r.toMethod message.method)])
  match Route.of? listener message.path with
  | none => reply .notFound
  | some (.admission escaped) => g.admitTo call message escaped fresh now
  | some route =>
    if message.method = "GET" ∨ message.method = "HEAD" then
      reply ((g.show? route).getD .notFound)
    else reply .readOnly

/-- One step. -/
def step (g : Gateway) : Step → Gateway × List (CallId × Response)
  | .request listener call message fresh now => g.request listener call message fresh now
  | .gate key (.drop call) =>
    if (g.desk.registry.find? key).any (·.callers.contains call) then
      { g with inFlight := g.inFlight.erase call }.atDesk (.gate key (.drop call))
    else (g, [])
  | .gate key event => g.atDesk (.gate key event)
  | .closeAll => g.atDesk .closeAll

/-- A sequence of steps. -/
def run (g : Gateway) : List Step → Gateway × List (CallId × Response)
  | [] => (g, [])
  | s :: ss =>
    let (g, first) := g.step s
    let (g, rest) := g.run ss
    (g, first ++ rest)

end Gateway

end Turnstile
