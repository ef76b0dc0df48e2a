import Turnstile.Data.Value

/-!
# Actions

What a gateway is to do with a request after a remedy has looked at it: let it
through, or answer it at once.

An action is written as an object whose member `action` tells which of the two
it is, beside the members of the answer. It may be read from a list as well,
which begins with the tag.

## Main definitions

* `EarlyResponse`, `Action`: The two ways to go on.
* `Action.tooManyRequests`: The answer to a refused request.
* `Action.toValue`, `Action.ofValue?`: The written form.
-/

namespace Turnstile

/-- An answer in place of letting a request through. -/
structure EarlyResponse where
  /-- The status of the answer. -/
  status : UInt16
  /-- The body of the answer. -/
  body : String
  /-- The content type of the body. -/
  contentType : String
deriving DecidableEq

/-- What to do with a request. -/
inductive Action where
  /-- Let it through. -/
  | pass
  /-- Answer it at once. -/
  | respond (response : EarlyResponse)
deriving DecidableEq

namespace Action

/-- The answer to a refused request. -/
def tooManyRequests (status : UInt16) : Action :=
  .respond { status, body := "Too many requests", contentType := "text/plain" }

/-- Whether a request goes through. -/
def isPass (a : Action) : Bool :=
  a = .pass

/-- An action as an object. -/
def toValue : Action → Value
  | .pass => .object [("action", .text "no_op")]
  | .respond r =>
    .object [
      ("action", .text "early_response"),
      ("status", .nat r.status.toNat),
      ("body", .text r.body),
      ("content_type", .text r.contentType)]

/-- Read the members of an answer, the tag aside. -/
def responseOfValue? (v : Value) : Option EarlyResponse := do
  guard (v.isRecord .json 3)
  let status ← v.required? 0 "status" (·.uint16?)
  let body ← v.required? 1 "body" (·.text?)
  let contentType ← v.required? 2 "content_type" (·.text?)
  return { status, body, contentType }

/-- Read what follows a tag. A list must be at its end after the tag of a request
    that goes through; an object may have further members. -/
def ofTagged? (tag : String) (rest : Value) : Option Action :=
  match tag with
  | "no_op" =>
    match rest with
    | .list (_ :: _) => none
    | _ => some .pass
  | "early_response" => (responseOfValue? rest).map .respond
  | _ => none

/-- Read an action. -/
def ofValue? : Value → Option Action
  | .object members => do
    let tag ← (Value.lookup? members "action").bind (·.text?)
    ofTagged? tag (.object members)
  | .list (tag :: rest) => do ofTagged? (← tag.text?) (.list rest)
  | _ => none

end Action

end Turnstile
