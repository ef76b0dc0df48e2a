import Turnstile.Log.Directive

/-!
# Log Filters

Filters that refine which lines are logged. They are described by directives,
separated by commas; those that make no sense are passed over.

A filter keeps what can be decided before the program runs apart from what
cannot, each with the most specific directive first, and of two directives for
the same lines it keeps the later one. It remembers the most that any directive
let pass, even one that was replaced. If no directive is left, the filter has
the one that sets the configured level.

## Main definitions

* `Log.Directives`: Directives in order.
* `Log.Filter`: A filter.
* `Log.Filter.ofText?`: The filter that a text of directives describes.
* `Log.Filter.text`, `Log.Filter.threshold`: Its text and the most it lets pass.
-/

namespace Turnstile

namespace Log

/-- The variable that describes a filter. -/
def filterVariable : String := "RUST_LOG"

/-- Directives, the most specific first. -/
structure Directives where
  /-- The directives. -/
  list : List Directive := []
  /-- The most that any directive let pass, replaced ones included. -/
  most : Threshold := none
deriving DecidableEq

namespace Directives

/-- A list of directives with one more, in place of one for the same lines. -/
def place (d : Directive) : List Directive → List Directive
  | [] => [d]
  | e :: rest =>
    match Directive.order d e with
    | .lt => d :: e :: rest
    | .eq => d :: rest
    | .gt => e :: place d rest

/-- One directive more. -/
def insert (ds : Directives) (d : Directive) : Directives :=
  { list := place d ds.list, most := ds.most.max d.level }

/-- The directives of a list, put in one after the other. -/
def ofList (ds : List Directive) : Directives :=
  ds.foldl insert {}

/-- Whether a directive asks for the value of a field. -/
def haveValues (ds : Directives) : Bool :=
  ds.list.any fun d => d.field.any (·.value.isSome)

end Directives

/-- A filter. -/
structure Filter where
  /-- What can be decided before the program runs. -/
  statics : Directives
  /-- What is decided while it runs. -/
  dynamics : Directives
deriving DecidableEq

namespace Filter

/-- The filter of a list of directives. -/
def ofDirectives (ds : List Directive) : Filter :=
  let dynamics := ds.filter (·.isDynamic)
  { statics := .ofList (ds.filter (!·.isDynamic) ++ dynamics.filterMap (·.static?))
    dynamics := .ofList dynamics }

/-- The directives of a list of texts that make sense; `none` if one is torn. -/
def directives? : List String → Option (List Directive)
  | [] => some []
  | s :: rest =>
    match Directive.parse s with
    | .ok d => (directives? rest).map (d :: ·)
    | .error .senseless => directives? rest
    | .error .torn => none

/-- The filter that a text of directives describes, or the one that sets the
    level `default`; `none` if a directive is torn. -/
def ofText? (default : Level) (s : String) : Option Filter :=
  (directives? (s.splitOn ",")).map fun ds =>
    ofDirectives (if ds.isEmpty then [{ level := some default }] else ds)

/-- The text of a filter. -/
def text (f : Filter) : String :=
  ",".intercalate ((f.statics.list ++ f.dynamics.list).map Directive.text)

/-- The most that a filter lets pass. A directive with a value has to see everything. -/
def threshold (f : Filter) : Threshold :=
  if f.dynamics.haveValues then Threshold.most else f.statics.most.max f.dynamics.most

end Filter

end Log

end Turnstile
