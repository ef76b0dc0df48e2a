import Turnstile.Data.Value

/-!
# Trees of Tables

What a TOML document has defined so far. Every table remembers how it came to
be, since that decides what may still be added to it: one under a heading of its
own is closed to dotted keys, one that was only implied by a longer heading may
still get its own, and one that dotted keys made may get neither a heading nor
keys from elsewhere.

A heading in double brackets adds a table to a list. Later keys and headings
that pass through the list mean the last table of it.

## Main definitions

* `Toml.Origin`: How a table came to be.
* `Toml.Node`, `Toml.Members`: A tree, and the members of a table.
* `Members.reach`: Act on the table at the end of a path.
* `Members.put`: Define a key.
* `Members.head`, `Members.headItem`: Add the table of a heading.
* `Members.toValue`: The object that a tree says.
-/

namespace Turnstile

namespace Toml

/-- How a table came to be. -/
inductive Origin where
  /-- It has a heading of its own, or is the document itself. -/
  | heading
  /-- A longer heading passes through it. -/
  | implied
  /-- Dotted keys pass through it. -/
  | dotted
deriving DecidableEq

/-- A tree. -/
inductive Node where
  /-- A value, to which nothing can be added. -/
  | value (v : Value)
  /-- A table. -/
  | table (origin : Origin) (members : List (String × Node))
  /-- A list of tables, the last one first. -/
  | tables (items : List (List (String × Node)))

/-- The members of a table in order. -/
abbrev Members := List (String × Node)

namespace Members

/-- The member of a name. -/
def member? (ms : Members) (name : String) : Option Node :=
  ms.lookup name

/-- Members with one replaced, or added at the end. -/
def set (name : String) (n : Node) : Members → Members
  | [] => [(name, n)]
  | m :: ms => if m.1 == name then (name, n) :: ms else m :: set name n ms

/-- Act on the table at the end of a path, where `origin` tells how the table
    that the path starts from came to be. Tables that are missing on the way are
    made. A path of a dotted key must not pass through a table with a heading. -/
def reach (dotted : Bool) (act : Origin → Members → Option Members) :
    List String → Origin → Members → Option Members
  | [], origin, ms => act origin ms
  | name :: path, _, ms =>
    match ms.member? name with
    | none => do
      let origin := if dotted then .dotted else .implied
      let inner ← reach dotted act path origin []
      return ms.set name (.table origin inner)
    | some (.value _) => none
    | some (.table origin inner) => do
      if dotted && origin = .heading then none
      let inner ← reach dotted act path origin inner
      return ms.set name (.table origin inner)
    | some (.tables []) => none
    | some (.tables (last :: earlier)) => do
      let last ← reach dotted act path .heading last
      return ms.set name (.tables (last :: earlier))

/-- A path without its last name, and the last name. -/
def splitLast? (path : List String) : Option (List String × String) :=
  path.getLast?.map fun last => (path.dropLast, last)

/-- Define a key in a table. If the key is dotted, the table that it defines a
    member of must have been made by dotted keys. -/
def put (path : List String) (v : Value) (ms : Members) : Option Members := do
  let (path, name) ← splitLast? path
  ms.reach true (fun origin ms =>
    if (path.isEmpty || origin = .dotted) && (ms.member? name).isNone then
      some (ms.set name (.value v))
    else none) path .heading

/-- Define keys in a table. -/
def putAll (pairs : List (List String × Value)) (ms : Members) : Option Members :=
  pairs.foldlM (fun ms (path, v) => ms.put path v) ms

/-- Add the table of a heading with its keys. It must be new or only implied. -/
def head (path : List String) (pairs : List (List String × Value)) (ms : Members) :
    Option Members := do
  let (path, name) ← splitLast? path
  ms.reach false (fun _ ms => do
    let inner ←
      match ms.member? name with
      | none => putAll pairs []
      | some (.table .implied inner) => putAll pairs inner
      | _ => none
    return ms.set name (.table .heading inner)) path .heading

/-- Add a table with its keys to the list of a heading. -/
def headItem (path : List String) (pairs : List (List String × Value)) (ms : Members) :
    Option Members := do
  let (path, name) ← splitLast? path
  ms.reach false (fun _ ms => do
    let item ← putAll pairs []
    match ms.member? name with
    | none => return ms.set name (.tables [item])
    | some (.tables items) => return ms.set name (.tables (item :: items))
    | _ => none) path .heading

end Members

mutual

/-- What a tree says. -/
def Node.toValue : Node → Value
  | .value v => v
  | .table _ ms => .object (Members.toEntries ms)
  | .tables items => .list (Members.toObjects items).reverse

/-- What the members of a table say. -/
def Members.toEntries : List (String × Node) → List (String × Value)
  | [] => []
  | (name, n) :: ms => (name, n.toValue) :: Members.toEntries ms

/-- What each table of a list says. -/
def Members.toObjects : List (List (String × Node)) → List Value
  | [] => []
  | ms :: items => .object (Members.toEntries ms) :: Members.toObjects items

end

/-- The object that the members of a table make. -/
def Members.toValue (ms : Members) : Value :=
  .object (Members.toEntries ms)

end Toml

end Turnstile
