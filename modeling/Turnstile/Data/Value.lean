import Turnstile.Table

/-!
# Data Values

What a JSON or TOML text says: nulls, booleans, numbers, texts, lists and
objects. Configurations and queue states are written as values and read back
from them.

A record with named members may be written in two ways, as an object or as the
list of its members in their order. `Value.member?` looks a member up in either.
The two formats differ in one point: JSON refuses a list that is longer than
the record, TOML ignores what is left over.

Reading never says why it refuses; a value either has the wanted form or not.

## Main definitions

* `Value`: A data value.
* `Form`: The format that a value was read from.
* `Value.isRecord`: Whether a value can be a record with so many members.
* `Value.member?`: A member of a record.
* `Value.required?`, `Value.optional?`: Reading a member, with and without need.
* `Value.bounded?`: Reading an integer within bounds.
-/

namespace Turnstile

/-- A data value. -/
inductive Value where
  /-- The null value. -/
  | null
  /-- A boolean. -/
  | bool (b : Bool)
  /-- A number without fraction and exponent. -/
  | int (n : Int)
  /-- Any other number, as it is written. -/
  | real (written : String)
  /-- A text. -/
  | text (s : String)
  /-- A list. -/
  | list (items : List Value)
  /-- An object: named members in order. -/
  | object (members : List (String × Value))

/-- The format that a value was read from. -/
inductive Form where
  /-- A list in place of a record must not be longer than the record. -/
  | json
  /-- A list in place of a record may be longer than the record. -/
  | toml
deriving DecidableEq

namespace Value

instance : Inhabited Value := ⟨.null⟩

/-- The member of a name. -/
def lookup? (members : List (String × Value)) (name : String) : Option Value :=
  (members.find? fun m => m.1 == name).map (·.2)

/-- Whether a value can be a record with so many members. -/
def isRecord (form : Form) (arity : Nat) : Value → Bool
  | .object _ => true
  | .list items => form == .toml || items.length ≤ arity
  | _ => false

/-- The member of a record at a position, by name if it is an object. -/
def member? (v : Value) (position : Nat) (name : String) : Option Value :=
  match v with
  | .object members => lookup? members name
  | .list items => items[position]?
  | _ => none

/-- Read a member that has to be there. -/
def required? {α : Type} (v : Value) (position : Nat) (name : String)
    (read : Value → Option α) : Option α :=
  (v.member? position name).bind read

/-- Read a member that has a default. -/
def optional? {α : Type} (v : Value) (position : Nat) (name : String) (default : α)
    (read : Value → Option α) : Option α :=
  match v.member? position name with
  | some m => read m
  | none => some default

/-- Read something that may be null. -/
def nullable? {α : Type} (read : Value → Option α) : Value → Option (Option α)
  | .null => some none
  | v => (read v).map some

/-- Read an integer from `least` to `most`. -/
def bounded? (least most : Int) : Value → Option Int
  | .int n => if least ≤ n ∧ n ≤ most then some n else none
  | _ => none

/-- Read a number of sixteen bits. -/
def uint16? (v : Value) : Option UInt16 :=
  (v.bounded? 0 0xffff).map fun n => UInt16.ofNat n.toNat

/-- Read a number of thirty-two bits. -/
def uint32? (v : Value) : Option UInt32 :=
  (v.bounded? 0 0xffffffff).map fun n => UInt32.ofNat n.toNat

/-- Read a number of sixty-four bits. -/
def uint64? (v : Value) : Option UInt64 :=
  (v.bounded? 0 0xffffffffffffffff).map fun n => UInt64.ofNat n.toNat

/-- Read a signed number of thirty-two bits. -/
def int32? (v : Value) : Option Int32 :=
  (v.bounded? (-0x80000000) 0x7fffffff).map Int32.ofInt

/-- Read a boolean. -/
def bool? : Value → Option Bool
  | .bool b => some b
  | _ => none

/-- Read a text. -/
def text? : Value → Option String
  | .text s => some s
  | _ => none

/-- Read a list, item by item. -/
def list? {α : Type} (read : Value → Option α) : Value → Option (List α)
  | .list items => items.mapM read
  | _ => none

/-- Read an object as a table from names, which `key` reads, to what `read` reads. -/
def table? {κ α : Type} [Ord κ] [Std.TransOrd κ] (key : String → Option κ)
    (read : Value → Option α) : Value → Option (Table κ α)
  | .object members => do
    let entries ← members.mapM fun (name, v) => do return (← key name, ← read v)
    return Table.ofList entries
  | _ => none

/-- A natural number as a value. -/
def nat (n : Nat) : Value := .int n

/-- A value that may be absent, which is written as null. -/
def ofOption {α : Type} (write : α → Value) : Option α → Value
  | some a => write a
  | none => .null

/-- A table as an object. -/
def ofTable {κ α : Type} [Ord κ] (key : κ → String) (write : α → Value)
    (t : Table κ α) : Value :=
  .object (t.entries.map fun (k, a) => (key k, write a))

end Value

end Turnstile
