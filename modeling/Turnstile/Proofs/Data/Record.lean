import Mathlib.Data.List.Forall2
import Mathlib.Data.Option.Basic
import Turnstile.Data.Value
import Turnstile.Proofs.Table

/-!
# Written Records

A record is read member by member, each under its name, and what has a default may be
missing. So there are many ways to write one record: members that have their defaults may be
left out, members of names that nobody asks for may be added, and the order does not matter.

`Value.Writes` says this of an object without saying how it is read. A record is given by its
fields, and a field by its name, by the values that it may be written with, and by whether it
may be left out. What a field may be written with can be a record again, so the law holds at
any depth once it holds at each.

## Main definitions

* `Field`: A field of a record, as far as its written form goes.
* `Abridges`: Members in the order of the fields, some left out and some added.
* `Value.Writes`: An object that stands for the fields.
* `Value.WritesOption`, `Value.WritesList`, `Value.WritesTable`: A record that may be absent,
  a list of records, and one for each key.

## Theorems

* `member?_of_writes`: A field is found as it is written, or not at all if it may be left out.
* `required?_of_writes`, `optional?_of_writes`: So it is read with what it is read from.
* `nullable?_of_writes`, `list?_of_writes`, `table?_of_writes`: So are records within an option, a
  list and a table, once each of them is.
* `table?_ofTable`: A table is read back from what it is written as.
* `uint16?_nat`, `uint32?_nat`, `uint64?_nat`, `int32?_int`: Numbers are read as written.
-/

namespace Turnstile

/-- A field of a record, as far as its written form goes. -/
structure Field where
  /-- The name of the member. -/
  name : String
  /-- The values that the member may have. -/
  Holds : Value → Prop
  /-- The member may be left out. -/
  Spare : Prop := False

/-- Members that stand for fields in their order: each is there or left out, and others may
    stand between them, of names that are not `known`. -/
inductive Abridges (known : List String) : List Field → List (String × Value) → Prop where
  /-- No field is left. -/
  | nil : Abridges known [] []
  /-- A field is written. -/
  | keep {f : Field} {fields : List Field} {v : Value} {members : List (String × Value)}
      (holds : f.Holds v) (rest : Abridges known fields members) :
      Abridges known (f :: fields) ((f.name, v) :: members)
  /-- A field is left out. -/
  | leave {f : Field} {fields : List Field} {members : List (String × Value)}
      (spare : f.Spare) (rest : Abridges known fields members) :
      Abridges known (f :: fields) members
  /-- A member is added. -/
  | add {fields : List Field} {name : String} {v : Value} {members : List (String × Value)}
      (unknown : name ∉ known) (rest : Abridges known fields members) :
      Abridges known fields ((name, v) :: members)

/-- An object whose members stand for the fields, in any order. -/
def Value.Writes (fields : List Field) (v : Value) : Prop :=
  ∃ members listed, v = .object members ∧ members.Perm listed ∧
    Abridges (fields.map (·.name)) fields listed

/-- How a field occurs among members: once as it may be written, or not at all if it may be left
    out. -/
def Field.Occurs (f : Field) (members : List (String × Value)) : Prop :=
  (∃ v, f.Holds v ∧ (f.name, v) ∈ members ∧ ∀ w, (f.name, w) ∈ members → w = v) ∨
    (f.Spare ∧ ∀ w, (f.name, w) ∉ members)

/-- A member of another name does not matter. -/
theorem Field.occurs_cons {f : Field} {members : List (String × Value)} {name : String}
    (h : f.Occurs members) (hne : f.name ≠ name) (v : Value) : f.Occurs ((name, v) :: members) := by
  have hback : ∀ {w}, (f.name, w) ∈ (name, v) :: members → (f.name, w) ∈ members := fun {w} hw =>
    (List.mem_cons.mp hw).resolve_left fun heq => hne (Prod.mk.inj heq).1
  -- Found once among more members, or among none of them still.
  rcases h with ⟨w, hw, hin, honly⟩ | ⟨hspare, hnone⟩
  · exact Or.inl ⟨w, hw, List.mem_cons_of_mem _ hin, fun u hu => honly u (hback hu)⟩
  · exact Or.inr ⟨hspare, fun w hw => hnone w (hback hw)⟩

namespace Abridges

variable {known : List String} {fields : List Field} {members : List (String × Value)} {f : Field}

theorem name_of_mem (h : Abridges known fields members) {name : String} {v : Value}
    (hmem : (name, v) ∈ members) : name ∈ fields.map (·.name) ∨ name ∉ known := by
  induction h with
  | nil => exact absurd hmem List.not_mem_nil
  | keep _ _ ih =>
      rcases List.mem_cons.mp hmem with heq | hrest
      · cases heq
        exact Or.inl List.mem_cons_self
      · exact (ih hrest).imp_left (List.mem_cons_of_mem _)
  | leave _ _ ih => exact (ih hmem).imp_left (List.mem_cons_of_mem _)
  | add unknown _ ih =>
      rcases List.mem_cons.mp hmem with heq | hrest
      · cases heq
        exact Or.inr unknown
      · exact ih hrest

theorem not_mem (h : Abridges known fields members) {name : String} (hknown : name ∈ known)
    (hfresh : name ∉ fields.map (·.name)) (w : Value) : (name, w) ∉ members := fun hw =>
  (h.name_of_mem hw).elim hfresh (· hknown)

/-- Every field occurs as it should, if no two have one name. -/
theorem occurs (h : Abridges known fields members) (hnames : (fields.map (·.name)).Nodup)
    (hknown : ∀ g ∈ fields, g.name ∈ known) (hf : f ∈ fields) : f.Occurs members := by
  induction h with
  | nil => exact absurd hf List.not_mem_nil
  | @keep g fields v members holds rest ih =>
      rcases List.nodup_cons.mp hnames with ⟨hfresh, hrest⟩
      rcases List.mem_cons.mp hf with rfl | hmem
      · refine Or.inl ⟨v, holds, List.mem_cons_self, fun w hw => ?_⟩
        rcases List.mem_cons.mp hw with heq | hw
        · exact (Prod.mk.inj heq).2
        · exact absurd hw (rest.not_mem (hknown f List.mem_cons_self) hfresh w)
      · -- A later field has another name than this one.
        have hne : f.name ≠ g.name := fun heq => hfresh (List.mem_map.mpr ⟨f, hmem, heq⟩)
        have hlater := ih hrest (fun g hg => hknown g (List.mem_cons_of_mem _ hg)) hmem
        exact Field.occurs_cons hlater hne v
  | @leave g fields members spare rest ih =>
      rcases List.nodup_cons.mp hnames with ⟨hfresh, hrest⟩
      rcases List.mem_cons.mp hf with rfl | hmem
      · exact Or.inr ⟨spare, rest.not_mem (hknown f List.mem_cons_self) hfresh⟩
      · exact ih hrest (fun g hg => hknown g (List.mem_cons_of_mem _ hg)) hmem
  | @add fields name v members unknown rest ih =>
      have hne : f.name ≠ name := fun heq => unknown (heq ▸ hknown f hf)
      exact Field.occurs_cons (ih hnames hknown hf) hne v

end Abridges

theorem mapM_of_forall₂ {α β : Type} {read : β → Option α} {items : List β} {l : List α}
    (h : List.Forall₂ (fun w a => read w = some a) items l) : items.mapM read = some l := by
  induction h with
  | nil => rfl
  | cons hread _ ih =>
      rw [List.mapM_cons, hread, ih]
      rfl

namespace Value

variable {fields : List Field} {v : Value} {f : Field} {form : Form}

theorem isRecord_of_writes (h : v.Writes fields) (form : Form) (arity : Nat) :
    v.isRecord form arity = true := by
  rcases h with ⟨members, listed, rfl, -, -⟩
  rfl

variable {position : Nat}

/-- A field is found as it is written, or not at all if it may be left out. -/
theorem member?_of_writes (h : v.Writes fields) (hnames : (fields.map (·.name)).Nodup)
    (hf : fields[position]? = some f) :
    (∃ w, f.Holds w ∧ v.member? position f.name = some w) ∨
      (f.Spare ∧ v.member? position f.name = none) := by
  rcases h with ⟨members, listed, rfl, hperm, habridges⟩
  have hoccurs := habridges.occurs hnames (fun g hg => List.mem_map.mpr ⟨g, hg, rfl⟩)
    (List.mem_of_getElem? hf)
  simp only [member?, lookup?]
  -- The first member of the name is found, and there is at most one.
  cases hfind : members.find? fun m => m.1 == f.name with
  | none =>
      refine Or.inr ⟨?_, rfl⟩
      rcases hoccurs with ⟨w, -, hin, -⟩ | ⟨hspare, -⟩
      · exact absurd (beq_self_eq_true f.name)
          (List.find?_eq_none.mp hfind _ (hperm.mem_iff.mpr hin))
      · exact hspare
  | some m =>
      have hname := List.find?_some hfind
      have hmem : (f.name, m.2) ∈ listed := by
        rw [← beq_iff_eq.mp hname]
        exact hperm.mem_iff.mp (List.mem_of_find?_eq_some hfind)
      rcases hoccurs with ⟨w, hw, -, honly⟩ | ⟨-, hnone⟩
      · exact Or.inl ⟨m.2, honly _ hmem ▸ hw, rfl⟩
      · exact absurd hmem (hnone m.2)

section Reading

variable {α : Type} {read : Value → Option α} {a default : α}

/-- A field that has to be there is read with what it is read from. -/
theorem required?_of_writes (h : v.Writes fields) (hnames : (fields.map (·.name)).Nodup)
    (hf : fields[position]? = some f) (hneeded : ¬f.Spare)
    (hread : ∀ w, f.Holds w → read w = some a) : v.required? position f.name read = some a := by
  rcases member?_of_writes h hnames hf with ⟨w, hw, hfind⟩ | ⟨hspare, -⟩
  · rw [required?, hfind]
    exact hread w hw
  · exact absurd hspare hneeded

/-- A field that may be left out is read as its default if it is. -/
theorem optional?_of_writes (h : v.Writes fields) (hnames : (fields.map (·.name)).Nodup)
    (hf : fields[position]? = some f) (hspare : f.Spare → default = a)
    (hread : ∀ w, f.Holds w → read w = some a) :
    v.optional? position f.name default read = some a := by
  rcases member?_of_writes h hnames hf with ⟨w, hw, hfind⟩ | ⟨hleft, hfind⟩
  · simp only [optional?, hfind]
    exact hread w hw
  · simp only [optional?, hfind]
    rw [hspare hleft]

end Reading

/-! ### Records within records -/

section Nesting

variable {α : Type} {read : Value → Option α}

/-- Null, or an object that stands for the fields of what is there. -/
def WritesOption (fieldsOf : α → List Field) (o : Option α) (v : Value) : Prop :=
  match o with
  | none => v = .null
  | some a => v.Writes (fieldsOf a)

/-- A list with one item for each member, in their order. -/
def WritesList (fieldsOf : α → List Field) (l : List α) (v : Value) : Prop :=
  ∃ items, v = .list items ∧ List.Forall₂ (fun w a => w.Writes (fieldsOf a)) items l

/-- An object with one member for each entry, in any order, and no others. -/
def WritesTable (fieldsOf : α → List Field) (t : Table String α) (v : Value) : Prop :=
  ∃ members entries, v = .object members ∧ entries.Perm t.entries ∧
    List.Forall₂ (fun m e => m.1 = e.1 ∧ m.2.Writes (fieldsOf e.2)) members entries

theorem nullable?_of_writes {fieldsOf : α → List Field} {o : Option α}
    (h : v.WritesOption fieldsOf o) (hread : ∀ a w, w.Writes (fieldsOf a) → read w = some a) :
    v.nullable? read = some o := by
  cases o with
  | none =>
      cases h
      rfl
  | some a =>
      have hsome := hread a v h
      rcases h with ⟨members, listed, rfl, -, -⟩
      rw [nullable?, hsome]
      · rfl
      · exact nofun

theorem list?_of_writes {fieldsOf : α → List Field} {l : List α} (h : v.WritesList fieldsOf l)
    (hread : ∀ a w, w.Writes (fieldsOf a) → read w = some a) : v.list? read = some l := by
  rcases h with ⟨items, rfl, hall⟩
  exact mapM_of_forall₂ (hall.imp fun w a => hread a w)

/-- A table is read from an object whose members are read as its entries, in any order. -/
theorem table?_of_forall₂ {κ : Type} [Ord κ] [Std.TransOrd κ] [Std.LawfulEqOrd κ] [DecidableEq κ]
    {key : String → Option κ} {t : Table κ α} {members : List (String × Value)}
    {entries : List (κ × α)} (hperm : entries.Perm t.entries)
    (h : List.Forall₂ (fun m e => key m.1 = some e.1 ∧ read m.2 = some e.2) members entries) :
    (object members).table? key read = some t := by
  have hentries : List.Forall₂ (fun m e =>
      (do return (← key m.1, ← read m.2) : Option (κ × α)) = some e) members entries :=
    h.imp fun m e ⟨hkey, hread⟩ => by
      rw [hkey, hread]
      rfl
  have hmembers := mapM_of_forall₂ hentries
  simp only [table?]
  rw [hmembers]
  exact congrArg some (Table.ofList_of_perm hperm)

theorem table?_of_writes {fieldsOf : α → List Field} {t : Table String α}
    (h : v.WritesTable fieldsOf t) (hread : ∀ a w, w.Writes (fieldsOf a) → read w = some a) :
    v.table? some read = some t := by
  rcases h with ⟨members, entries, rfl, hperm, hall⟩
  exact table?_of_forall₂ hperm (hall.imp fun m e ⟨hname, hwrites⟩ =>
    ⟨congrArg some hname, hread e.2 m.2 hwrites⟩)

/-- A table is read back from what it is written as, if keys and values are. -/
theorem table?_ofTable {κ : Type} [Ord κ] [Std.TransOrd κ] [Std.LawfulEqOrd κ] [DecidableEq κ]
    {key : String → Option κ} {name : κ → String} {write : α → Value}
    (hkey : ∀ k, key (name k) = some k) (hread : ∀ a, read (write a) = some a) (t : Table κ α) :
    (ofTable name write t).table? key read = some t :=
  table?_of_forall₂ (List.Perm.refl _)
    (List.forall₂_map_left_iff.mpr (List.forall₂_same.mpr fun e _ => ⟨hkey e.1, hread e.2⟩))

end Nesting

/-! ### Numbers -/

theorem uint16?_nat (n : UInt16) : (nat n.toNat).uint16? = some n := by
  have hlt := n.toNat_lt
  have hbounded : (nat n.toNat).bounded? 0 0xffff = some (n.toNat : Int) :=
    if_pos ⟨by omega, by omega⟩
  rw [uint16?, hbounded, Option.map_some, Int.toNat_natCast, UInt16.ofNat_toNat]

theorem uint32?_nat (n : UInt32) : (nat n.toNat).uint32? = some n := by
  have hlt := n.toNat_lt
  have hbounded : (nat n.toNat).bounded? 0 0xffffffff = some (n.toNat : Int) :=
    if_pos ⟨by omega, by omega⟩
  rw [uint32?, hbounded, Option.map_some, Int.toNat_natCast, UInt32.ofNat_toNat]

theorem uint64?_nat (n : UInt64) : (nat n.toNat).uint64? = some n := by
  have hlt := n.toNat_lt
  have hbounded : (nat n.toNat).bounded? 0 0xffffffffffffffff = some (n.toNat : Int) :=
    if_pos ⟨by omega, by omega⟩
  rw [uint64?, hbounded, Option.map_some, Int.toNat_natCast, UInt64.ofNat_toNat]

theorem int32?_int (n : Int32) : (Value.int n.toInt).int32? = some n := by
  have hleast := n.le_toInt
  have hmost := n.toInt_lt
  have hbounded : (Value.int n.toInt).bounded? (-0x80000000) 0x7fffffff = some n.toInt :=
    if_pos ⟨by omega, by omega⟩
  rw [int32?, hbounded, Option.map_some, Int32.ofInt_toInt]

end Value

end Turnstile
