import Std.Data.String.ToInt
import Turnstile.Proofs.Data.Record
import Turnstile.Proofs.Time.Stamp
import Turnstile.Wire.Queue

/-!
# Queue States Are Read Back

A snapshot is read back from what it is written as: a span from its seconds and the rest, the
start of a window from a text, and the counts from an object whose names are priorities.

A registered snapshot has the same members in one flat object, and there the counts go through
another reader, which does not understand names that are numbers. So the members are read by one
lemma, with the reader of the counts left open, and the two kinds of snapshots differ in what
that reader makes of the counts: all of them, or nothing unless there are none.

## Theorems

* `Span.ofValue?_toValue`, `Policy.ofValue?_toValue`: Spans and policies are read back.
* `Priority.parse?_text`: Priorities are read back from plain decimal.
* `Snapshot.ofMembers?_of_member?`: The members of a snapshot, whichever reader the counts have.
* `Snapshot.ofValue?_snapshot`: What a gate shows of itself is read back.
* `Registered.noCounts?_waitingValue`: Counts in a flat object are read only if there are none.
* `Snapshot.read_back_unless_flattened`: Snapshots are read back, and registered ones if nobody
  waits; what is not read back is an error.
-/

namespace Turnstile

theorem Span.ofParts?_split (d : Span) : ofParts? d.seconds d.subsecond = some d := by
  have hsum : d.seconds * nanosPerSecond + d.subsecond = d.nanos :=
    Nat.div_add_mod' d.nanos nanosPerSecond
  rw [ofParts?, hsum, ofNanos?, dif_pos d.short]

theorem Span.ofValue?_toValue (d : Span) : Span.ofValue? d.toValue = some d := by
  have hshort : d.nanos < nanosPerSecond * UInt64.size := by
    rw [Nat.mul_comm]
    exact d.short
  have hseconds : (UInt64.ofNat d.seconds).toNat = d.seconds :=
    UInt64.toNat_ofNat_of_lt' (Nat.div_lt_of_lt_mul hshort)
  have hrest : (UInt32.ofNat d.subsecond).toNat = d.subsecond :=
    UInt32.toNat_ofNat_of_lt' (Nat.lt_trans (Nat.mod_lt _ (by decide)) (by decide))
  have hread := Value.uint64?_nat (UInt64.ofNat d.seconds)
  have hread' := Value.uint32?_nat (UInt32.ofNat d.subsecond)
  rw [hseconds] at hread
  rw [hrest] at hread'
  have hfirst : d.toValue.required? 0 "secs" (·.uint64?) = some (UInt64.ofNat d.seconds) := hread
  have hsecond : d.toValue.required? 1 "nanos" (·.uint32?) = some (UInt32.ofNat d.subsecond) :=
    hread'
  have hrecord : (d.toValue.isRecord .json 2 && ofValue?.known d.toValue) = true := by
    simp only [toValue, Value.isRecord, ofValue?.known, List.all_cons, List.all_nil,
      beq_self_eq_true, Bool.true_or, Bool.or_true, Bool.and_true]
  have hguard : (guard (d.toValue.isRecord .json 2 && ofValue?.known d.toValue) : Option Unit) =
      some () := if_pos hrecord
  -- Each step is rewritten: compared by computation, the bound of a span would be unfolded.
  rw [ofValue?, hguard, hfirst, hsecond, Option.bind_eq_bind, Option.bind_some,
    Option.bind_eq_bind, Option.bind_some, Option.bind_eq_bind, Option.bind_some, hseconds, hrest,
    ofParts?_split]

theorem Policy.ofValue?_toValue (p : Policy) : Policy.ofValue? p.toValue = some p := by
  show (do
    let quota ← (Value.nat p.quota.toNat).uint32?
    let window ← Span.ofValue? p.window.toValue
    return { quota, window } : Option Policy) = some p
  rw [Value.uint32?_nat, Span.ofValue?_toValue]
  rfl

/-- A priority is read back from plain decimal. -/
theorem Priority.parse?_text (p : Priority) : Priority.parse? p.text = some p := by
  -- Only the plain decimal of a number is taken for it, with no zeros or plus in front.
  have hdecimal : p.text.toInt? = some p.toInt := Int.toInt?_repr p.toInt
  have hplain : (toString p.toInt == p.text) = true := beq_self_eq_true _
  simp only [parse?, hdecimal, hplain, Option.bind_eq_bind, Option.bind_some, guard_true,
    Option.pure_def, Value.int32?_int]

theorem waitingOfValue?_waitingValue (t : Table Priority UInt64) :
    waitingOfValue? (waitingValue t) = some t :=
  Value.table?_ofTable Priority.parse?_text Value.uint64?_nat t

namespace Snapshot

/-- The members of a snapshot are read from what has them, its counts by whichever reader they
    have. -/
theorem ofMembers?_of_member? {s : Snapshot} (h : s.windowStart.Proper) {v : Value}
    (hv : ∀ m ∈ s.members, ∀ position, v.member? position m.1 = some m.2)
    (counts : Value → Option (Table Priority UInt64)) :
    ofMembers? v counts =
      (counts (waitingValue s.waiting)).map fun waiting => { s with waiting } := by
  have hread : ∀ {α : Type} (position index : Nat) {name : String} {w : Value}
      (read : Value → Option α), s.members[index]? = some (name, w) →
      v.required? position name read = read w := fun position index name w read hm => by
    rw [Value.required?, hv (name, w) (List.mem_of_getElem? hm), Option.bind_some]
  have hpolicy : v.required? 0 "strategy" Policy.ofValue? = some s.policy :=
    (hread 0 0 _ rfl).trans (Policy.ofValue?_toValue s.policy)
  have hstart : v.required? 1 "window_start" (fun t => t.text?.bind Stamp.parse?) =
      some s.windowStart := by
    rw [hread 1 1 _ rfl, Value.text?, Option.bind_some, Stamp.parse?_text h]
  have hadmitted : v.required? 2 "admitted" (·.uint32?) = some s.admitted :=
    (hread 2 2 _ rfl).trans (Value.uint32?_nat s.admitted)
  have hwaiting : v.required? 3 "waiting" counts = counts (waitingValue s.waiting) :=
    hread 3 3 _ rfl
  have hclosed : v.required? 4 "closed" (·.bool?) = some s.closed := hread 4 4 _ rfl
  simp only [ofMembers?, hpolicy, hstart, hadmitted, hwaiting, hclosed, Option.bind_eq_bind,
    Option.bind_some, Option.pure_def]
  cases counts (waitingValue s.waiting) <;> rfl

theorem ofValue?_toValue {s : Snapshot} (h : s.windowStart.Proper) :
    Snapshot.ofValue? s.toValue = some s := by
  have hv : ∀ m ∈ s.members, ∀ position, s.toValue.member? position m.1 = some m.2 := by
    simp only [members, List.forall_mem_cons]
    exact ⟨fun _ => rfl, fun _ => rfl, fun _ => rfl, fun _ => rfl, fun _ => rfl, nofun⟩
  have hguard : (guard (s.toValue.isRecord .json 5) : Option Unit) = some () := rfl
  rw [ofValue?, hguard, Option.bind_eq_bind, Option.bind_some, ofMembers?_of_member? h hv,
    waitingOfValue?_waitingValue, Option.map_some]

/-- The snapshot of a gate is read back, whatever its state. -/
theorem ofValue?_snapshot (g : Gate) : Snapshot.ofValue? g.snapshot.toValue = some g.snapshot :=
  ofValue?_toValue (Stamp.proper_of_not_leap rfl)

end Snapshot

namespace Registered

theorem noCounts?_waitingValue (t : Table Priority UInt64) :
    noCounts? (waitingValue t) = if t = Table.empty then some t else none := by
  rcases t with ⟨entries, hascending⟩
  cases entries with
  | nil => rfl
  | cons e rest =>
      have hne : (⟨e :: rest, hascending⟩ : Table Priority UInt64) ≠ Table.empty := nofun
      exact (if_neg hne).symm

/-- A registered snapshot is read back if nobody waits, and is refused otherwise. -/
theorem ofValue?_toValue {r : Registered} (h : r.gate.windowStart.Proper) :
    Registered.ofValue? r.toValue = if r.gate.waiting = Table.empty then some r else none := by
  have hv : ∀ m ∈ r.gate.members, ∀ position, r.toValue.member? position m.1 = some m.2 := by
    simp only [Snapshot.members, List.forall_mem_cons]
    exact ⟨fun _ => rfl, fun _ => rfl, fun _ => rfl, fun _ => rfl, fun _ => rfl, nofun⟩
  have hremedy : r.toValue.required? 0 "remedy_name" (·.text?) = some r.remedy := rfl
  -- The name stands before the members, which are read as those of a snapshot.
  have hfields : Registered.ofValue? r.toValue = (do
    let remedy ← r.toValue.required? 0 "remedy_name" (·.text?)
    let gate ← Snapshot.ofMembers? r.toValue noCounts?
    return { remedy, gate }) := rfl
  rw [hfields, hremedy, Snapshot.ofMembers?_of_member? h hv, noCounts?_waitingValue]
  split <;> rfl

end Registered

/-- A snapshot is read back from what it is written as. A registered one is read back if nobody
    waits; if somebody does, reading it is an error and never gives another one. -/
theorem Snapshot.read_back_unless_flattened :
    (∀ s : Snapshot, s.windowStart.Proper → Snapshot.ofValue? s.toValue = some s) ∧
    (∀ r : Registered, r.gate.windowStart.Proper →
      Registered.ofValue? r.toValue = if r.gate.waiting = Table.empty then some r else none) :=
  ⟨fun _ => ofValue?_toValue, fun _ => Registered.ofValue?_toValue⟩

/-- A window that began half a second after the start of the year before year 0, with calls of a
    negative priority and others waiting in it. -/
def Snapshot.dawn : Snapshot where
  policy := { quota := 3, window := ⟨1500000000, by decide⟩ }
  windowStart := { instant := ⟨-62198755199500000000, by decide, by decide⟩ }
  admitted := 3
  waiting := Table.ofList [(-7, 2), (4, 1)]
  closed := false

/-- The window is read back, and as a registered one only after the calls in it are gone. -/
theorem Snapshot.read_back_unless_flattened_at_dawn :
    dawn.windowStart.Proper ∧ Snapshot.ofValue? dawn.toValue = some dawn ∧
    Registered.ofValue? (Registered.toValue { remedy := "dawn", gate := dawn }) = none ∧
    Registered.ofValue?
        (Registered.toValue { remedy := "dawn", gate := { dawn with waiting := .empty } }) =
      some { remedy := "dawn", gate := { dawn with waiting := .empty } } := by
  have hproper : dawn.windowStart.Proper := Stamp.proper_of_not_leap rfl
  have hwaits : dawn.waiting ≠ Table.empty := by decide
  refine ⟨hproper, read_back_unless_flattened.1 dawn hproper, ?_, ?_⟩
  · exact (read_back_unless_flattened.2 _ hproper).trans (if_neg hwaits)
  · exact (read_back_unless_flattened.2 _ hproper).trans (if_pos rfl)

end Turnstile
