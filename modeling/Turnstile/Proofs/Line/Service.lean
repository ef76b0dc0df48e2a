import Mathlib.Data.List.Nodup
import Turnstile.Proofs.Line

/-!
# What a Line Does for Those Who Use It

The observable behavior of a line, against a row in which people simply stand.

In a row there are no keys. A newcomer walks past everybody who is not to be served later
than it by priority and arrival, and so past all who came before it with the same. Served is
whoever stands first, and who leaves is looked for along the row. A line does the same to
all who use it, whatever they do and in which order. In particular they may leave a place
that was never given out, or one that was served long ago, or one that was cleared with
all others.

The reason is a single fact about tickets. They are given out in ascending order for as long
as the line is used, and clearing it does not start them again. Hence the ticket of a
newcomer is larger than all others in line, which is what makes the order of keys agree with
the row. And no place is ever given out twice, which is what makes a place stand for the one
entry that got it.

## Main definitions

* `Line.Act`, `Line.Reply`: What is done with a line, and what it answers.
* `Line.logged`: Acts one after the other, with their answers.
* `Line.act`, `Row.act`: One act on a line, and on a row.
* `Line.placed`, `Line.departed`: Who got a place, and who left and in which way.

## Theorems

* `insertEntry_newcomer`: A newcomer stands where it would in a row.
* `act_answers`: One act is answered by a line as by a row.
* `act_accounts`: One act gives out new tickets and loses nobody.
* `service_of_run`: The same for all acts one after the other.
-/

namespace Turnstile

namespace Line

variable {α σ : Type}

/-- What is done with a line: somebody joins, the first is served, a place is left or looked
    at, and all are sent away. -/
inductive Act (α : Type) where
  | join (priority : Priority) (arrived : Instant) (value : α)
  | next
  | leave (place : Place)
  | look (place : Place)
  | clear
deriving DecidableEq

/-- What is answered. -/
inductive Reply (α : Type) where
  /-- The place of who joined. -/
  | placed (place : Place)
  /-- Who was served, if anybody was there. -/
  | served (entry : Option (Place × α))
  /-- Who left, if anybody stood there. -/
  | left (value : Option α)
  /-- Whether the place is taken. -/
  | taken (there : Bool)
  /-- Who was sent away, in the order of service. -/
  | cleared (entries : List (Place × α))
deriving DecidableEq

/-- Do one act after the other, and write down what each of them is answered. -/
def logged (act : σ → Act α → σ × Reply α) (s : σ) : List (Act α) → σ × List (Act α × Reply α)
  | [] => (s, [])
  | a :: acts =>
    let (s, reply) := act s a
    let (s, log) := logged act s acts
    (s, (a, reply) :: log)

/-- One act on a line. -/
def act (l : Line α) : Act α → Line α × Reply α
  | .join priority arrived value =>
    let (l, place) := l.join priority arrived value
    (l, .placed place)
  | .next =>
    match l.next? with
    | some (place, value, l) => (l, .served (some (place, value)))
    | none => (l, .served none)
  | .leave place => (l.leave place, .left (l.find? place))
  | .look place => (l, .taken (l.contains place))
  | .clear => (l.clear, .cleared l.toList)

/-- Who got a place by an act. -/
def placed : Act α × Reply α → List (Place × α)
  | (.join _ _ value, .placed place) => [(place, value)]
  | _ => []

/-- The ways out of a line. -/
inductive Way where
  | served
  | left
  | cleared
deriving DecidableEq

/-- Who left by an act, and in which way. -/
def departed : Act α × Reply α → List (Way × Place × α)
  | (_, .served (some entry)) => [(.served, entry)]
  | (.leave place, .left (some value)) => [(.left, place, value)]
  | (_, .cleared entries) => entries.map (Way.cleared, ·)
  | _ => []

end Line

/-- People who stand in a row. -/
structure Row (α : Type) where
  /-- The first is served next. -/
  entries : List (Place × α)
  /-- How many have joined. -/
  joined : Nat

namespace Row

variable {α : Type}

/-- The row in which nobody stands. -/
def empty : Row α := ⟨[], 0⟩

/-- One act on a row. -/
def act (r : Row α) : Line.Act α → Row α × Line.Reply α
  | .join priority arrived value =>
    let place : Place := ⟨priority, arrived, r.joined⟩
    let ahead := fun e : Place × α => !decide (place.Sooner e.1)
    (⟨r.entries.takeWhile ahead ++ (place, value) :: r.entries.dropWhile ahead, r.joined + 1⟩,
      .placed place)
  | .next => ({ r with entries := r.entries.tail }, .served r.entries.head?)
  | .leave place =>
    ({ r with entries := r.entries.filter (·.1 ≠ place) },
      .left ((r.entries.find? (·.1 = place)).map (·.2)))
  | .look place => (r, .taken (r.entries.any (·.1 = place)))
  | .clear => ({ r with entries := [] }, .cleared r.entries)

end Row

/-- A newcomer stands where it would in a row. -/
theorem insertEntry_newcomer {α : Type} {p : Place} (v : α) {l : List (Place × α)}
    (hticket : ∀ e ∈ l, e.1.ticket < p.ticket) :
    insertEntry p v l = l.takeWhile (fun e => !decide (p.Sooner e.1)) ++
      (p, v) :: l.dropWhile fun e => !decide (p.Sooner e.1) := by
  induction l with
  | nil => rfl
  | cons e rest ih =>
      have hlt := hticket e List.mem_cons_self
      have hrest := ih fun x hx => hticket x (List.mem_cons_of_mem _ hx)
      have hfirst := Place.compare_eq_lt_iff_sooner hlt
      by_cases hsooner : p.Sooner e.1
      · simp only [insertEntry, hfirst.mpr hsooner, List.takeWhile_cons, List.dropWhile_cons,
          hsooner, decide_true, Bool.not_true, Bool.false_eq_true, if_false, List.nil_append]
      · -- An equal key would replace the entry, but nobody has the ticket of the newcomer.
        have hne : compare p e.1 ≠ .eq := by
          intro heq
          rw [Std.LawfulEqOrd.eq_of_compare heq] at hlt
          exact Nat.lt_irrefl _ hlt
        have hgt : compare p e.1 = .gt := by
          cases hcompare : compare p e.1 with
          | lt => exact absurd (hfirst.mp hcompare) hsooner
          | eq => exact absurd hcompare hne
          | gt => rfl
        simp only [insertEntry, hgt, List.takeWhile_cons, List.dropWhile_cons, hsooner,
          decide_false, Bool.not_false, if_true, List.cons_append, hrest]

namespace Line

variable {α σ τ : Type}

/-- What relates two states, and is kept by every act with the same answer to both, is kept
    by all acts with the same answers. -/
theorem logged_rel {act : σ → Act α → σ × Reply α} {act' : τ → Act α → τ × Reply α}
    (rel : σ → τ → Prop)
    (hact : ∀ s t a, rel s t → rel (act s a).1 (act' t a).1 ∧ (act s a).2 = (act' t a).2)
    {s : σ} {t : τ} (h : rel s t) (acts : List (Act α)) :
    rel (logged act s acts).1 (logged act' t acts).1 ∧
      (logged act s acts).2 = (logged act' t acts).2 := by
  induction acts generalizing s t with
  | nil => exact ⟨h, rfl⟩
  | cons a acts ih =>
      have hfirst := hact s t a h
      have hrest := ih hfirst.1
      refine ⟨hrest.1, ?_⟩
      simp only [logged, hfirst.2, hrest.2]

/-- The people in a line stand as in a row. -/
structure StandsAs (l : Line α) (r : Row α) : Prop where
  exact_line : l.Exact
  toList_eq : l.toList = r.entries
  nextTicket_eq : l.nextTicket = r.joined

theorem find?_eq (l : Line α) (p : Place) :
    l.find? p = (l.toList.find? (·.1 = p)).map (·.2) := by
  have hsame : (fun e : Place × α => compare e.1 p == .eq) = fun e => decide (e.1 = p) := by
    funext e
    rw [Bool.eq_iff_iff, beq_iff_eq, decide_eq_true_iff, Std.LawfulEqOrd.compare_eq_iff_eq]
  rw [find?, Table.find?, findEntry, hsame]
  rfl

theorem contains_eq_any (l : Line α) (p : Place) : l.contains p = l.toList.any (·.1 = p) := by
  rw [Bool.eq_iff_iff, contains_iff, List.any_eq_true]
  simp only [decide_eq_true_eq]
  constructor
  · rintro ⟨v, hv⟩
    exact ⟨(p, v), hv, rfl⟩
  · rintro ⟨e, he, rfl⟩
    exact ⟨e.2, he⟩

theorem exact_act {l : Line α} (h : l.Exact) (a : Act α) : (l.act a).1.Exact := by
  cases a with
  | join q t v => exact exact_join h q t v
  | next =>
      unfold act
      cases hnext : l.next? with
      | none => exact h
      | some first => exact exact_of_next? h hnext
  | leave p => exact exact_leave h p
  | look p => exact h
  | clear => exact exact_clear l

/-- One act is answered by a line as by a row. -/
theorem act_answers {l : Line α} {r : Row α} (h : l.StandsAs r) (a : Act α) :
    (l.act a).1.StandsAs (r.act a).1 ∧ (l.act a).2 = (r.act a).2 := by
  have hexact := exact_act h.exact_line a
  rcases r with ⟨entries, joined⟩
  rcases h with ⟨hline, rfl, rfl⟩
  cases a with
  | join q t v => exact ⟨⟨hexact, insertEntry_newcomer v hline.ticket_lt, rfl⟩, rfl⟩
  | next =>
      unfold act at hexact ⊢
      cases hnext : l.next? with
      | none =>
          have hnobody := (next?_eq_none_iff l).mp hnext
          simp only [Row.act, hnobody, List.tail_nil, List.head?_nil, and_true]
          exact ⟨hline, hnobody, rfl⟩
      | some first =>
          rcases first with ⟨p, v, m⟩
          rw [hnext] at hexact
          have hlist := toList_of_next? hnext
          simp only [Row.act, hlist, List.tail_cons, List.head?_cons, and_true]
          exact ⟨hexact, rfl, nextTicket_of_next? hnext⟩
  | leave p =>
      refine ⟨⟨hexact, toList_leave_of_eq l p, nextTicket_leave l p⟩, ?_⟩
      exact congrArg Reply.left (find?_eq l p)
  | look p => exact ⟨⟨hexact, rfl, rfl⟩, congrArg Reply.taken (contains_eq_any l p)⟩
  | clear => exact ⟨⟨hexact, rfl, rfl⟩, rfl⟩

/-- From one state to another tickets were given out in order, and everybody who was there
    or got a place has left or is still there. -/
structure Accounts (l m : Line α) (log : List (Act α × Reply α)) : Prop where
  tickets_eq : (log.flatMap placed).map (·.1.ticket) =
    List.range' l.nextTicket (log.flatMap placed).length
  nextTicket_eq : m.nextTicket = l.nextTicket + (log.flatMap placed).length
  balance : (l.toList ++ log.flatMap placed).Perm ((log.flatMap departed).map (·.2) ++ m.toList)

/-- One act gives out new tickets and loses nobody. -/
theorem act_accounts {l : Line α} (h : l.Exact) (a : Act α) :
    l.Accounts (l.act a).1 [(a, (l.act a).2)] := by
  cases a with
  | join q t v =>
      refine ⟨rfl, rfl, ?_⟩
      exact (List.perm_append_singleton _ _).trans (join_perm h q t v).symm
  | next =>
      unfold act
      cases hnext : l.next? with
      | none => exact ⟨rfl, rfl, List.Perm.of_eq (List.append_nil _)⟩
      | some first =>
          refine ⟨rfl, nextTicket_of_next? hnext, List.Perm.of_eq ?_⟩
          exact (List.append_nil _).trans (toList_of_next? hnext)
  | leave p =>
      refine ⟨rfl, nextTicket_leave l p, ?_⟩
      change (l.toList ++ []).Perm
        (([(Act.leave p, Reply.left (l.find? p))].flatMap departed).map Prod.snd ++
          (l.leave p).toList)
      rw [List.append_nil, List.flatMap_singleton]
      cases hfind : l.find? p with
      | none =>
          have hnobody : l.contains p = false := by
            rw [contains, Table.contains, ← find?, hfind, Option.isSome_none]
          rw [leave_of_not_contains hnobody]
          exact List.Perm.refl _
      | some v =>
          rw [toList_leave]
          exact eraseKey_perm p v l.ascending_toList ((Table.find?_eq_some_iff _ _ _).mp hfind)
  | look p => exact ⟨rfl, rfl, List.Perm.of_eq (List.append_nil _)⟩
  | clear =>
      refine ⟨rfl, rfl, List.Perm.of_eq ?_⟩
      change l.toList ++ [] = ((l.toList.map (Way.cleared, ·)) ++ []).map Prod.snd ++ []
      rw [List.append_nil, List.append_nil, List.append_nil, List.map_map]
      exact (List.map_id _).symm

theorem accounts_trans {l m n : Line α} {log log' : List (Act α × Reply α)}
    (h : l.Accounts m log) (h' : m.Accounts n log') : l.Accounts n (log ++ log') := by
  refine ⟨?_, ?_, ?_⟩
  · rw [List.flatMap_append, List.map_append, h.tickets_eq, h'.tickets_eq, h.nextTicket_eq,
      List.range'_append_1, List.length_append]
  · rw [h'.nextTicket_eq, h.nextTicket_eq, List.flatMap_append, List.length_append,
      Nat.add_assoc]
  · -- Who is there in between has come by the first acts and has yet to leave by the second.
    rw [List.flatMap_append, List.flatMap_append, List.map_append, List.append_assoc,
      ← List.append_assoc]
    refine (h.balance.append_right _).trans ?_
    rw [List.append_assoc]
    exact h'.balance.append_left _

theorem logged_accounts {l : Line α} (h : l.Exact) (acts : List (Act α)) :
    l.Accounts (logged act l acts).1 (logged act l acts).2 := by
  induction acts generalizing l with
  | nil => exact ⟨rfl, rfl, List.Perm.of_eq (List.append_nil _)⟩
  | cons a acts ih => exact accounts_trans (act_accounts h a) (ih (exact_act h a))

theorem exact_logged {l : Line α} (h : l.Exact) (acts : List (Act α)) :
    (logged act l acts).1.Exact := by
  induction acts generalizing l with
  | nil => exact h
  | cons a acts ih => exact ih (exact_act h a)

/-- If keys are without repetition, who is left over is told by its key. -/
theorem mem_right_iff {α β : Type} {f : α → β} {all out rest : List α}
    (hperm : all.Perm (out ++ rest)) (hnodup : (all.map f).Nodup) (x : α) :
    x ∈ rest ↔ x ∈ all ∧ f x ∉ out.map f := by
  have hparts := (hperm.map f).nodup_iff.mp hnodup
  rw [List.map_append, List.nodup_append'] at hparts
  rw [hperm.mem_iff, List.mem_append]
  constructor
  · intro hx
    exact ⟨Or.inr hx, fun hout => hparts.2.2 hout (List.mem_map_of_mem hx)⟩
  · rintro ⟨hx | hx, hout⟩
    · exact absurd (List.mem_map_of_mem hx) hout
    · exact hx

/-- **A line serves those who use it as a row would.** Let anybody join, be served, leave,
    look and be sent away, in any order, and leave and look at whatever places. The answers
    are those of a row, and the same people stand in it in the same order, which is the
    order of service. The tickets number those who joined, so that all places are
    different. Everybody who got a place left once and in one way or is still in line,
    and a place finds the value that got it until this has left, and nothing afterwards. -/
theorem service_of_run (acts : List (Act α)) :
    let line := (logged act (empty : Line α) acts).1
    let log := (logged act (empty : Line α) acts).2
    let all := log.flatMap placed
    let gone := log.flatMap departed
    (log = (logged Row.act Row.empty acts).2 ∧
      line.toList = (logged Row.act Row.empty acts).1.entries) ∧
    line.toList.Pairwise (fun a b => a.1.Before b.1) ∧
    (all.map (·.1.ticket) = List.range all.length ∧ line.nextTicket = all.length ∧
      (all.map (·.1)).Nodup) ∧
    all.Perm (gone.map (·.2) ++ line.toList) ∧
    (∀ p v, line.find? p = some v ↔ (p, v) ∈ all ∧ p ∉ gone.map (·.2.1)) ∧
    ∀ p, line.contains p = true ↔ p ∈ all.map (·.1) ∧ p ∉ gone.map (·.2.1) := by
  intro line log all gone
  have hrow := logged_rel StandsAs (fun _ _ a h => act_answers h a)
    (⟨exact_empty, rfl, rfl⟩ : (empty : Line α).StandsAs Row.empty) acts
  have haccounts : (empty : Line α).Accounts line log := logged_accounts exact_empty acts
  have htickets : all.map (·.1.ticket) = List.range all.length :=
    haccounts.tickets_eq.trans (List.range_eq_range' ..).symm
  have hnodup : (all.map (·.1)).Nodup := by
    refine List.Nodup.of_map Place.ticket ?_
    rw [List.map_map]
    exact htickets ▸ List.nodup_range
  have hbalance : all.Perm (gone.map (·.2) ++ line.toList) := haccounts.balance
  have hthere : ∀ p v, (p, v) ∈ line.toList ↔ (p, v) ∈ all ∧ p ∉ gone.map (·.2.1) := by
    intro p v
    rw [mem_right_iff hbalance hnodup, List.map_map]
    rfl
  refine ⟨⟨hrow.2, hrow.1.toList_eq⟩, ?_, ⟨htickets, ?_, hnodup⟩, hbalance, fun p v => ?_,
    fun p => ?_⟩
  · exact line.ascending_toList.imp fun h => (Place.compare_eq_lt_iff _ _).mp h
  · exact haccounts.nextTicket_eq.trans (Nat.zero_add _)
  · exact (Table.find?_eq_some_iff _ _ _).trans (hthere p v)
  · rw [contains_iff]
    simp only [hthere, exists_and_right, List.mem_map, Prod.exists, exists_eq_right]

/-- Of two who came at the same instant the first is served first, and a priority below zero
    is served before both. The place of who was served is not taken by who comes next, even
    after all were sent away. -/
example :
    (logged act (empty : Line String)
      [.join 0 Instant.epoch "first", .join 0 Instant.epoch "second",
        .join (-1) Instant.last "third", .next, .next, .leave ⟨0, Instant.epoch, 0⟩, .clear,
        .join 0 Instant.epoch "fourth", .look ⟨0, Instant.epoch, 0⟩]).2.map (·.2) =
      [.placed ⟨0, Instant.epoch, 0⟩, .placed ⟨0, Instant.epoch, 1⟩, .placed ⟨-1, Instant.last, 2⟩,
        .served (some (⟨-1, Instant.last, 2⟩, "third")),
        .served (some (⟨0, Instant.epoch, 0⟩, "first")),
        .left none, .cleared [(⟨0, Instant.epoch, 1⟩, "second")], .placed ⟨0, Instant.epoch, 3⟩,
        .taken false] := by
  decide

end Line

end Turnstile
