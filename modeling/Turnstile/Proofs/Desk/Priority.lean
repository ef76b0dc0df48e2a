import Turnstile.Proofs.Desk.Ungrouped
import Turnstile.Proofs.Http.Header

/-!
# The First Header Counts

The priority of a request is that of the group which its headers name, and who names none
has the default, which is meant to be the best. So it matters who is said to name a group. A
client may send the header several times, in other capitals, with bytes that are no text,
or among any others.

One field is looked at, the first of the name that the rule asks for, and it is looked at as
a whole: its bytes are those of the name of a group, or the request has the default priority.
If they are not, no field behind it is tried.

What follows is that a request has one priority for all that may stand around this field.
Both laws come from `priorityFor?_eq_of_find?_eq`, since neither fields of other names nor
fields behind the first one change which that is.

## Main definitions

* `QueueRule.Grants`: The first field of the name that the rule asks for names a group.
* `QueueRule.priorityFor?`: The priority of a request, from the fields as they are sent.

## Theorems

* `group?_eq_some_iff`: Headers name the groups that the first field grants.
* `priority_of_first_value`: The first field gives the priority, and no other changes it.
-/

namespace Turnstile

namespace QueueRule

/-- The first field of the name that the rule asks for names a group of this priority: it is
    text, and its bytes are those of the name of the group. -/
def Grants (rule : QueueRule) (fields : List HeaderField) (n : Priority) : Prop :=
  ∃ p f group, rule.prioritization = some p ∧ fields.find? (·.isNamed p.header) = some f ∧
    f.isPlain = true ∧ Text.bytes group = f.value ∧ p.groups.find? group = some n

/-- The priority of a request, from the header fields as they are sent. -/
def priorityFor? (rule : QueueRule) (fields : List HeaderField) : Option Priority :=
  (Headers.parse? (fields.map HeaderField.written)).map rule.priorityOf

variable {rule : QueueRule} {fields others : List HeaderField} {n : Priority}

theorem group?_eq_some_iff :
    rule.group? (fields.map HeaderField.header) = some n ↔ rule.Grants fields n := by
  unfold group?
  simp only [Headers.first?_map_header, Option.bind_eq_bind, Option.bind_eq_some_iff,
    Option.map_eq_some_iff]
  constructor
  · rintro ⟨p, hp, _, ⟨f, hfind, rfl⟩, group, htext, hgroup⟩
    rcases HeaderValue.text?_ofBytes_eq_some_iff.mp htext with ⟨hplain, hbytes⟩
    exact ⟨p, f, group, hp, hfind, hplain, hbytes, hgroup⟩
  · rintro ⟨p, f, group, hp, hfind, hplain, hbytes, hgroup⟩
    exact ⟨p, hp, _, ⟨f, hfind, rfl⟩, group,
      HeaderValue.text?_ofBytes_eq_some_iff.mpr ⟨hplain, hbytes⟩, hgroup⟩

theorem priorityFor?_eq (rule : QueueRule) (fields : List HeaderField) :
    rule.priorityFor? fields =
      some ((rule.group? (fields.map HeaderField.header)).getD Priority.default) := by
  rw [priorityFor?, Headers.parse?_map_written, Option.map_some, priorityOf_eq]

theorem priorityFor?_of_grants (h : rule.Grants fields n) : rule.priorityFor? fields = some n := by
  rw [priorityFor?_eq, group?_eq_some_iff.mpr h, Option.getD_some]

theorem priorityFor?_of_forall_not_grants (h : ∀ n, ¬rule.Grants fields n) :
    rule.priorityFor? fields = some Priority.default := by
  have hnone : rule.group? (fields.map HeaderField.header) = none :=
    Option.eq_none_iff_forall_ne_some.mpr fun n hn => h n (group?_eq_some_iff.mp hn)
  rw [priorityFor?_eq, hnone, Option.getD_none]

/-- Only the first field of the name that the rule asks for matters. -/
theorem priorityFor?_eq_of_find?_eq
    (h : ∀ p, rule.prioritization = some p →
      others.find? (·.isNamed p.header) = fields.find? (·.isNamed p.header)) :
    rule.priorityFor? others = rule.priorityFor? fields := by
  rw [priorityFor?_eq, priorityFor?_eq]
  unfold group?
  cases hp : rule.prioritization with
  | none => rfl
  | some p => simp only [Headers.first?_map_header, Option.bind_eq_bind, Option.bind_some, h p hp]

/-- **The first field of a name gives the priority, and no other changes it.** Whatever header
    fields a request has: if the first of the name that the rule asks for, up to capitals, has the
    name of a group as its value, exactly, then the request has the priority of the group, and
    otherwise the default one. The priority stays the same if fields of other names are added,
    left out or moved, and if anything at all follows a first field of the name, whether or not that
    field is text or names a group. -/
theorem priority_of_first_value (rule : QueueRule) (fields : List HeaderField) :
    (∀ n, rule.Grants fields n → rule.priorityFor? fields = some n) ∧
    ((∀ n, ¬rule.Grants fields n) → rule.priorityFor? fields = some Priority.default) ∧
    (∀ others, (∀ p, rule.prioritization = some p →
        others.filter (·.isNamed p.header) = fields.filter (·.isNamed p.header)) →
      rule.priorityFor? others = rule.priorityFor? fields) ∧
    ∀ p before f after later, rule.prioritization = some p → fields = before ++ f :: after →
      f.isNamed p.header = true →
      rule.priorityFor? (before ++ f :: later) = rule.priorityFor? fields := by
  refine ⟨fun _ => priorityFor?_of_grants, priorityFor?_of_forall_not_grants, ?_, ?_⟩
  · intro others hsame
    refine priorityFor?_eq_of_find?_eq fun p hp => ?_
    rw [← List.head?_filter, ← List.head?_filter, hsame p hp]
  · rintro p before f after later hp rfl hnamed
    refine priorityFor?_eq_of_find?_eq fun q hq => ?_
    cases hp.symm.trans hq
    -- The field is found in both lists, unless one before it is found in both.
    have hfound : ∀ rest, (f :: rest).find? (·.isNamed p.header) = some f := fun _ =>
      List.find?_cons_of_pos hnamed
    rw [List.find?_append, List.find?_append, hfound, hfound]

end QueueRule

namespace Desk.Salon

/-- A field of the name that the rule of the salon asks for, written in capitals. -/
def tier (value : List UInt8) (clean : value.all isCleanByte = true) : HeaderField where
  name := "X-TIER"
  value
  nonempty := by decide
  short := by decide
  token := by decide +kernel
  clean

theorem isNamed_tier (value : List UInt8) (clean : value.all isCleanByte = true) :
    (tier value clean).isNamed "x-tier" = true := by
  have hcapitals : "X-TIER".toLower = "x-tier" := by decide +kernel
  have hsmall : "x-tier".toLower = "x-tier" := by decide +kernel
  exact beq_iff_eq.mpr (hcapitals.trans hsmall.symm)

/-- The value names the group of the best priority. -/
def gold : HeaderField := tier (Text.bytes "gold") (by decide)

/-- The value names the group of the default priority. -/
def iron : HeaderField := tier (Text.bytes "iron") (by decide)

/-- The value is no text. -/
def garbled : HeaderField := tier [0xff] (by decide)

/-- The field in front counts, also where it is no text and the one behind it names a group. -/
theorem priority_of_first_value_in_salon :
    (rule 1).Grants [gold, iron] (-1) ∧
    (rule 1).priorityFor? [gold, iron] = some (-1) ∧
    (rule 1).priorityFor? [gold, garbled] = (rule 1).priorityFor? [gold, iron] ∧
    (∀ n, ¬(rule 1).Grants [garbled, gold] n) ∧
    (rule 1).priorityFor? [garbled, gold] = some Priority.default := by
  have hgrants : (rule 1).Grants [gold, iron] (-1) :=
    ⟨_, gold, "gold", rfl, List.find?_cons_of_pos (isNamed_tier _ _), by decide, rfl, by decide⟩
  have hnone : ∀ n, ¬(rule 1).Grants [garbled, gold] n := by
    rintro n ⟨p, f, group, hp, hfind, hplain, -⟩
    cases hp
    have hfront : [garbled, gold].find? (·.isNamed "x-tier") = some garbled :=
      List.find?_cons_of_pos (isNamed_tier _ _)
    cases hfront.symm.trans hfind
    exact absurd hplain (by decide)
  rcases QueueRule.priority_of_first_value (rule 1) [gold, iron] with ⟨hfirst, -, -, hbehind⟩
  rcases QueueRule.priority_of_first_value (rule 1) [garbled, gold] with ⟨-, hdefault, -⟩
  exact ⟨hgrants, hfirst _ hgrants, hbehind _ [] gold [iron] [garbled] rfl rfl
    (isNamed_tier _ _), hnone, hdefault hnone⟩

end Desk.Salon

end Turnstile
