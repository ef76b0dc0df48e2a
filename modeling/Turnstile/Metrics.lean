import Turnstile.Registry
import Turnstile.Text.Fingerprint

/-!
# Metrics

Two families of numbers about the gates, in the Prometheus text format. The
counter tells how many calls were decided, by remedy, priority and whether the
time to wait ran out; it only ever grows. The gauge tells how many calls wait,
by remedy and priority; it is read off the gates whenever it is asked for, so
nothing remains of what an earlier reading showed.

A sample is found by the fingerprint of its label values. Labels with the same
fingerprint share one sample, which shows the labels that it was made with.

Samples are listed in the order of their label values as texts, the labels
being taken by name, and a family without samples is left out altogether.

## Main definitions

* `Family`: The samples of a family.
* `OutcomeLabel`, `Outcomes`: The counter.
* `Outcomes.record`: One more decided call.
* `Lane`, `Registry.depths`: How many calls wait.
* `DepthLabel`, `Registry.gauge`: The gauge.
* `Metrics.text`: Both families in the text format.
* `Metrics.register`: Registration, which succeeds once.
-/

namespace Turnstile

/-! ### Families -/

/-- A number with its labels. -/
structure Sample (label : Type) where
  /-- The labels. -/
  label : label
  /-- The number. -/
  value : Nat
deriving DecidableEq

/-- The samples of a family by the fingerprints of their labels. -/
abbrev Family (label : Type) := Table UInt64 (Sample label)

namespace Family

variable {label : Type}

/-- Change the sample of a label, which counts zero before. -/
def update (f : Family label) (fingerprint : UInt64) (l : label) (change : Nat → Nat) :
    Family label :=
  f.alter fingerprint fun
    | some s => some { s with value := change s.value }
    | none => some { label := l, value := change 0 }

/-- The samples in the order of their labels. -/
def samples [Ord label] [Std.TransOrd label] (f : Family label) : List (label × Nat) :=
  (Table.ofList (f.entries.map fun e => (e.2.label, e.2.value))).entries

end Family

/-! ### The counter -/

/-- The labels of a sample of the counter. -/
structure OutcomeLabel where
  /-- The priority in decimal. -/
  priority : String
  /-- The name of the remedy. -/
  remedy : String
  /-- Whether the call was refused. -/
  ttlPassed : Bool
deriving DecidableEq

namespace OutcomeLabel

instance : Ord OutcomeLabel :=
  ⟨compareLex (compareOn (·.priority))
    (compareLex (compareOn (·.remedy)) (compareOn (·.ttlPassed)))⟩

instance : Std.TransOrd OutcomeLabel :=
  inferInstanceAs (Std.TransCmp
    (compareLex (compareOn (fun l : OutcomeLabel => l.priority))
      (compareLex (compareOn (fun l => l.remedy)) (compareOn (fun l => l.ttlPassed)))))

instance : Std.LawfulEqOrd OutcomeLabel where
  eq_of_compare {a b} h := by
    rcases a with ⟨p, r, t⟩
    rcases b with ⟨p', r', t'⟩
    have h₁ := compareLex_eq_eq.mp h
    have h₂ := compareLex_eq_eq.mp h₁.2
    have hp : p = p' := Std.LawfulEqOrd.eq_of_compare h₁.1
    have hr : r = r' := Std.LawfulEqOrd.eq_of_compare h₂.1
    have ht : t = t' := Std.LawfulEqOrd.eq_of_compare h₂.2
    rw [hp, hr, ht]

/-- Whether the call was refused, as text. -/
def ttlPassedText (l : OutcomeLabel) : String :=
  if l.ttlPassed then "true" else "false"

/-- The fingerprint of the labels. -/
def fingerprint (l : OutcomeLabel) : UInt64 :=
  Text.fingerprint [l.remedy, l.priority, l.ttlPassedText]

end OutcomeLabel

/-- The number of decided calls by label. -/
abbrev Outcomes := Family OutcomeLabel

/-- One more call of a remedy and a priority that was admitted or refused. A
    refused call is one whose time to wait ran out. -/
def Outcomes.record (o : Outcomes) (remedy : String) (priority : Priority)
    (admitted : Bool) : Outcomes :=
  let label : OutcomeLabel :=
    { priority := toString priority.toInt, remedy, ttlPassed := !admitted }
  Family.update o label.fingerprint label (· + 1)

/-! ### The gauge -/

/-- A remedy and a priority that calls wait with. -/
structure Lane where
  /-- The name of the remedy. -/
  remedy : String
  /-- The priority. -/
  priority : Priority
deriving DecidableEq

namespace Lane

instance : Ord Lane := ⟨compareLex (compareOn (·.remedy)) (compareOn (·.priority))⟩

instance : Std.TransOrd Lane :=
  inferInstanceAs (Std.TransCmp
    (compareLex (compareOn (fun l : Lane => l.remedy)) (compareOn (fun l => l.priority))))

instance : Std.LawfulEqOrd Lane where
  eq_of_compare {a b} h := by
    rcases a with ⟨r, p⟩
    rcases b with ⟨r', p'⟩
    have h' := compareLex_eq_eq.mp h
    have hr : r = r' := Std.LawfulEqOrd.eq_of_compare h'.1
    have hp : p = p' := Std.LawfulEqOrd.eq_of_compare h'.2
    rw [hr, hp]

end Lane

/-- The number of waiting calls by remedy and priority, summed over the gates of a
    remedy. -/
def Registry.depths (r : Registry) : Table Lane Nat :=
  r.counts.foldl
    (fun depths (key, counts) =>
      counts.entries.foldl
        (fun depths (priority, n) =>
          depths.alter { remedy := key.remedy, priority } fun m => some (m.getD 0 + n))
        depths)
    Table.empty

/-- The labels of a sample of the gauge. -/
structure DepthLabel where
  /-- The priority in decimal. -/
  priority : String
  /-- The name of the remedy. -/
  remedy : String
deriving DecidableEq

namespace DepthLabel

instance : Ord DepthLabel := ⟨compareLex (compareOn (·.priority)) (compareOn (·.remedy))⟩

instance : Std.TransOrd DepthLabel :=
  inferInstanceAs (Std.TransCmp
    (compareLex (compareOn (fun l : DepthLabel => l.priority)) (compareOn (fun l => l.remedy))))

instance : Std.LawfulEqOrd DepthLabel where
  eq_of_compare {a b} h := by
    rcases a with ⟨p, r⟩
    rcases b with ⟨p', r'⟩
    have h' := compareLex_eq_eq.mp h
    have hp : p = p' := Std.LawfulEqOrd.eq_of_compare h'.1
    have hr : r = r' := Std.LawfulEqOrd.eq_of_compare h'.2
    rw [hp, hr]

/-- The fingerprint of the labels. -/
def fingerprint (l : DepthLabel) : UInt64 :=
  Text.fingerprint [l.remedy, l.priority]

end DepthLabel

/-- The labels of a remedy and a priority. -/
def Lane.label (l : Lane) : DepthLabel :=
  { priority := toString l.priority.toInt, remedy := l.remedy }

/-- The largest value that the gauge shows. -/
def Registry.gaugeMost : Nat := 0x7fffffffffffffff

/-- The gauge. It is set for one remedy and priority after the other. -/
def Registry.gauge (r : Registry) : Family DepthLabel :=
  r.depths.entries.foldl
    (fun g (lane, n) => g.update lane.label.fingerprint lane.label fun _ => min n gaugeMost)
    Table.empty

/-! ### The text format -/

namespace Metrics

/-- A reason why metrics cannot be registered. -/
inductive Error where
  /-- They are registered already. -/
  | alreadyRegistered
deriving DecidableEq

/-- The wording of a reason. -/
def Error.message : Error → String
  | .alreadyRegistered => "Duplicate metrics collector registration attempted"

/-- Register the metrics where `registered` tells whether they already are. -/
def register (registered : Bool) : Except Error Unit :=
  if registered then .error .alreadyRegistered else .ok ()

/-- A character within a label value. -/
def escape (c : Char) : List Char :=
  match c with
  | '\\' => ['\\', '\\']
  | '"' => ['\\', '"']
  | '\n' => ['\\', 'n']
  | c => [c]

/-- A label with its value. -/
def labelText (name value : String) : String :=
  name ++ "=\"" ++ String.ofList (value.toList.flatMap escape) ++ "\""

/-- A sample: the name of its family, its labels and its value. -/
def sampleText (family : String) (labels : List (String × String)) (value : Nat) : String :=
  family ++ "\x7b" ++ ",".intercalate (labels.map fun (name, v) => labelText name v) ++ "\x7d " ++
    toString value ++ "\n"

/-- A family with its samples, or nothing if it has none. -/
def familyText (name help kind : String) (samples : List (List (String × String) × Nat)) :
    String :=
  if samples.isEmpty then ""
  else
    "# HELP " ++ name ++ " " ++ help ++ "\n# TYPE " ++ name ++ " " ++ kind ++ "\n" ++
      String.join (samples.map fun (labels, value) => sampleText name labels value)

/-- Both families in the text format. -/
def text (outcomes : Outcomes) (registry : Registry) : String :=
  familyText "remedy_queue_requests_in_queue" "Current number of requests in queue" "gauge"
    (registry.gauge.samples.map fun (l, n) =>
      ([("priority", l.priority), ("remedy", l.remedy)], n)) ++
  familyText "remedy_queue_requests_total"
    "Admission decisions made by strategy-based queues" "counter"
    (outcomes.samples.map fun (l, n) =>
      ([("priority", l.priority), ("remedy", l.remedy), ("ttl_passed", l.ttlPassedText)], n))

end Metrics

end Turnstile
