import Mathlib.Data.List.Pairwise
import Mathlib.Data.List.Perm.Basic
import Std.Data.String.ToInt
import Turnstile.Proofs.Metrics
import Turnstile.Proofs.Registry.Depths

/-!
# The Gauge

What the gauge shows of those who wait.

Whenever it is read its samples are cleared, and one is set for each remedy and priority that
somebody waits with, in their order. So nothing remains of what an earlier reading showed, and a
pair that nobody waits with is not shown, not even as zero.

Each pair has labels of its own, but a sample is found by the fingerprint of its labels, and
pairs may share one: the remedy `a` with priority 11 and the remedy `a1` with priority 1
do. Setting is not adding. The sample is made with the labels of the first of them and then set for
one after the other, so that in the end it shows the number of the last, under the labels of the
first, and nothing else is shown of those who wait with any of them. Of a pair that shares
its fingerprint with no other the gauge shows all, up to the largest number there is.

## Main definitions

* `Registry.fill`: Samples are set one after the other.
* `Registry.scrape`: The gauge is read, with gates found in any order.
* `Registry.Spans`: The first and the last pair with a fingerprint.
* `Registry.Apart`: No two pairs share a fingerprint.

## Theorems

* `Lane.label_injective`: Different pairs have different labels.
* `find?_fill`: A sample has the labels of the first and the number of the last.
* `mem_gauge_iff`: The samples that the gauge shows.
* `samples_perm`: If no fingerprint is shared, these are the sums.
* `gauge_shows_depths`: The gauge is told by who waits, and shows each pair that is on its own.
-/

namespace Turnstile

namespace Lane

/-- The fingerprint of the labels. -/
def fingerprint (l : Lane) : UInt64 := l.label.fingerprint

/-- Different pairs have different labels, for a number is read back from its decimal. -/
theorem label_injective {a b : Lane} (h : a.label = b.label) : a = b := by
  rcases a with ⟨remedy, p⟩
  rcases b with ⟨remedy', q⟩
  have htext : toString p.toInt = toString q.toInt := congrArg DepthLabel.priority h
  have hint : some p.toInt = some q.toInt := by
    rw [← Int.toInt?_repr, ← Int.toInt?_repr]
    exact congrArg String.toInt? htext
  have hremedy : remedy = remedy' := congrArg DepthLabel.remedy h
  rw [hremedy, Int32.toInt_inj.mp (Option.some.inj hint)]

end Lane

/-- Clear all samples. -/
def Family.reset {label : Type} (_ : Family label) : Family label := Table.empty

namespace Registry

/-- Set the samples of some remedies and priorities, one after the other. -/
def fill (shown : Family DepthLabel) (depths : List (Lane × Nat)) : Family DepthLabel :=
  depths.foldl
    (fun g d => g.update d.1.fingerprint d.1.label fun _ => min d.2 gaugeMost) shown

/-- What is shown after a reading of the gauge that finds gates in some order, where `shown` is
    what was shown before it. -/
def scrape (shown : Family DepthLabel) (found : List (Key × Gate)) : Family DepthLabel :=
  fill shown.reset (depthsOf found).entries

/-- The first and the last, in their order, of the remedies and priorities that somebody waits
    with and that share a fingerprint. -/
structure Spans (r : Registry) (first last : Lane) : Prop where
  /-- Somebody waits with the first. -/
  first_waits : 0 < r.depth first
  /-- Somebody waits with the last. -/
  last_waits : 0 < r.depth last
  /-- They have the same fingerprint. -/
  same : last.fingerprint = first.fingerprint
  /-- None of them is before the first. -/
  least : ∀ lane, 0 < r.depth lane → lane.fingerprint = first.fingerprint →
    (compare first lane).isLE
  /-- None of them is after the last. -/
  greatest : ∀ lane, 0 < r.depth lane → lane.fingerprint = first.fingerprint →
    (compare lane last).isLE

/-- No two remedies and priorities that somebody waits with share a fingerprint. -/
def Apart (r : Registry) : Prop :=
  ∀ a b, 0 < r.depth a → 0 < r.depth b → a.fingerprint = b.fingerprint → a = b

variable {r : Registry} {found : List (Key × Gate)} {first last lane : Lane} {f : UInt64}

theorem gauge_eq (r : Registry) : r.gauge = fill Table.empty r.depths.entries :=
  rfl

theorem find?_fill_concat (shown : Family DepthLabel) (depths : List (Lane × Nat))
    (d : Lane × Nat) (f : UInt64) :
    (fill shown (depths ++ [d])).find? f =
      if d.1.fingerprint = f then
        some ⟨(((fill shown depths).find? f).map (·.label)).getD d.1.label, min d.2 gaugeMost⟩
      else (fill shown depths).find? f := by
  rw [fill, List.foldl_append, List.foldl_cons, List.foldl_nil, ← fill, Family.update,
    Table.find?_alter_of_eq]
  split
  next heq =>
    rw [heq]
    cases (fill shown depths).find? f <;> rfl
  next => rfl

/-- A sample has the labels of the first that was set with its fingerprint, and the number of
    the last. -/
theorem find?_fill (depths : List (Lane × Nat)) (f : UInt64) :
    (fill Table.empty depths).find? f =
      (depths.filter fun d => d.1.fingerprint = f).head?.bind fun a =>
        (depths.filter fun d => d.1.fingerprint = f).getLast?.map fun b =>
          ⟨a.1.label, min b.2 gaugeMost⟩ := by
  -- From the end, as it is the last one set that decides on the number.
  induction depths using List.reverseRecOn with
  | nil => rfl
  | append_singleton depths d ih =>
      rw [find?_fill_concat, List.filter_append, List.filter_singleton]
      by_cases hd : d.1.fingerprint = f
      · rw [if_pos hd, decide_eq_true hd, cond_true, List.getLast?_concat, ih]
        -- The sample is there already if some other has the fingerprint.
        cases depths.filter fun d => d.1.fingerprint = f with
        | nil => rfl
        | cons a rest =>
            rw [List.getLast?_eq_some_getLast (List.cons_ne_nil a rest)]
            rfl
      · rw [if_neg hd, decide_eq_false hd, cond_false, List.append_nil, ih]

theorem fingerprint_of_find? {depths : List (Lane × Nat)} {s : Sample DepthLabel}
    (h : (fill Table.empty depths).find? f = some s) : s.label.fingerprint = f := by
  rw [find?_fill] at h
  rcases Option.bind_eq_some_iff.mp h with ⟨a, ha, hmap⟩
  rcases Option.map_eq_some_iff.mp hmap with ⟨b, -, rfl⟩
  exact of_decide_eq_true (List.mem_filter.mp (List.mem_of_head? ha)).2

theorem isLE_of_head? {es : List (Lane × Nat)} (h : Ascending es) {a d : Lane × Nat}
    (ha : es.head? = some a) (hd : d ∈ es) : (compare a.1 d.1).isLE := by
  cases es with
  | nil => exact nomatch hd
  | cons e es =>
      cases Option.some.inj ha
      rcases List.mem_cons.mp hd with rfl | hrest
      · rw [Std.ReflOrd.compare_self]
        rfl
      · rw [(List.pairwise_cons.mp h).1 d hrest]
        rfl

theorem isLE_of_getLast? {es : List (Lane × Nat)} (h : Ascending es) {b d : Lane × Nat}
    (hb : es.getLast? = some b) (hd : d ∈ es) : (compare d.1 b.1).isLE := by
  rcases List.getLast?_eq_some_iff.mp hb with ⟨front, rfl⟩
  rcases List.mem_append.mp hd with hfront | hlast
  · rw [(List.pairwise_append.mp h).2.2 d hfront b (List.mem_singleton_self b)]
    rfl
  · rw [List.mem_singleton.mp hlast, Std.ReflOrd.compare_self]
    rfl

theorem Spans.unique {first' last' : Lane} (h : r.Spans first last) (h' : r.Spans first' last')
    (hsame : first.fingerprint = first'.fingerprint) : first = first' ∧ last = last' := by
  constructor
  · exact Std.LawfulEqOrd.eq_of_compare (Std.OrientedCmp.isLE_antisymm
      (h.least first' h'.first_waits hsame.symm) (h'.least first h.first_waits hsame))
  · exact Std.LawfulEqOrd.eq_of_compare (Std.OrientedCmp.isLE_antisymm
      (h'.greatest last h.last_waits (h.same.trans hsame))
      (h.greatest last' h'.last_waits (h'.same.trans hsame.symm)))

/-- A pair that shares its fingerprint with no other is both the first and the last. -/
theorem Spans.self (hwaits : 0 < r.depth lane)
    (hown : ∀ other, 0 < r.depth other → other.fingerprint = lane.fingerprint → other = lane) :
    r.Spans lane lane := by
  have hle : ∀ other, 0 < r.depth other → other.fingerprint = lane.fingerprint →
      compare lane other = .eq ∧ compare other lane = .eq := by
    intro other hother hsame
    rw [hown other hother hsame]
    exact ⟨Std.ReflOrd.compare_self, Std.ReflOrd.compare_self⟩
  exact ⟨hwaits, hwaits, rfl, fun other hother hsame => by rw [(hle other hother hsame).1]; rfl,
    fun other hother hsame => by rw [(hle other hother hsame).2]; rfl⟩

section Paired

variable (hgates : ∀ e ∈ r.gates.entries, e.2.Paired)
include hgates

/-- The ends of the row of sums with a fingerprint are the first and the last pair with it. -/
theorem spans_of_ends {a b : Lane × Nat}
    (ha : (r.depths.entries.filter fun d => d.1.fingerprint = f).head? = some a)
    (hb : (r.depths.entries.filter fun d => d.1.fingerprint = f).getLast? = some b) :
    r.Spans a.1 b.1 ∧ a.1.fingerprint = f ∧ b.2 = r.depth b.1 := by
  have hascending : Ascending (r.depths.entries.filter fun d => d.1.fingerprint = f) :=
    List.Pairwise.filter _ r.depths.ascending
  have hmarked : ∀ d ∈ r.depths.entries.filter (fun d => d.1.fingerprint = f),
      (0 < r.depth d.1 ∧ d.2 = r.depth d.1) ∧ d.1.fingerprint = f := by
    intro d hd
    rcases List.mem_filter.mp hd with ⟨hmem, hf⟩
    exact ⟨(mem_depths_iff hgates d.1 d.2).mp hmem, of_decide_eq_true hf⟩
  have hthere : ∀ lane, 0 < r.depth lane → lane.fingerprint = f →
      (lane, r.depth lane) ∈ r.depths.entries.filter fun d => d.1.fingerprint = f := by
    intro lane hwaits hf
    exact List.mem_filter.mpr
      ⟨(mem_depths_iff hgates lane _).mpr ⟨hwaits, rfl⟩, decide_eq_true hf⟩
  rcases hmarked a (List.mem_of_head? ha) with ⟨⟨hfirst, -⟩, hfa⟩
  rcases hmarked b (List.mem_of_getLast? hb) with ⟨⟨hlast, hdepth⟩, hfb⟩
  refine ⟨⟨hfirst, hlast, hfb.trans hfa.symm, fun lane hwaits hf => ?_,
    fun lane hwaits hf => ?_⟩, hfa, hdepth⟩
  · have hle := isLE_of_head? hascending ha (hthere lane hwaits (hf.trans hfa))
    exact hle
  · have hle := isLE_of_getLast? hascending hb (hthere lane hwaits (hf.trans hfa))
    exact hle

theorem find?_gauge_iff (f : UInt64) (s : Sample DepthLabel) :
    r.gauge.find? f = some s ↔ ∃ first last, r.Spans first last ∧ first.fingerprint = f ∧
      s = ⟨first.label, min (r.depth last) gaugeMost⟩ := by
  rw [gauge_eq, find?_fill]
  constructor
  · intro h
    rcases Option.bind_eq_some_iff.mp h with ⟨a, ha, hmap⟩
    rcases Option.map_eq_some_iff.mp hmap with ⟨b, hb, rfl⟩
    rcases spans_of_ends hgates ha hb with ⟨hspans, hf, hdepth⟩
    exact ⟨a.1, b.1, hspans, hf, by rw [hdepth]⟩
  · rintro ⟨first, last, hspans, rfl, rfl⟩
    -- The row has ends, since the first pair is in it, and these are the pairs.
    have hmem : (first, r.depth first) ∈
        r.depths.entries.filter fun d => d.1.fingerprint = first.fingerprint :=
      List.mem_filter.mpr
        ⟨(mem_depths_iff hgates first _).mpr ⟨hspans.first_waits, rfl⟩, decide_eq_true rfl⟩
    have ha := List.head?_eq_some_head (List.ne_nil_of_mem hmem)
    have hb := List.getLast?_eq_some_getLast (List.ne_nil_of_mem hmem)
    rcases spans_of_ends hgates ha hb with ⟨hends, hf, hdepth⟩
    rcases hends.unique hspans hf with ⟨hfirst, hlast⟩
    rw [ha, hb, Option.bind_some, Option.map_some, hdepth, hfirst, hlast]

/-- The gauge shows a sample for each fingerprint that somebody waits with: it has the labels of
    the first pair and the number of the last. -/
theorem mem_gauge_iff (l : DepthLabel) (n : Nat) :
    (l, n) ∈ r.gauge.samples ↔ ∃ first last, r.Spans first last ∧ l = first.label ∧
      n = min (r.depth last) gaugeMost := by
  have hmark : ∀ e ∈ r.gauge.entries, e.2.label.fingerprint = e.1 := fun e he =>
    fingerprint_of_find? ((Table.find?_eq_some_iff _ e.1 e.2).mpr he)
  rw [Family.mem_samples_iff hmark, find?_gauge_iff hgates]
  constructor
  · rintro ⟨first, last, hspans, -, heq⟩
    cases heq
    exact ⟨first, last, hspans, rfl, rfl⟩
  · rintro ⟨first, last, hspans, rfl, rfl⟩
    exact ⟨first, last, hspans, rfl, rfl⟩

/-- A pair that shares its fingerprint with no other has a sample to itself. -/
theorem samples_filter (hwaits : 0 < r.depth lane)
    (hown : ∀ other, 0 < r.depth other → other.fingerprint = lane.fingerprint → other = lane) :
    r.gauge.samples.filter (fun s => s.1 = lane.label) =
      [(lane.label, min (r.depth lane) gaugeMost)] := by
  have hmem := (mem_gauge_iff hgates lane.label _).mpr
    ⟨lane, lane, Spans.self hwaits hown, rfl, rfl⟩
  rw [Family.samples, Table.entries_filter_key, (Table.find?_eq_some_iff _ _ _).mpr hmem]
  rfl

/-- If no fingerprint is shared, the samples are the sums. -/
theorem samples_perm (hapart : r.Apart) :
    r.gauge.samples.Perm (r.depths.entries.map fun d => (d.1.label, min d.2 gaugeMost)) := by
  have hsamples : r.gauge.samples.Nodup := List.Nodup.of_map (·.1) (Table.nodup_keys _)
  have hsums : (r.depths.entries.map fun d => (d.1.label, min d.2 gaugeMost)).Nodup := by
    refine List.Nodup.of_map (·.1) ?_
    have hlabels := (Table.nodup_keys r.depths).map fun _ _ => Lane.label_injective
    rw [List.map_map] at hlabels ⊢
    exact hlabels
  -- Neither list has anything twice, so they need only have the same members.
  refine (List.perm_ext_iff_of_nodup hsamples hsums).mpr fun ⟨l, n⟩ => ?_
  rw [mem_gauge_iff hgates, List.mem_map]
  constructor
  · rintro ⟨first, last, hspans, rfl, rfl⟩
    -- The first and the last pair with a fingerprint are the same one.
    cases hapart last first hspans.last_waits hspans.first_waits hspans.same
    exact ⟨(first, r.depth first),
      (mem_depths_iff hgates first _).mpr ⟨hspans.first_waits, rfl⟩, rfl⟩
  · rintro ⟨⟨lane, m⟩, hd, heq⟩
    rcases (mem_depths_iff hgates lane m).mp hd with ⟨hwaits, rfl⟩
    cases heq
    exact ⟨lane, lane, Spans.self hwaits fun other hother => hapart other lane hother hwaits,
      rfl, rfl⟩

theorem sum_samples (hapart : r.Apart) (hmost : ∀ lane, r.depth lane ≤ gaugeMost) :
    (r.gauge.samples.map (·.2)).sum = r.undecided := by
  rw [← sum_depths hgates, ((samples_perm hgates hapart).map _).sum_nat, List.map_map]
  refine congrArg List.sum (List.map_congr_left fun d hd => ?_)
  have hdepth := ((mem_depths_iff hgates d.1 d.2).mp hd).2
  exact Nat.min_eq_left (hdepth ▸ hmost d.1)

end Paired

/-- **The gauge tells who waits.** Let the gates of a registry, in any state that it can be in, be
    found in any order, and let anything have been shown before. What is shown then depends on
    neither. There is one sample for each fingerprint that somebody waits with; it has the labels of
    the first remedy and priority with it, and shows how many calls wait with the last of them,
    over all gates of the remedy. So nothing is shown of a remedy and a priority that nobody
    waits with, and one that shares its fingerprint with no other is shown once and with its
    number. If no fingerprint is shared the samples add up to all calls that wait. -/
theorem gauge_shows_depths (ss : List Step) (shown : Family DepthLabel)
    (found : List (Key × Gate)) (hfound : found.Perm (empty.run ss).1.gates.entries) :
    let r := (empty.run ss).1
    scrape shown found = r.gauge ∧
    (∀ l n, (l, n) ∈ r.gauge.samples ↔ ∃ first last, r.Spans first last ∧ l = first.label ∧
      n = min (r.depth last) gaugeMost) ∧
    (∀ lane, r.depth lane = 0 → ∀ n, (lane.label, n) ∉ r.gauge.samples) ∧
    (∀ lane, 0 < r.depth lane →
      (∀ other, 0 < r.depth other → other.fingerprint = lane.fingerprint → other = lane) →
      r.gauge.samples.filter (fun s => s.1 = lane.label) =
        [(lane.label, min (r.depth lane) gaugeMost)]) ∧
    (r.Apart → (∀ lane, r.depth lane ≤ gaugeMost) →
      (r.gauge.samples.map (·.2)).sum = r.undecided) := by
  intro r
  have hgates : ∀ e ∈ r.gates.entries, e.2.Paired := fun e he =>
    (sound_of_find? ((Table.find?_eq_some_iff _ e.1 e.2).mpr he)).toPaired
  refine ⟨?_, mem_gauge_iff hgates, fun lane hnobody n hmem => ?_,
    fun lane => samples_filter hgates, sum_samples hgates⟩
  · rw [gauge_eq, ← depthsOf_of_perm hgates hfound]
    rfl
  · rcases (mem_gauge_iff hgates _ _).mp hmem with ⟨first, last, hspans, hlabel, -⟩
    rw [Lane.label_injective hlabel] at hnobody
    exact absurd hspans.first_waits (by omega)

namespace Booths

/-- A booth that admits nobody. -/
def front : Key := ⟨"a", ⟨0, .ofSeconds 60⟩⟩

/-- Another booth of the remedy, with longer windows. -/
def back : Key := ⟨"a", ⟨0, .ofSeconds 90⟩⟩

/-- A booth whose remedy takes a digit into its name. -/
def other : Key := ⟨"a1", ⟨0, .ofSeconds 60⟩⟩

/-- A call that comes to a booth and would wait for half a minute. -/
def arrive (key : Key) (call : CallId) (priority : Priority) : Step :=
  .arrive key call ⟨toString call, priority, Instant.epoch⟩ (.ofSeconds 30) Instant.epoch

/-- One call with a priority at each booth of a remedy, and one with another priority. -/
def steps : List Step := [arrive front 0 11, arrive back 1 11, arrive front 2 3]

end Booths

/-- Two calls wait at different booths of a remedy, and are shown as two. A third is shown
    until it ends. -/
theorem gauge_shows_depths_at_booths :
    let before := (empty.run Booths.steps).1
    let r := (empty.run (Booths.steps ++ [.gate Booths.front (.drop 2)])).1
    before.gauge.samples = [(⟨"11", "a"⟩, 2), (⟨"3", "a"⟩, 1)] ∧
    (scrape before.gauge r.gates.entries.reverse).samples = [(⟨"11", "a"⟩, 2)] ∧
    (∀ n, (⟨"3", "a"⟩, n) ∉ r.gauge.samples) := by
  intro before r
  have hlaw := gauge_shows_depths (Booths.steps ++ [.gate Booths.front (.drop 2)]) before.gauge
    _ (List.reverse_perm _)
  refine ⟨by decide +kernel, ?_, hlaw.2.2.1 ⟨"a", 3⟩ (by decide +kernel)⟩
  rw [hlaw.1]
  decide +kernel

/-- Two calls wait with one remedy and priority, and one with another: there is one sample,
    which shows the labels of the two and the number of the one. -/
theorem booths_share_a_sample :
    let r := (empty.run [Booths.arrive Booths.front 0 11, Booths.arrive Booths.front 1 11,
      Booths.arrive Booths.other 2 1]).1
    r.depth ⟨"a", 11⟩ = 2 ∧ r.depth ⟨"a1", 1⟩ = 1 ∧ r.undecided = 3 ∧
    r.gauge.samples = [(Lane.label ⟨"a", 11⟩, 1)] := by
  decide +kernel

end Registry

end Turnstile
