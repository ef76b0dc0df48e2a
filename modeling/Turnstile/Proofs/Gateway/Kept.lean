import Turnstile.Proofs.Config
import Turnstile.Proofs.Gate.Holding
import Turnstile.Proofs.Gateway.Book
import Turnstile.Proofs.Registry

/-!
# What Holds at the Gates of a Gateway

A gateway makes a gate when the first request for a remedy comes, and never another one for
the same remedy: a gate is registered under the name and the policy, and the policy is the
one that the configuration has for the name. So the name of a remedy tells its gate.

From this it follows that a call waits at one gate only, that of the remedy which its
request names. For the book that is kept beside the run this means that it may take every
notice at its word. A slot that is given to a call is one of the gate of its remedy, and a
call that a gate returns is in no other one.

`Kept` is what holds before and after whatever happens at the gates, and `Passes` is what is
shown of each step there: that it keeps this, whom it returns, and that it makes no more
requests pending than the slots it uses up. An event at one gate is treated first, and all
other steps are made of such events.

## Main definitions

* `Config.Rules`: The configuration has a rule for the remedy and policy of a key.
* `Kept`: What holds at the gates.
* `Announced`: A call that arrives is known to the book.
* `spentAt`: The slots of a window that are used up at the gate of a key.
* `Passes`: What a step at the gates does.

## Theorems

* `key_eq_of_remedy`: The name of a remedy tells its key.
* `waits_once`: A call waits at the gate of its remedy and at no other one.
* `ne_of_dropped`: So a call that was given up at a gate waits nowhere.
* `kept_visit`, `pending_visit`: What an event at one gate does.
* `passes_visit`, `passes_arrive`, `passes_closeAll`: All steps pass.
-/

namespace Turnstile

/-- The configuration has a rule for the remedy of a key, and the policy is that of the
    rule. -/
def Config.Rules (c : Config) (key : Key) : Prop :=
  ∃ remedy rule, c.remedy? key.remedy = some remedy ∧ remedy.rule = some rule ∧
    key.policy = rule.policy

/-- The name of a remedy tells its key. -/
theorem key_eq_of_remedy {c : Config} {key other : Key} (hkey : c.Rules key)
    (hother : c.Rules other) (hname : key.remedy = other.remedy) : key = other := by
  rcases hkey with ⟨remedy, rule, hfind, hrule, hpolicy⟩
  rcases hother with ⟨remedy', rule', hfind', hrule', hpolicy'⟩
  rw [hname, hfind'] at hfind
  cases hfind
  cases hrule.symm.trans hrule'
  rcases key with ⟨name, policy⟩
  rcases other with ⟨name', policy'⟩
  cases hname
  cases hpolicy.trans hpolicy'.symm
  rfl

namespace Gateway

/-- What holds at the gates of a gateway, when the last reading was `last`. -/
structure Kept (config : Config) (r : Registry) (inFlight : Table CallId InFlight)
    (errands : Table CallId Errand) (last : Instant) : Prop where
  /-- Every gate is sound. -/
  sound : ∀ {key gate}, r.find? key = some gate → gate.Sound
  /-- It enforces the policy it is registered under. -/
  policy_eq : ∀ {key gate}, r.find? key = some gate → gate.policy = key.policy
  /-- It has observed no window ahead of the clock. -/
  window_le : ∀ {key gate}, r.find? key = some gate → gate.window ≤ gate.policy.windowAt last
  /-- It is the gate of a remedy. -/
  ruled : ∀ {key gate}, r.find? key = some gate → config.Rules key
  /-- Who waits there is in flight and has named this remedy, and the book has its slot. -/
  waits : ∀ {key gate call}, r.find? key = some gate → gate.callers.contains call = true →
    inFlight.contains call = true ∧ ∃ errand, errands.find? call = some errand ∧
      errand.remedy = key.remedy ∧ (gate.holds call = true → errand.slot.isSome = true)

/-- A call that arrives at a key is in flight, and has named the remedy of the key. -/
def Announced (inFlight : Table CallId InFlight) (errands : Table CallId Errand) (key : Key)
    (event : Event) : Prop :=
  ∀ call request ttl now, event = .arrive call request ttl now →
    inFlight.contains call = true ∧
      ∃ errand, errands.find? call = some errand ∧ errand.remedy = key.remedy

/-- The slots of a window that are used up at the gate of a key. -/
def spentAt (r : Registry) (key : Key) (k : Int) : Nat :=
  match r.find? key with
  | some gate => gate.spent k
  | none => 0

variable {config : Config} {r : Registry} {inFlight : Table CallId InFlight}
  {errands : Table CallId Errand} {last : Instant} {key : Key} {gate : Gate} {event : Event}
  {call : CallId}

theorem kept_empty (config : Config) (last : Instant) :
    Kept config Registry.empty Table.empty Table.empty last where
  sound h := nomatch h
  policy_eq h := nomatch h
  window_le h := nomatch h
  ruled h := nomatch h
  waits h := nomatch h

/-- The clock may go on. -/
theorem kept_later (h : Kept config r inFlight errands last) {later : Instant}
    (hle : last ≤ later) : Kept config r inFlight errands later where
  sound := h.sound
  policy_eq := h.policy_eq
  window_le hfind := Int.le_trans (h.window_le hfind) (Policy.windowAt_mono _ hle)
  ruled := h.ruled
  waits := h.waits

/-- Requests in flight may come and go, except those who wait. -/
theorem kept_inFlight (h : Kept config r inFlight errands last)
    {inFlight' : Table CallId InFlight}
    (hkeep : ∀ key gate call, r.find? key = some gate → gate.callers.contains call = true →
      inFlight.contains call = true → inFlight'.contains call = true) :
    Kept config r inFlight' errands last where
  sound := h.sound
  policy_eq := h.policy_eq
  window_le := h.window_le
  ruled := h.ruled
  waits hfind hthere := by
    rcases h.waits hfind hthere with ⟨hin, herrand⟩
    exact ⟨hkeep _ _ _ hfind hthere hin, herrand⟩

/-- A number that is in no flight may have any errand. -/
theorem kept_errand (h : Kept config r inFlight errands last)
    (hnew : inFlight.find? call = none) (errand : Errand) :
    Kept config r inFlight (errands.insert call errand) last where
  sound := h.sound
  policy_eq := h.policy_eq
  window_le := h.window_le
  ruled := h.ruled
  waits {_ _ other} hfind hthere := by
    rcases h.waits hfind hthere with ⟨hin, herrand⟩
    refine ⟨hin, ?_⟩
    rw [Table.find?_insert_of_eq, if_neg]
    · exact herrand
    · rintro rfl
      exact absurd ((Table.not_contains_of_find? hnew).symm.trans hin) Bool.false_ne_true

/-- A gate may be made for a remedy that has a rule. -/
theorem kept_ensure (h : Kept config r inFlight errands last) (hrules : config.Rules key) :
    Kept config (r.ensure key last).1 inFlight errands last where
  sound hfind := by
    rcases Registry.find?_ensure last hfind with hold | ⟨-, rfl, rfl⟩
    · exact h.sound hold
    · exact Gate.sound_start _ _
  policy_eq hfind := by
    rcases Registry.find?_ensure last hfind with hold | ⟨-, rfl, rfl⟩
    · exact h.policy_eq hold
    · rfl
  window_le hfind := by
    rcases Registry.find?_ensure last hfind with hold | ⟨-, rfl, rfl⟩
    · exact h.window_le hold
    · exact Int.le_refl _
  ruled hfind := by
    rcases Registry.find?_ensure last hfind with hold | ⟨-, rfl, -⟩
    · exact h.ruled hold
    · exact hrules
  waits hfind hthere := by
    rcases Registry.find?_ensure last hfind with hold | ⟨-, rfl, rfl⟩
    · exact h.waits hold hthere
    · exact absurd hthere Bool.false_ne_true

theorem spentAt_ensure (r : Registry) (key other : Key) (now : Instant) (k : Int) :
    spentAt r other k ≤ spentAt (r.ensure key now).1 other k := by
  unfold spentAt
  cases hfind : r.find? other with
  | none => exact Nat.zero_le _
  | some gate => exact Nat.le_of_eq (by rw [Registry.find?_ensure_of_find? key now hfind])

/-- Whoever an event is about is in flight, and has named the remedy of the gate. -/
theorem errand_of_concerns (h : Kept config r inFlight errands last)
    (hannounced : Announced inFlight errands key event) (hfind : r.find? key = some gate)
    (hconcerns : gate.Concerns event call) :
    inFlight.contains call = true ∧ ∃ errand, errands.find? call = some errand ∧
      errand.remedy = key.remedy ∧ (gate.holds call = true → errand.slot.isSome = true) := by
  by_cases hthere : gate.callers.contains call = true
  · exact h.waits hfind hthere
  · rcases hconcerns.resolve_left hthere with ⟨request, ttl, now, heq⟩
    rcases hannounced call request ttl now heq with ⟨hin, errand, herrand, hname⟩
    refine ⟨hin, errand, herrand, hname, fun hholds => ?_⟩
    -- Who is not there has nothing.
    rw [Table.contains, Option.not_isSome_iff_eq_none] at hthere
    rw [Gate.holds, hthere] at hholds
    exact absurd hholds Bool.false_ne_true

/-- A call waits at the gate of its remedy and at no other one. -/
theorem waits_once (h : Kept config r inFlight errands last) (hrules : config.Rules key)
    {errand : Errand} (herrand : errands.find? call = some errand)
    (hname : errand.remedy = key.remedy) {other : Key} (hfind : r.find? other = some gate)
    (hthere : gate.callers.contains call = true) : other = key := by
  rcases h.waits hfind hthere with ⟨-, errand', herrand', hname', -⟩
  cases herrand.symm.trans herrand'
  exact key_eq_of_remedy (h.ruled hfind) hrules (hname'.symm.trans hname)

/-- Once a call was given up, whoever waits is another one. -/
theorem ne_of_dropped (h : Kept config r inFlight errands last) (hfind : r.find? key = some gate)
    (hwaits : gate.callers.contains call = true) {other : Key} {gate' : Gate} {waiting : CallId}
    (hfind' : (r.step (.gate key (.drop call))).1.find? other = some gate')
    (hthere : gate'.callers.contains waiting = true) : call ≠ waiting := by
  rintro rfl
  rcases Registry.find?_visit hfind' with ⟨hother, hold⟩ | ⟨-, before, -, rfl⟩
  · -- At another gate it would have waited before, besides its own.
    rcases h.waits hfind hwaits with ⟨-, errand, herrand, hname, -⟩
    exact hother (waits_once h (h.ruled hfind) herrand hname hold hthere)
  · have hgone : (before.step (.drop call)).1.callers.find? call = none :=
      Gate.absent_of_drop before call
    rw [Table.contains, hgone] at hthere
    exact Bool.false_ne_true hthere

/-- A request that has just come in is announced at the gate of its remedy. -/
theorem announced_of_new {name : String} {request : InFlight} {asked : Request} {ttl : Span}
    {now : Instant} (hname : key.remedy = name) :
    Announced (inFlight.insert call request) (errands.insert call ⟨name, none⟩) key
      (.arrive call asked ttl now) := by
  rintro _ _ _ _ ⟨⟩
  refine ⟨?_, ⟨name, none⟩, ?_, hname.symm⟩
  · rw [Table.contains, Table.find?_insert_of_eq, if_pos rfl]
    rfl
  · rw [Table.find?_insert_of_eq, if_pos rfl]

theorem notices_visit (hfind : r.find? key = some gate) (event : Event) :
    (r.step (.gate key event)).2.map (·.2) = (gate.step event).2 := by
  rw [Registry.step_gate_of_find? hfind, List.map_map]
  exact List.map_id'' (fun _ => rfl) _

/-- Slots are given away by events that read the clock. -/
theorem reading_of_granted (h : Kept config r inFlight errands last)
    (hfind : r.find? key = some gate) (event : Event) (call : CallId)
    (hgrant : .granted call ∈ (r.step (.gate key event)).2.map (·.2)) :
    event.reading?.isSome = true := by
  rw [notices_visit hfind] at hgrant
  rcases Gate.move_grant (h.sound hfind).toPaired (gate.step_move event) hgrant with
    ⟨now, hnow, -⟩
  rw [hnow]
  rfl

/-- An event at one gate keeps what holds at all. -/
theorem kept_visit (h : Kept config r inFlight errands last)
    (hreading : ∀ now, event.reading? = some now → last ≤ now)
    (hannounced : Announced inFlight errands key event) :
    Kept config (r.step (.gate key event)).1 inFlight
      ((r.step (.gate key event)).2.foldl (Errand.hear event.reading?) errands)
      (event.reading?.getD last) := by
  have hlast : last ≤ event.reading?.getD last := by
    cases hnow : event.reading? with
    | none => exact Int.le_refl _
    | some now => exact hreading now hnow
  cases hgate : r.find? key with
  | none =>
      rw [Registry.step_gate_of_none hgate]
      exact kept_later h hlast
  | some gate =>
      have hsound := h.sound hgate
      have hmove := gate.step_move event
      have hpolicy := Gate.move_policy hsound.toPaired hmove
      have hgrants := reading_of_granted h hgate event
      -- The gate of the event has moved, and the others are as they were.
      refine ⟨fun hfind => ?_, fun hfind => ?_, fun hfind => ?_, fun hfind => ?_,
        fun hfind hthere => ?_⟩
      all_goals rcases Registry.find?_visit hfind with ⟨-, hold⟩ | ⟨rfl, before, hbefore, rfl⟩
      all_goals try cases hgate.symm.trans hbefore
      · exact h.sound hold
      · exact Gate.step_sound hsound event
      · exact h.policy_eq hold
      · exact hpolicy.trans (h.policy_eq hgate)
      · exact Int.le_trans (h.window_le hold) (Policy.windowAt_mono _ hlast)
      · rw [hpolicy]
        exact Gate.move_window_le_windowAt hsound.toPaired hmove (h.window_le hgate) hreading
      · exact h.ruled hold
      · exact h.ruled hgate
      · rcases h.waits hold hthere with ⟨hin, errand, herrand, hname, hslot⟩
        rcases errand_of_hears hgrants herrand with ⟨later, hlater, hsame, hgiven⟩
        exact ⟨hin, later, hlater, hsame.trans hname, fun hholds => hgiven (Or.inl (hslot hholds))⟩
      · rcases Option.isSome_iff_exists.mp hthere with ⟨caller, hcaller⟩
        have hconcerns := Gate.concerns_of_waiting hsound.toPaired hmove hcaller
        rcases errand_of_concerns h hannounced hgate hconcerns with
          ⟨hin, errand, herrand, hname, hslot⟩
        rcases errand_of_hears hgrants herrand with ⟨later, hlater, hsame, hgiven⟩
        refine ⟨hin, later, hlater, hsame.trans hname, fun hholds => hgiven ?_⟩
        rw [notices_visit hgate]
        exact (Gate.holds_of_move hsound.toPaired hmove hholds).imp_left hslot

/-- An event makes no more requests for a remedy pending, whose slots were given to them in a
    window, than it uses up of the slots that the gate of the remedy has for the window. -/
theorem pending_visit (h : Kept config r inFlight errands last)
    (hreading : ∀ now, event.reading? = some now → last ≤ now)
    (hannounced : Announced inFlight errands key event) {name : String} {remedy : Remedy}
    {rule : QueueRule} (hknown : config.remedy? name = some remedy)
    (hrule : remedy.rule = some rule) (k : Int) :
    pending (Errand.isWithin name rule.windowSeconds k) inFlight
        ((r.step (.gate key event)).2.foldl (Errand.hear event.reading?) errands) +
      spentAt r ⟨name, rule.policy⟩ k ≤
    pending (Errand.isWithin name rule.windowSeconds k) inFlight errands +
      spentAt (r.step (.gate key event)).1 ⟨name, rule.policy⟩ k := by
  cases hgate : r.find? key with
  | none =>
      rw [Registry.step_gate_of_none hgate]
      exact Nat.le_refl _
  | some gate =>
      have hsound := h.sound hgate
      have hmove := gate.step_move event
      by_cases hkey : key = ⟨name, rule.policy⟩
      · -- The gate of the remedy uses up what it gives away in the window.
        subst hkey
        have hpolicy : gate.policy = rule.policy := h.policy_eq hgate
        have hgiven := Gate.grantsWithin_eq hsound.toPaired (h.window_le hgate) hreading k
        have hspent := Gate.spent_move hsound hmove hgiven
        have hpending : pending (Errand.isWithin name rule.windowSeconds k) inFlight
            ((r.step (.gate ⟨name, rule.policy⟩ event)).2.foldl
              (Errand.hear event.reading?) errands) ≤
            pending (Errand.isWithin name rule.windowSeconds k) inFlight errands +
              (⟨gate, event⟩ : Moment).grantsWithin gate.policy k := by
          unfold Moment.grantsWithin
          by_cases hwithin : (⟨gate, event⟩ : Moment).isWithin gate.policy k = true
          · rw [if_pos hwithin]
            have hle := pending_hears (Errand.isWithin name rule.windowSeconds k) inFlight
              errands event.reading? (r.step (.gate ⟨name, rule.policy⟩ event)).2
            rw [notices_visit hgate] at hle
            exact hle
          · rw [if_neg hwithin]
            refine pending_hears_of_not fun _ _ errand _ _ => Bool.eq_false_iff.mpr fun hin => ?_
            -- A slot that is given in the window is given at a reading in it.
            rw [Errand.isWithin, Bool.and_eq_true] at hin
            cases hnow : event.reading? with
            | none =>
                rw [hnow] at hin
                exact Bool.false_ne_true hin.2
            | some now =>
                rw [hnow, Option.any_some, decide_eq_true_iff] at hin
                refine hwithin ?_
                rw [Moment.isWithin, hnow]
                simp only [decide_eq_true_iff]
                rw [hpolicy, ← Policy.windowAt_eq_iff]
                exact Policy.windowAt_of_inSeconds rfl hin.2
        unfold spentAt
        rw [Registry.find?_visit_self hgate, hgate]
        simp only []
        omega
      · -- The slots of another gate go to requests that name another remedy.
        unfold spentAt
        rw [Registry.find?_visit_of_ne r hkey]
        refine Nat.add_le_add_right (pending_hears_of_not fun other c errand hgrant herrand => ?_) _
        rcases Registry.mem_visit hgrant with ⟨-, before, hbefore, hgranted⟩
        cases hgate.symm.trans hbefore
        have hconcerns := Gate.concerns_of_granted hsound.toPaired hmove hgranted
        rcases errand_of_concerns h hannounced hgate hconcerns with ⟨-, _, hfound, hname, -⟩
        cases herrand.symm.trans hfound
        refine Bool.eq_false_iff.mpr fun hin => hkey ?_
        rw [Errand.isWithin, Bool.and_eq_true, beq_iff_eq] at hin
        exact key_eq_of_remedy (h.ruled hgate) ⟨remedy, rule, hknown, hrule, rfl⟩
          (hname.symm.trans hin.1)

/-- What a step at the gates does, whose notices come at a reading. -/
structure Passes (config : Config) (r : Registry) (rs : Registry.Step)
    (inFlight : Table CallId InFlight) (errands : Table CallId Errand)
    (reading : Option Instant) (last : Instant) : Prop where
  /-- It keeps what holds at the gates. -/
  kept : Kept config (r.step rs).1 inFlight ((r.step rs).2.foldl (Errand.hear reading) errands)
    (reading.getD last)
  /-- Whom it returns waits nowhere any more. -/
  gone : ∀ {key call v}, (key, .returned call v) ∈ (r.step rs).2 →
    ∀ {other gate}, (r.step rs).1.find? other = some gate → gate.callers.contains call = false
  /-- Whom it returns admitted has a slot. -/
  slot : ∀ {key call}, (key, .returned call true) ∈ (r.step rs).2 →
    ∃ errand, ((r.step rs).2.foldl (Errand.hear reading) errands).find? call = some errand ∧
      errand.slot.isSome = true
  /-- Requests that it makes pending are given slots that it uses up. -/
  spent : ∀ {name remedy rule}, config.remedy? name = some remedy → remedy.rule = some rule →
    ∀ k, pending (Errand.isWithin name rule.windowSeconds k) inFlight
        ((r.step rs).2.foldl (Errand.hear reading) errands) +
      spentAt r ⟨name, rule.policy⟩ k ≤
    pending (Errand.isWithin name rule.windowSeconds k) inFlight errands +
      spentAt (r.step rs).1 ⟨name, rule.policy⟩ k

theorem passes_visit (h : Kept config r inFlight errands last)
    (hreading : ∀ now, event.reading? = some now → last ≤ now)
    (hannounced : Announced inFlight errands key event) :
    Passes config r (.gate key event) inFlight errands event.reading? last := by
  have hkept := kept_visit h hreading hannounced
  refine ⟨hkept, fun {k c v} hreturned {other gate} hfind => ?_, fun {k c} hreturned => ?_,
    pending_visit h hreading hannounced⟩
  all_goals rcases Registry.mem_visit hreturned with ⟨rfl, before, hbefore, hn⟩
  all_goals
    have hsound := h.sound hbefore
    have hmove := before.step_move event
    have hgrants := reading_of_granted h hbefore event
    have hconcerns := Gate.concerns_of_returned hsound hmove hn
    rcases errand_of_concerns h hannounced hbefore hconcerns with
      ⟨-, errand, herrand, hname, hslot⟩
    rcases errand_of_hears hgrants herrand with ⟨later, hlater, hsame, hgiven⟩
  · -- It would have to wait at its own gate, which it has left.
    refine Bool.eq_false_iff.mpr fun hthere => ?_
    have hown := waits_once hkept (h.ruled hbefore) hlater (hsame.trans hname) hfind hthere
    rw [hown, Registry.find?_visit_self hbefore] at hfind
    cases hfind
    rw [Table.contains, Gate.absent_of_returned hsound hmove hn] at hthere
    exact Bool.false_ne_true hthere
  · refine ⟨later, hlater, hgiven ?_⟩
    rw [notices_visit hbefore]
    exact (Gate.granted_of_returned hsound hmove hn).imp_left hslot

/-- An arrival is an event at a gate that may have to be made for it. -/
theorem passes_arrive {request : Request} {ttl : Span} {now : Instant}
    (h : Kept config r inFlight errands last) (hnow : last ≤ now)
    (hrules : config.Rules key)
    (hannounced : Announced inFlight errands key (.arrive call request ttl now)) :
    Passes config r (.arrive key call request ttl now) inFlight errands (some now) last := by
  have hensured := kept_ensure (kept_later h hnow) hrules
  have hreading : ∀ later, (Event.arrive call request ttl now).reading? = some later →
      now ≤ later := fun _ hlater => Int.le_of_eq (congrArg Instant.nanos (Option.some.inj hlater))
  have hpasses := passes_visit hensured hreading hannounced
  have hstep := Registry.step_arrive_eq r key call request ttl now
  refine ⟨?_, ?_, ?_, fun {name _ rule} hknown hrule k => ?_⟩
  all_goals rw [hstep]
  · exact hpasses.kept
  · exact hpasses.gone
  · exact hpasses.slot
  · have hspent := hpasses.spent hknown hrule k
    have hmore := spentAt_ensure r key ⟨name, rule.policy⟩ now k
    exact Nat.le_trans (Nat.add_le_add_left hmore _) hspent

/-- Closing gates one after the other is such events, which return nobody. -/
theorem kept_closing (h : Kept config r inFlight errands last) (keys : List Key) :
    let run := r.run (keys.map (.gate · .close))
    let later := run.2.foldl (Errand.hear none) errands
    Kept config run.1 inFlight later last ∧
    (∀ n ∈ run.2, ∃ call, n.2 = .denied call) ∧
    ∀ {name remedy rule}, config.remedy? name = some remedy → remedy.rule = some rule → ∀ k,
      pending (Errand.isWithin name rule.windowSeconds k) inFlight later +
        spentAt r ⟨name, rule.policy⟩ k ≤
      pending (Errand.isWithin name rule.windowSeconds k) inFlight errands +
        spentAt run.1 ⟨name, rule.policy⟩ k := by
  induction keys generalizing r errands with
  | nil =>
      exact ⟨h, fun n hn => absurd hn List.not_mem_nil, fun _ _ _ => Nat.le_refl _⟩
  | cons key keys ih =>
      have hreading : ∀ now, Event.close.reading? = some now → last ≤ now :=
        fun _ hnow => nomatch hnow
      have hannounced : Announced inFlight errands key .close := fun _ _ _ _ heq => nomatch heq
      rcases ih (kept_visit h hreading hannounced) with ⟨hkept, hdenied, hspent⟩
      rw [List.map_cons, Registry.run_cons]
      simp only [List.foldl_append]
      refine ⟨hkept, fun n hn => ?_, fun hknown hrule k => ?_⟩
      · rcases List.mem_append.mp hn with hfirst | hrest
        · rcases n with ⟨other, n⟩
          rcases Registry.mem_visit hfirst with ⟨-, before, hbefore, hclose⟩
          exact Gate.denied_of_close (h.sound hbefore).toPaired hclose
        · exact hdenied n hrest
      · have hfirst := pending_visit h hreading hannounced hknown hrule k
        have hrest := hspent hknown hrule k
        simp only [Event.reading?] at hfirst hrest
        omega

theorem passes_closeAll (h : Kept config r inFlight errands last) :
    Passes config r .closeAll inFlight errands none last := by
  rcases kept_closing h r.gates.keys with ⟨hkept, hdenied, hspent⟩
  rw [← Registry.closeAll_eq] at hkept hdenied hspent
  have hnone : ∀ {key call v}, (key, .returned call v) ∉ (r.step .closeAll).2 := by
    intro key call v hmem
    rcases hdenied _ hmem with ⟨_, heq⟩
    exact nomatch heq
  exact ⟨hkept, fun hmem => absurd hmem hnone, fun hmem => absurd hmem hnone, hspent⟩

end Gateway

end Turnstile
