import Turnstile.Proofs.Gateway.Kept

/-!
# The Quota of a Remedy

A gateway admits no more requests to a remedy in a window than its rule allows. What a
gate promises it promises for its slots; here it is followed through all that stands before
the gate, to the answers that go out.

Requests may name anything, come with any headers and in any number, and be given up while
they wait. In whatever order this happens, an answer of admission goes to a request that a
gate has given a slot, unless the remedy has no rule. The window that counts is the one in
which the slot was given, which for a request that waited is not the one in which it came,
and need not be the one in which it is answered.

The count goes along the run. For each window the admissions entered so far and the requests
that are pending with a slot of it are no more than the slots of it that the gate has used
up. An answer turns a pending request into an entry, and a slot that is given away is used
up before it makes a request pending.

## Main definitions

* `Keeps`: What is shown of every step of a gateway.

## Theorems

* `queue_keeps`, `step_keeps`: Every step keeps what holds at the gates, and the count.
* `slot_of_book`: Who is admitted to a remedy with a rule was given a slot.
* `countP_book`: The count along a run.
* `admissions_within_quota`: No window has more admissions than the rule allows.
-/

namespace Turnstile

namespace Gateway

/-- What is shown of a step, whose outcome is a gateway and answers. -/
structure Keeps (g : Gateway) (errands : Table CallId Errand) (last : Instant) (s : Step)
    (out : Gateway × List (CallId × Response)) : Prop where
  /-- What is set up stays. -/
  config_eq : out.1.config = g.config
  /-- What holds at the gates is kept. -/
  kept : Kept g.config out.1.desk.registry out.1.inFlight (g.noted errands s)
    (s.reading?.getD last)
  /-- Who is admitted has a slot, or has named a remedy without a rule. -/
  slot : ∀ a ∈ out.2, a.2.isAdmission = true →
    ∃ errand, (g.noted errands s).find? a.1 = some errand ∧
      (errand.slot.isSome = true ∨
        ∃ remedy, g.config.remedy? errand.remedy = some remedy ∧ remedy.rule = none)
  /-- Admissions and pending requests become more by slots that are used up. -/
  spent : ∀ {name remedy rule}, g.config.remedy? name = some remedy → remedy.rule = some rule →
    ∀ k, out.2.countP (fun a => Entry.isWithin name rule.windowSeconds k
          ⟨a.1, (g.noted errands s).find? a.1, a.2⟩) +
        pending (Errand.isWithin name rule.windowSeconds k) out.1.inFlight (g.noted errands s) +
        spentAt g.desk.registry ⟨name, rule.policy⟩ k ≤
      pending (Errand.isWithin name rule.windowSeconds k) g.inFlight errands +
        spentAt out.1.desk.registry ⟨name, rule.policy⟩ k

variable {g : Gateway} {errands : Table CallId Errand} {last : Instant} {s : Step}

theorem noted_of_quiet (h : g.registryStep? s = none) (errands : Table CallId Errand) :
    g.noted errands s = g.entered errands s := by
  unfold noted notices
  rw [h]
  rfl

theorem noted_of_registryStep? {rs : Registry.Step} (h : g.registryStep? s = some rs)
    (errands : Table CallId Errand) :
    g.noted errands s =
      (g.desk.registry.step rs).2.foldl (Errand.hear s.reading?) (g.entered errands s) := by
  unfold noted notices
  rw [h]

/-- A request that comes in leaves the book as it is, or begins a new errand. -/
theorem entered_cases (g : Gateway) (errands : Table CallId Errand) (s : Step) :
    g.entered errands s = errands ∨
      ∃ call name, g.inFlight.find? call = none ∧
        g.entered errands s = errands.insert call ⟨name, none⟩ := by
  cases s with
  | gate | closeAll => exact Or.inl rfl
  | request listener call message fresh now =>
      rw [entered]
      split
      next name _ =>
        by_cases hthere : g.inFlight.contains call = true
        · exact Or.inl (if_pos hthere)
        · refine Or.inr ⟨call, name, ?_, if_neg hthere⟩
          rw [Table.contains, Option.not_isSome_iff_eq_none] at hthere
          exact hthere
      next => exact Or.inl rfl

theorem entered_of_new {listener : Listener} {call : CallId} {message : Message}
    {fresh name : String} {now : Instant} (hasks : message.asks? listener = some name)
    (hnew : g.inFlight.find? call = none) :
    g.entered errands (.request listener call message fresh now) =
      errands.insert call ⟨name, none⟩ := by
  simp only [entered, hasks, Table.not_contains_of_find? hnew, Bool.false_eq_true, if_false]

theorem kept_entered (h : Kept g.config g.desk.registry g.inFlight errands last) (s : Step) :
    Kept g.config g.desk.registry g.inFlight (g.entered errands s) last := by
  rcases entered_cases g errands s with heq | ⟨call, name, hnew, heq⟩
  · rw [heq]
    exact h
  · rw [heq]
    exact kept_errand h hnew _

theorem pending_entered (p : Errand → Bool) (s : Step) :
    pending p g.inFlight (g.entered errands s) = pending p g.inFlight errands := by
  rcases entered_cases g errands s with heq | ⟨call, name, hnew, heq⟩
  · rw [heq]
  · rw [heq]
    exact pending_insert_of_none p _ hnew

/-- A new errand has no slot yet. -/
theorem isWithin_of_new (call : CallId) (name other : String) (seconds : UInt64) (k : Int) :
    ((errands.insert call ⟨name, none⟩).find? call).any (Errand.isWithin other seconds k) =
      false := by
  rw [Table.find?_insert_of_eq, if_pos rfl]
  exact Bool.and_false _

/-- Nobody is admitted by answers that admit nobody. -/
theorem countP_of_plain {answers : List (CallId × Response)}
    (h : ∀ a ∈ answers, a.2.isAdmission = false) (name : String) (seconds : UInt64) (k : Int) :
    (answers.countP fun a => Entry.isWithin name seconds k ⟨a.1, errands.find? a.1, a.2⟩) = 0 := by
  refine List.countP_eq_zero.mpr fun a ha => ?_
  rw [Entry.isWithin, h a ha, Bool.false_and]
  exact Bool.false_ne_true

theorem last_le_reading (h : ∀ now, s.reading? = some now → last ≤ now) :
    last ≤ s.reading?.getD last := by
  cases hnow : s.reading? with
  | none => exact Int.le_refl _
  | some now => exact h now hnow

/-- A step that goes to the gates keeps all this, if the requests in flight are then as many
    as before or fewer, and those who wait among them. -/
theorem queue_keeps {rs : Registry.Step} {inFlight inFlight' : Table CallId InFlight}
    (dockets : Table CallId Docket) (hstep : g.registryStep? s = some rs)
    (hpasses : Passes g.config g.desk.registry rs inFlight (g.entered errands s) s.reading? last)
    (hkeep : ∀ key gate call, (g.desk.registry.step rs).1.find? key = some gate →
      gate.callers.contains call = true → inFlight.contains call = true →
      inFlight'.contains call = true)
    (hfewer : ∀ p errands, pending p inFlight' errands ≤ pending p inFlight errands)
    (hpending : ∀ name seconds k,
      pending (Errand.isWithin name seconds k) inFlight (g.entered errands s) ≤
        pending (Errand.isWithin name seconds k) g.inFlight errands) :
    Keeps g errands last s (g.queue dockets inFlight' rs) := by
  have hnoted := noted_of_registryStep? hstep errands
  refine ⟨queue_config .., ?_, fun a ha hadmission => ?_, fun {name _ rule} hknown hrule k => ?_⟩
  · rw [queue_registry, hnoted]
    refine kept_inFlight hpasses.kept fun key gate call hfind hthere hin => ?_
    refine inFlight_of_queue (hkeep key gate call hfind hthere hin) fun key' v hreturned => ?_
    exact absurd ((hpasses.gone hreturned hfind).symm.trans hthere) Bool.false_ne_true
  · rcases admission_of_queue ha hadmission with ⟨key, hreturned⟩
    rcases hpasses.slot hreturned with ⟨errand, herrand, hslot⟩
    rw [hnoted]
    exact ⟨errand, herrand, Or.inl hslot⟩
  · have hspent := hpasses.spent hknown hrule k
    rw [← hnoted] at hspent
    rw [queue_registry]
    let p := Errand.isWithin name rule.windowSeconds k
    -- Each admission takes a request from those pending.
    have hadmitted : (g.queue dockets inFlight' rs).2.countP (fun a =>
          Entry.isWithin name rule.windowSeconds k
            ⟨a.1, (g.noted errands s).find? a.1, a.2⟩) ≤
        (g.queue dockets inFlight' rs).2.countP fun a => ((g.noted errands s).find? a.1).any p :=
      List.countP_mono_left fun a _ h => (Bool.and_eq_true _ _ ▸ h).2
    have htaken : (g.queue dockets inFlight' rs).2.countP
          (fun a => ((g.noted errands s).find? a.1).any p) +
        pending p (g.queue dockets inFlight' rs).1.inFlight (g.noted errands s) =
        pending p inFlight' (g.noted errands s) :=
      countP_queue g dockets inFlight' rs fun call => ((g.noted errands s).find? call).any p
    have hless := hfewer p (g.noted errands s)
    have hbefore := hpending name rule.windowSeconds k
    simp only [p] at hadmitted htaken hless
    omega

/-- Every step keeps what holds at the gates, and the count. -/
theorem step_keeps (h : Kept g.config g.desk.registry g.inFlight errands last)
    (hreading : ∀ now, s.reading? = some now → last ≤ now) :
    Keeps g errands last s (g.step s) := by
  have hmove := g.step_move s
  generalize g.step s = out at hmove
  have hlater := kept_later (kept_entered h s) (last_le_reading hreading)
  have hpending : ∀ name seconds k,
      pending (Errand.isWithin name seconds k) g.inFlight (g.entered errands s) ≤
        pending (Errand.isWithin name seconds k) g.inFlight errands :=
    fun _ _ _ => Nat.le_of_eq (pending_entered _ s)
  cases hmove with
  | aside quiet plain =>
      have hnoted := noted_of_quiet quiet errands
      refine ⟨rfl, ?_, fun a ha hadmission => ?_, fun _ _ k => Nat.le_of_eq ?_⟩
      · rw [hnoted]
        exact hlater
      · exact absurd ((plain a ha).symm.trans hadmission) Bool.false_ne_true
      · rw [hnoted, pending_entered, countP_of_plain plain, Nat.zero_add]
  | @waved _ call _ _ name _ remedy response quiet asks new known free =>
      have hnoted := (noted_of_quiet quiet errands).trans (entered_of_new asks new)
      have hfind : (errands.insert call ⟨name, none⟩).find? call = some ⟨name, none⟩ := by
        rw [Table.find?_insert_of_eq, if_pos rfl]
      refine ⟨rfl, ?_, fun a ha hadmission => ?_, fun {other _ rule} _ _ k => Nat.le_of_eq ?_⟩
      · rw [noted_of_quiet quiet]
        exact hlater
      · rw [List.mem_singleton.mp ha, hnoted]
        exact ⟨_, hfind, Or.inr ⟨remedy, known, free⟩⟩
      · rw [List.countP_singleton, hnoted, Entry.isWithin, isWithin_of_new, Bool.and_false,
          if_neg Bool.false_ne_true, Nat.zero_add, pending_insert_of_none _ _ new]
  | @held _ call _ _ name _ request quiet asks new =>
      have hnoted := (noted_of_quiet quiet errands).trans (entered_of_new asks new)
      refine ⟨rfl, ?_, fun a ha => absurd ha List.not_mem_nil,
        fun {other _ rule} _ _ k => Nat.le_of_eq ?_⟩
      · rw [noted_of_quiet quiet]
        exact kept_inFlight hlater fun _ _ _ _ _ hin => Table.contains_insert hin _ _
      · rw [hnoted, pending_insert_inFlight new (isWithin_of_new ..),
          pending_insert_of_none _ _ new, List.countP_nil, Nat.zero_add]
  | @taken listener call message fresh name now remedy rule request _ asked asks new known ruled
      arrives =>
      have hname := Config.name_of_remedy? known
      have hentered : g.entered errands (.request listener call message fresh now) =
          errands.insert call ⟨name, none⟩ := entered_of_new asks new
      have hinserted := kept_inFlight (kept_entered h (.request listener call message fresh now))
        fun _ _ _ _ _ hin => Table.contains_insert hin call request
      have hrules : g.config.Rules ⟨remedy.name, rule.policy⟩ :=
        ⟨remedy, rule, hname.symm ▸ known, ruled, rfl⟩
      have hannounced : Announced (g.inFlight.insert call request)
          (g.entered errands (.request listener call message fresh now))
          ⟨remedy.name, rule.policy⟩ (.arrive call asked rule.ttl now) :=
        hentered.symm ▸ announced_of_new hname
      refine queue_keeps _ arrives (passes_arrive hinserted (hreading now rfl) hrules hannounced)
        (fun _ _ _ _ _ hin => hin) (fun _ _ => Nat.le_refl _) fun _ _ _ => Nat.le_of_eq ?_
      rw [hentered, pending_insert_inFlight new (isWithin_of_new ..),
        pending_insert_of_none _ _ new]
  | @dropped key call gate there waits leaves =>
      have hannounced : Announced g.inFlight (g.entered errands (.gate key (.drop call))) key
          (.drop call) := fun _ _ _ _ heq => nomatch heq
      have hlast : ∀ now, (Event.drop call).reading? = some now → last ≤ now := hreading
      have hpasses := passes_visit (kept_entered h (.gate key (.drop call))) hlast hannounced
      refine queue_keeps _ leaves hpasses (fun other gate' waiting hfind hthere hin => ?_)
        (fun p errands => pending_erase_le p _ _ _) hpending
      have hne := ne_of_dropped h there waits hfind hthere
      rw [Table.contains, Table.find?_erase_of_eq, if_neg hne]
      exact hin
  | @visited key event inside happens =>
      have hannounced : Announced g.inFlight (g.entered errands (.gate key event)) key event :=
        fun call request ttl now heq => absurd heq (inside call request ttl now)
      have hlast : ∀ now, event.reading? = some now → last ≤ now := hreading
      have hpasses := passes_visit (kept_entered h (.gate key event)) hlast hannounced
      exact queue_keeps _ happens hpasses (fun _ _ _ _ _ hin => hin) (fun _ _ => Nat.le_refl _)
        hpending
  | closed =>
      exact queue_keeps _ rfl (passes_closeAll (kept_entered h .closeAll))
        (fun _ _ _ _ _ hin => hin) (fun _ _ => Nat.le_refl _) hpending

/-- What the steps of a run keep from here on is what this one has left. -/
theorem kept_step (h : Kept g.config g.desk.registry g.inFlight errands last)
    (hreading : ∀ now, s.reading? = some now → last ≤ now) :
    Kept (g.step s).1.config (g.step s).1.desk.registry (g.step s).1.inFlight (g.noted errands s)
      (s.reading?.getD last) := by
  have hkeeps := step_keeps h hreading
  rw [hkeeps.config_eq]
  exact hkeeps.kept

/-- Who is admitted was given a slot, or has named a remedy without a rule. -/
theorem slot_of_book {ss : List Step} (h : Kept g.config g.desk.registry g.inFlight errands last)
    (htimely : Timely last ss) {entry : Entry} (hentry : entry ∈ g.bookOf errands ss)
    (hadmission : entry.response.isAdmission = true) :
    ∃ errand, entry.errand = some errand ∧
      (errand.slot.isSome = true ∨
        ∃ remedy, g.config.remedy? errand.remedy = some remedy ∧ remedy.rule = none) := by
  induction ss generalizing g errands last with
  | nil => exact absurd hentry List.not_mem_nil
  | cons s ss ih =>
      rcases timely_step htimely with ⟨hreading, hrest⟩
      rcases List.mem_append.mp hentry with hfirst | hlater
      · rcases List.mem_map.mp hfirst with ⟨a, ha, rfl⟩
        exact (step_keeps h hreading).slot a ha hadmission
      · rw [← (step_keeps h hreading).config_eq]
        exact ih (kept_step h hreading) hrest hlater

/-- The admissions that are still to be entered for a window go to requests that are pending,
    or have their slots from those of the window that are not used up yet. -/
theorem countP_book {ss : List Step} (h : Kept g.config g.desk.registry g.inFlight errands last)
    (htimely : Timely last ss) {name : String} {remedy : Remedy} {rule : QueueRule}
    (hknown : g.config.remedy? name = some remedy) (hrule : remedy.rule = some rule) (k : Int) :
    (g.bookOf errands ss).countP (Entry.isWithin name rule.windowSeconds k) +
        spentAt g.desk.registry ⟨name, rule.policy⟩ k ≤
      pending (Errand.isWithin name rule.windowSeconds k) g.inFlight errands +
        rule.quota.toNat := by
  induction ss generalizing g errands last with
  | nil =>
      have hspent : spentAt g.desk.registry ⟨name, rule.policy⟩ k ≤ rule.quota.toNat := by
        unfold spentAt
        split
        next gate hfind =>
          have hle := Gate.spent_le (h.sound hfind) k
          rw [h.policy_eq hfind] at hle
          exact hle
        next => exact Nat.zero_le _
      rw [bookOf, List.countP_nil]
      omega
  | cons s ss ih =>
      rcases timely_step htimely with ⟨hreading, hrest⟩
      have hkeeps := step_keeps h hreading
      have hlater := ih (kept_step h hreading) hrest (hkeeps.config_eq ▸ hknown)
      have hnow := hkeeps.spent hknown hrule k
      have hentries : (g.entries errands s).countP (Entry.isWithin name rule.windowSeconds k) =
          (g.step s).2.countP fun a => Entry.isWithin name rule.windowSeconds k
            ⟨a.1, (g.noted errands s).find? a.1, a.2⟩ := List.countP_map ..
      rw [bookOf, List.countP_append, hentries]
      omega

/-- **No window has more admissions than the rule allows.** A gateway with a faultless
    configuration answers requests of any kind, in any order, while its clock does not go
    back. Then for every enabled remedy with a queue rule, whoever is answered to be admitted
    to it was given a slot, and those whose slots were given in a window are no more than the
    quota, for each window of the length that the rule has in seconds. -/
theorem admissions_within_quota {config : Config} (hvalid : config.check = .ok config)
    {first : Instant} {ss : List Step} (htimely : Timely first ss) :
    let book := (start config).book ss
    book.map (fun entry => (entry.call, entry.response)) = ((start config).run ss).2 ∧
    ∀ remedy ∈ config.remedies, remedy.enabled = true →
      ∀ rule, remedy.rule = some rule →
      (∀ entry ∈ book, entry.response.isAdmission = true →
        ∃ errand, entry.errand = some errand ∧
          (errand.remedy = remedy.name → errand.slot.isSome = true)) ∧
      ∀ k : Int, book.countP (Entry.isWithin remedy.name rule.windowSeconds k) ≤
        rule.quota.toNat := by
  intro book
  have hkept : Kept (start config).config (start config).desk.registry (start config).inFlight
      Table.empty first := kept_empty config first
  refine ⟨answers_of_book _ _ ss, fun remedy hremedy henabled rule hrule => ?_⟩
  have hknown : config.remedy? remedy.name = some remedy :=
    Config.remedy?_of_mem ((Config.check_eq_ok_iff _ _).mp hvalid).1 hremedy henabled
  constructor
  · intro entry hentry hadmission
    rcases slot_of_book hkept htimely hentry hadmission with ⟨errand, herrand, hcase⟩
    refine ⟨errand, herrand, fun hname => hcase.resolve_right ?_⟩
    -- The remedy of this name is the one that has the rule.
    rintro ⟨other, hother, hnone⟩
    rw [hname] at hother
    cases hknown.symm.trans hother
    exact nomatch hrule.symm.trans hnone
  · intro k
    have hcount := countP_book hkept htimely hknown hrule k
    have hnobody : pending (Errand.isWithin remedy.name rule.windowSeconds k)
        (start config).inFlight Table.empty = 0 := rfl
    rw [hnobody, Nat.zero_add] at hcount
    exact Nat.le_trans (Nat.le_add_right _ _) hcount

namespace Kiosk

/-- One slot a second, and five seconds to wait for it. -/
def rule : QueueRule where
  quota := 1
  windowSeconds := 1
  ttlSeconds := 5

def remedy : Remedy where
  name := "kiosk"
  rule := some rule

def config : Config where
  remedies := [remedy]

def message : Message := ⟨"GET", "/admit/kiosk", []⟩

/-- Two requests come at once, and the second one waits for the next window. -/
def steps : List Step :=
  [.request .gateway 0 message "first" Instant.epoch,
    .request .gateway 1 message "second" Instant.epoch,
    .gate ⟨"kiosk", rule.policy⟩ (.wardenLook 0),
    .gate ⟨"kiosk", rule.policy⟩ (.wardenWake 0 Rush.second),
    .gate ⟨"kiosk", rule.policy⟩ (.collect 1)]

end Kiosk

/-- At the kiosk the next window has one admission, of the request that has waited. -/
theorem admissions_within_quota_at_kiosk :
    Kiosk.config.check = .ok Kiosk.config ∧ Timely Instant.epoch Kiosk.steps ∧
    ((start Kiosk.config).book Kiosk.steps).countP (Entry.isWithin "kiosk" 1 1) = 1 ∧
    ((start Kiosk.config).book Kiosk.steps).countP (Entry.isWithin "kiosk" 1 1) ≤ 1 := by
  have hvalid : Kiosk.config.check = .ok Kiosk.config :=
    (Config.check_eq_ok_iff _ _).mpr ⟨by decide +kernel, rfl⟩
  have htimely : Timely Instant.epoch Kiosk.steps := by decide
  have hquota := (admissions_within_quota hvalid htimely).2 Kiosk.remedy List.mem_cons_self rfl
    Kiosk.rule rfl
  exact ⟨hvalid, htimely, by decide +kernel, hquota.2 1⟩

end Gateway

end Turnstile
