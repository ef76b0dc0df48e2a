import Turnstile.Proofs.Text.Digits
import Turnstile.Proofs.Time.Calendar
import Turnstile.Time.Stamp

/-!
# Written Instants Are Read Back

Writing an instant has one form and reading accepts many, so reading is followed along the one
form only. Each field is taken by a lemma that says what is left of the text, and what is left
begins the next lemma; the year is the only field whose length is not fixed, and it ends where
the dash begins.

What is read is then put together from a date and a time of day, both of which came from one
count of seconds. A leap second is written as the second after the one it lies in. Only after
second 59 can that be told from an ordinary second, which is what `Proper` asks for; an instant
outside a leap second is always proper.

## Main definitions

* `Stamp.Proper`: A leap second comes after the last second of a minute.

## Theorems

* `takeNumber_pad`, `takeYear_yearText`, `takeFraction_fractionText`: Each field is read as it is
  written.
* `parse?_fields`: Fields are read one after the other.
* `assemble?_of_sum`: A date and a time of day make the instant that they add up to.
* `parse?_text`: An instant is read back from its written form.
-/

namespace Turnstile

namespace Stamp

open Text

/-- A number of the width is read, whatever follows. -/
theorem takeNumber_pad {width n : Nat} (hwidth : 0 < width) (h : n < Nat.pow 10 width)
    (rest : List Char) : takeNumber width (pad width n ++ rest) = some (n, rest) := by
  rcases pad_eq_cons width n with ⟨c, digits, hpad, -, hnumber⟩
  rw [takeNumber, skipBlank_pad, takeDigits_pad hwidth h, hpad]
  exact congrArg (fun n => some (n, rest)) hnumber

theorem takeMark_cons {mark : Char} (h : isBlank mark = false) (rest : List Char) :
    takeMark mark (mark :: rest) = some rest := by
  rw [takeMark, skipBlank, List.dropWhile_cons_of_neg (by rw [h]; exact Bool.false_ne_true)]
  exact if_pos rfl

theorem digitsOf_pad (width n : Nat) {rest : List Char}
    (hend : ∀ c ∈ rest.head?, isDigit c = false) :
    takeYear.digitsOf (pad width n ++ rest) = some (n, rest) := by
  -- Behind a sign the only bound on the digits is the length of what is left.
  have hlength : (pad width n).length ≤ (pad width n ++ rest).length := by
    rw [List.length_append]
    exact Nat.le_add_right _ _
  rcases pad_eq_cons width n with ⟨c, digits, hpad, -, hnumber⟩
  rw [takeYear.digitsOf, takeDigits_append (fun _ => isDigit_of_mem_pad) hlength (Or.inr hend),
    hpad]
  exact congrArg (fun n => some (n, rest)) hnumber

theorem takeYear_yearText (year : Int) {rest : List Char}
    (hend : ∀ c ∈ rest.head?, isDigit c = false) :
    takeYear (yearText year ++ rest) = some (year, rest) := by
  unfold yearText
  by_cases hplain : 0 ≤ year ∧ year ≤ 9999
  · have hnumber : takeNumber 4 (pad 4 year.toNat ++ rest) = some (year.toNat, rest) :=
      takeNumber_pad (by decide) (show year.toNat < 10000 by omega) rest
    rcases pad_eq_cons 4 year.toNat with ⟨c, digits, hpad, hdigit, -⟩
    rw [if_pos hplain, takeYear, skipBlank_pad]
    rw [hpad, List.cons_append] at hnumber ⊢
    split
    -- The year begins with a digit and not with a sign.
    next heq =>
      cases heq
      exact absurd hdigit (by decide)
    next heq =>
      cases heq
      exact absurd hdigit (by decide)
    next =>
      rw [hnumber]
      exact congrArg (fun n => some (n, rest)) (Int.toNat_of_nonneg hplain.1)
  -- Other years have a sign, and as many digits as they need.
  · rw [if_neg hplain]
    have hdigits := digitsOf_pad 4 year.natAbs hend
    by_cases hneg : year < 0
    · rw [if_pos hneg]
      show (takeYear.digitsOf (pad 4 year.natAbs ++ rest)).map _ = _
      rw [hdigits]
      exact congrArg (fun n => some (n, rest)) (by omega)
    · rw [if_neg hneg]
      show (takeYear.digitsOf (pad 4 year.natAbs ++ rest)).map _ = _
      rw [hdigits]
      exact congrArg (fun n => some (n, rest)) (by omega)

theorem takeFraction_pad {width n : Nat} (hwidth : 0 < width) (hle : width ≤ 9)
    (h : n < Nat.pow 10 width) {rest : List Char} (hend : ∀ c ∈ rest.head?, isDigit c = false) :
    takeFraction ('.' :: pad width n ++ rest) = some (n * Nat.pow 10 (9 - width), rest) := by
  have hlength := pad_length hwidth h
  have htake : takeDigits 9 (pad width n ++ rest) = (pad width n, rest) :=
    takeDigits_append (fun _ => isDigit_of_mem_pad) (by omega) (Or.inr hend)
  have hdrop : rest.dropWhile isDigit = rest := by
    cases rest with
    | nil => rfl
    | cons c rest =>
        have hstop : isDigit c = false := hend c rfl
        exact List.dropWhile_cons_of_neg (by rw [hstop]; exact Bool.false_ne_true)
  rcases pad_eq_cons width n with ⟨c, digits, hpad, -, hnumber⟩
  rw [hpad] at hlength
  rw [List.cons_append, takeFraction, htake, hpad]
  show some (number (c :: digits) * Nat.pow 10 (9 - (c :: digits).length),
    rest.dropWhile isDigit) = _
  rw [hnumber, hlength, hdrop]

/-- The fraction of a second is read, in whatever width it is written. -/
theorem takeFraction_fractionText {nanos : Nat} (h : nanos < 1000000000) {rest : List Char}
    (hdigit : ∀ c ∈ rest.head?, isDigit c = false) (hpoint : ∀ c ∈ rest.head?, c ≠ '.') :
    takeFraction (fractionText nanos ++ rest) = some (nanos, rest) := by
  -- No digits, or three, six or nine: the first width that loses nothing.
  unfold fractionText
  split
  next hzero =>
    subst hzero
    cases rest with
    | nil => rfl
    | cons c rest =>
        rw [List.nil_append, takeFraction]
        intro tail heq
        exact hpoint c rfl (List.cons.inj heq).1
  next =>
    split
    next hmillis =>
      have hbound : nanos / 1000000 < 1000 := by omega
      have hwhole : nanos / 1000000 * 1000000 = nanos := by omega
      rw [takeFraction_pad (by decide) (by decide) hbound hdigit]
      exact congrArg (fun n => some (n, rest)) hwhole
    next =>
      split
      next hmicros =>
        have hbound : nanos / 1000 < 1000000 := by omega
        have hwhole : nanos / 1000 * 1000 = nanos := by omega
        rw [takeFraction_pad (by decide) (by decide) hbound hdigit]
        exact congrArg (fun n => some (n, rest)) hwhole
      next =>
        rw [takeFraction_pad (by decide) (by decide) h hdigit]
        exact congrArg (fun n => some (n, rest)) (Nat.mul_one nanos)

/-- Fields that have their width are read one after the other. -/
theorem parse?_fields {date : Date} {hour minute second nanos : Nat} (hmonth : date.month < 100)
    (hday : date.day < 100) (hhour : hour < 100) (hminute : minute < 100) (hsecond : second < 100)
    (hnanos : nanos < 1000000000) :
    parse? (String.ofList <|
      yearText date.year ++ '-' :: pad 2 date.month ++ '-' :: pad 2 date.day ++
        'T' :: pad 2 hour ++ ':' :: pad 2 minute ++ ':' :: pad 2 second ++
        fractionText nanos ++ ['Z']) = assemble? date hour minute second nanos 0 := by
  have hyear : ∀ rest, takeYear (yearText date.year ++ '-' :: rest) =
      some (date.year, '-' :: rest) := fun rest =>
    takeYear_yearText _ fun c hc => Option.some.inj hc ▸ rfl
  have hnumber : ∀ n, n < 100 → ∀ rest, takeNumber 2 (pad 2 n ++ rest) = some (n, rest) :=
    fun n hn => takeNumber_pad (by decide) hn
  have hdash : ∀ rest, takeMark '-' ('-' :: rest) = some rest := takeMark_cons rfl
  have hcolon : ∀ rest, takeMark ':' (':' :: rest) = some rest := takeMark_cons rfl
  have hfraction : takeFraction (fractionText nanos ++ ['Z']) = some (nanos, ['Z']) :=
    takeFraction_fractionText hnanos (fun c hc => Option.some.inj hc ▸ rfl)
      fun c hc => Option.some.inj hc ▸ by decide
  have hoffset : takeOffset (skipBlank ['Z']) = some (0, []) := rfl
  have hend : skipBlank [] = [] := rfl
  -- Each field leaves the text that the next one begins with.
  have hbind : ∀ {α β : Type} (x : α) (f : α → Option β), (some x >>= f) = f x := fun _ _ => rfl
  rw [parse?, String.toList_ofList]
  simp only [List.append_assoc, List.cons_append, hyear, hnumber _ hmonth, hnumber _ hday,
    hnumber _ hhour, hnumber _ hminute, hnumber _ hsecond, hdash, hcolon, hfraction, hoffset,
    hend, hbind, true_or, if_true]

/-- An instant is put together from its seconds and nanoseconds. -/
theorem ofParts?_split (t : Instant) :
    Instant.ofParts? (t.nanos / 1000000000) (t.nanos % 1000000000).toNat = some t := by
  have hfirst := t.first_le
  have hlast := t.le_last
  have hnanos : t.nanos / 1000000000 * 1000000000 + ((t.nanos % 1000000000).toNat : Int) =
      t.nanos := by omega
  rw [Instant.ofParts?, hnanos, Instant.ofNanos?, dif_pos ⟨hfirst, hlast⟩]

/-- A leap second comes after the last second of a minute. -/
def Proper (s : Stamp) : Prop := s.leap = true → s.instant.nanos / 1000000000 % 60 = 59

theorem proper_of_not_leap {s : Stamp} (h : s.leap = false) : s.Proper := fun hleap =>
  absurd (h.symm.trans hleap) Bool.false_ne_true

/-- A date that exists and a time of day make the instant that they add up to, in a leap second
    if the seconds are one too many. -/
theorem assemble?_of_sum {date : Date} {time second nanos : Nat} {t : Instant} {leap : Bool}
    (hdate : date.exists? = true) (htime : time < 86400)
    (hsum : date.toDay * secondsPerDay + time = t.nanos / 1000000000)
    (hnanos : nanos = (t.nanos % 1000000000).toNat)
    (hsecond : second = time % 60 + if leap then 1 else 0) (hleap : leap → time % 60 = 59) :
    assemble? date (time / 3600) (time / 60 % 60) second nanos 0 =
      some { instant := t, leap := leap } := by
  -- The seconds are taken apart again as they were put together.
  have hbounds : second ≤ 60 := by
    cases leap
    · simp only [hsecond, Bool.false_eq_true, if_false]
      omega
    · simp only [hsecond, if_true, hleap rfl]
      decide
  have hone : (second == 60) = leap := by
    cases leap
    · simp only [hsecond, Bool.false_eq_true, if_false, beq_eq_false_iff_ne]
      omega
    · simp only [hsecond, if_true, hleap rfl, beq_self_eq_true]
  have hlast : (if leap = true then 59 else second) = time % 60 := by
    cases leap
    · simp only [hsecond, Bool.false_eq_true, if_false, Nat.add_zero]
    · simp only [if_true, hleap rfl]
  have hshown : date.toDay * secondsPerDay +
      ((time / 3600 * 3600 + time / 60 % 60 * 60 + time % 60 : Nat) : Int) =
        t.nanos / 1000000000 := by
    have htotal : time / 3600 * 3600 + time / 60 % 60 * 60 + time % 60 = time := by omega
    rw [htotal, hsum]
  have hparts := ofParts?_split t
  rw [assemble?, if_pos ⟨hdate, by omega, by omega, hbounds⟩]
  simp only [hone, hlast, hshown, Int.zero_mul, Int.sub_zero, hnanos, hparts]

/-- An instant is read back from its written form. -/
theorem parse?_text {s : Stamp} (h : s.Proper) : parse? s.text = some s := by
  have hmonth := Date.ofDay_month (s.instant.nanos / 1000000000 / secondsPerDay)
  have hdate := Date.ofDay_day (s.instant.nanos / 1000000000 / secondsPerDay)
  have htime : (s.instant.nanos / 1000000000 % secondsPerDay).toNat < 86400 := by
    simp only [secondsPerDay]
    omega
  have hsecond : (if s.leap = true then 1 else 0) ≤ 1 := by split <;> omega
  rw [text, parse?_fields (by omega) (by omega) (by omega) (by omega) (by omega) (by omega)]
  refine assemble?_of_sum (Date.exists?_ofDay _) htime ?_ rfl rfl fun hleap => ?_
  · rw [Date.toDay_ofDay]
    simp only [secondsPerDay]
    omega
  · have hlast := h hleap
    simp only [secondsPerDay]
    omega

end Stamp

end Turnstile
