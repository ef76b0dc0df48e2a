import Turnstile.Text.Blank
import Turnstile.Text.Digits

/-!
# Numbers in Decimal Are Read Back

A number with leading zeros is a run of digits, of the width that was asked for if it is wide
enough. Reading takes a run of digits up to a length, and so the width decides where one
number ends when another follows at once; where something else follows, that does.

Conversely every run of digits is a number with leading zeros. From the first digit on that is not
a zero nothing is lost, since each further digit is put behind those that the number has by then.

## Theorems

* `pad_length`: A number below a power of ten has exactly as many digits.
* `number_pad`, `pad_eq_cons`: Leading zeros do not change a number, and it has a first digit.
* `takeDigits_append`: A run of digits is taken up to its end.
* `skipBlank_pad`: No blank is skipped in front of a number.
* `natural?_eq_some_iff`, `signedNatural?_eq_some_iff`: What is read as a number is the number with
  leading zeros, behind a plus sign if one is allowed.
-/

namespace Turnstile

namespace Text

theorem isBlank_of_isDigit {c : Char} (h : isDigit c = true) : isBlank c = false := by
  simp only [isDigit, Bool.and_eq_true, decide_eq_true_eq] at h
  have hleast : 48 ≤ c.toNat := h.1
  have hmost : c.toNat ≤ 57 := h.2
  simp only [isBlank, Bool.or_eq_false_iff, Bool.and_eq_false_iff, decide_eq_false_iff_not,
    beq_eq_false_iff_ne]
  omega

theorem isDigit_of_mem_pad {width n : Nat} {c : Char} (h : c ∈ pad width n) :
    isDigit c = true := by
  rcases List.mem_append.mp h with hzero | hdigit
  · rw [List.eq_of_mem_replicate hzero]
    rfl
  · exact Nat.isDigit_of_mem_toDigits (by decide) (by decide) hdigit

theorem pad_length {width n : Nat} (hwidth : 0 < width) (h : n < Nat.pow 10 width) :
    (pad width n).length = width := by
  have hle := (Nat.length_toDigits_le_iff (b := 10) (by decide) hwidth).mpr h
  simp only [pad, List.length_append, List.length_replicate]
  omega

theorem number_pad (width n : Nat) : number (pad width n) = n := by
  rw [number, pad, Nat.ofDigitChars_append, Nat.ofDigitChars_replicate_zero, Nat.mul_zero,
    Nat.ofDigitChars_ten_toDigits]

theorem pad_eq_cons (width n : Nat) :
    ∃ c digits, pad width n = c :: digits ∧ isDigit c = true ∧ number (c :: digits) = n := by
  have hne : pad width n ≠ [] := List.append_ne_nil_of_right_ne_nil _ Nat.toDigits_ne_nil
  rcases List.exists_cons_of_ne_nil hne with ⟨c, digits, hpad⟩
  exact ⟨c, digits, hpad, isDigit_of_mem_pad (hpad ▸ List.mem_cons_self),
    hpad ▸ number_pad width n⟩

/-- A run of digits is taken up to its end, which is where the length is reached or where
    something else begins. -/
theorem takeDigits_append {most : Nat} {digits rest : List Char}
    (hdigits : ∀ c ∈ digits, isDigit c = true) (hlength : digits.length ≤ most)
    (hend : digits.length = most ∨ ∀ c ∈ rest.head?, isDigit c = false) :
    takeDigits most (digits ++ rest) = (digits, rest) := by
  -- One more digit is taken and one fewer may be, so the length has to be general.
  induction digits generalizing most with
  | nil =>
      cases most with
      | zero => rfl
      | succ most =>
          cases rest with
          | nil => rfl
          | cons c rest =>
              have hstop := hend.resolve_left (Nat.succ_ne_zero most).symm c rfl
              simp only [List.nil_append, takeDigits, hstop, Bool.false_eq_true, if_false]
  | cons c digits ih =>
      cases most with
      | zero => exact absurd hlength (Nat.not_succ_le_zero _)
      | succ most =>
          have hlater := ih (fun d hd => hdigits d (List.mem_cons_of_mem _ hd))
            (Nat.le_of_succ_le_succ hlength) (hend.imp_left Nat.succ.inj)
          simp only [List.cons_append, takeDigits, hdigits c List.mem_cons_self, if_true, hlater]

/-- A number of the width is taken whole, whatever follows. -/
theorem takeDigits_pad {width n : Nat} (hwidth : 0 < width) (h : n < Nat.pow 10 width)
    (rest : List Char) : takeDigits width (pad width n ++ rest) = (pad width n, rest) :=
  takeDigits_append (fun _ => isDigit_of_mem_pad) (Nat.le_of_eq (pad_length hwidth h))
    (Or.inl (pad_length hwidth h))

theorem skipBlank_pad (width n : Nat) (rest : List Char) :
    skipBlank (pad width n ++ rest) = pad width n ++ rest := by
  rcases pad_eq_cons width n with ⟨c, digits, hpad, hdigit, -⟩
  rw [hpad, skipBlank, List.cons_append, List.dropWhile_cons_of_neg]
  rw [isBlank_of_isDigit hdigit]
  exact Bool.false_ne_true

theorem digitChar_of_isDigit {c : Char} (h : isDigit c = true) :
    c.toNat - '0'.toNat < 10 ∧ Nat.digitChar (c.toNat - '0'.toNat) = c := by
  simp only [isDigit, Bool.and_eq_true, decide_eq_true_eq] at h
  have hleast : 48 ≤ c.toNat := h.1
  have hmost : c.toNat ≤ 57 := h.2
  have hzero : '0'.toNat = 48 := rfl
  have hlt : c.toNat - '0'.toNat < 10 := by omega
  refine ⟨hlt, Char.toNat_inj.mp ?_⟩
  rw [Nat.toNat_digitChar_of_lt_ten hlt]
  omega

/-- Digits behind a number that is not zero are put behind its own digits. -/
theorem toDigits_append {n : Nat} (hn : 0 < n) {cs : List Char}
    (h : ∀ c ∈ cs, isDigit c = true) :
    Nat.toDigits 10 n ++ cs = Nat.toDigits 10 (Nat.ofDigitChars 10 cs n) := by
  induction cs generalizing n with
  | nil => rw [List.append_nil, Nat.ofDigitChars_nil]
  | cons c cs ih =>
      rcases digitChar_of_isDigit (h c List.mem_cons_self) with ⟨hlt, hchar⟩
      have hone := Nat.toDigits_append_toDigits (b := 10) (by decide) hn hlt
      rw [Nat.toDigits_of_lt_base hlt, hchar] at hone
      have hmore := ih (n := 10 * n + (c.toNat - '0'.toNat)) (by omega)
        fun d hd => h d (List.mem_cons_of_mem _ hd)
      rw [Nat.ofDigitChars_cons, ← hmore, ← hone, List.append_assoc, List.singleton_append]

/-- A run of digits is its number with leading zeros. -/
theorem eq_zeros_append {cs : List Char} (hne : cs ≠ []) (h : ∀ c ∈ cs, isDigit c = true) :
    ∃ zeros, cs = List.replicate zeros '0' ++ Nat.toDigits 10 (number cs) := by
  induction cs with
  | nil => exact absurd rfl hne
  | cons c cs ih =>
      have hrest : ∀ d ∈ cs, isDigit d = true := fun d hd => h d (List.mem_cons_of_mem _ hd)
      rcases digitChar_of_isDigit (h c List.mem_cons_self) with ⟨hlt, hchar⟩
      have hnumber : number (c :: cs) = Nat.ofDigitChars 10 cs (c.toNat - '0'.toNat) := by
        rw [number, Nat.ofDigitChars_cons, Nat.mul_zero, Nat.zero_add]
      rcases Nat.eq_zero_or_pos (c.toNat - '0'.toNat) with hzero | hpos
      · -- A zero in front of further digits is one that leads, and one alone is the number.
        rw [hzero] at hchar hnumber
        by_cases hcs : cs = []
        · refine ⟨0, ?_⟩
          rw [hnumber, hcs, Nat.ofDigitChars_nil, Nat.toDigits_zero, ← hchar]
          rfl
        · rcases ih hcs hrest with ⟨zeros, hzeros⟩
          refine ⟨zeros + 1, ?_⟩
          rw [hnumber, ← number, List.replicate_succ, List.cons_append, ← hzeros, ← hchar]
          rfl
      · refine ⟨0, ?_⟩
        rw [hnumber, ← toDigits_append hpos hrest, Nat.toDigits_of_lt_base hlt, hchar]
        rfl

/-- What is read as a number is the number with leading zeros. -/
theorem natural?_eq_some_iff (cs : List Char) (n : Nat) :
    natural? cs = some n ↔ ∃ width, cs = pad width n := by
  have hread : natural? cs = some n ↔ cs ≠ [] ∧ (∀ c ∈ cs, isDigit c = true) ∧ number cs = n := by
    simp only [natural?, Option.ite_none_right_eq_some, Bool.and_eq_true, Bool.not_eq_true',
      List.isEmpty_eq_false_iff, List.all_eq_true, Option.some.injEq, and_assoc]
  rw [hread]
  constructor
  · rintro ⟨hne, hdigits, rfl⟩
    rcases eq_zeros_append hne hdigits with ⟨zeros, hzeros⟩
    refine ⟨zeros + (Nat.toDigits 10 (number cs)).length, ?_⟩
    rw [pad, Nat.add_sub_cancel]
    exact hzeros
  · rintro ⟨width, rfl⟩
    rcases pad_eq_cons width n with ⟨c, digits, hpad, -⟩
    exact ⟨hpad ▸ List.cons_ne_nil c digits, fun _ => isDigit_of_mem_pad, number_pad width n⟩

/-- What is read as a number with or without a sign is the number with leading zeros, alone or
    behind a plus sign. -/
theorem signedNatural?_eq_some_iff (cs : List Char) (n : Nat) :
    signedNatural? cs = some n ↔ ∃ width, cs = pad width n ∨ cs = '+' :: pad width n := by
  have hnosign : ∀ width rest, pad width n ≠ '+' :: rest := by
    intro width rest heq
    have hplus : isDigit '+' = true := isDigit_of_mem_pad (heq ▸ List.mem_cons_self)
    exact Bool.false_ne_true hplus
  unfold signedNatural?
  split
  next rest =>
    simp only [natural?_eq_some_iff, List.cons.injEq, true_and, (hnosign _ _).symm, false_or]
  next hsign =>
    have hplus : ∀ width, cs ≠ '+' :: pad width n := fun _ heq => hsign _ heq
    simp only [natural?_eq_some_iff, hplus, or_false]

end Text

end Turnstile
