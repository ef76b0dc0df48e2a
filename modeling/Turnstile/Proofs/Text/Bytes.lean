import Turnstile.Text.Fingerprint

/-!
# Bytes That Stand for Texts

What is sent is bytes, and they need not be the bytes of any text. Where they are, they
stand for that text; where they are not, each of them stands for the character of its
number. Other bytes may stand for the same text, but none do if the text is plain.

Which text that is does not matter to a reader who asks only after plain characters. If a
class of characters has all or none of those beyond ASCII, then a text is in the class
exactly if its bytes are, whether a character has one byte or four: `all_ofBytes`.

## Main definitions

* `Text.ofBytes`: The text that bytes stand for.

## Theorems

* `ofBytes_bytes`: The bytes of a text stand for it.
* `bytes_ofBytes`: Plain bytes are the bytes of what they stand for.
* `all_ofBytes`: A class that does not tell characters beyond ASCII apart is told by the bytes.
-/

namespace Turnstile

namespace Text

/-- The text that bytes stand for: the one whose bytes they are, or if there is none, a
    character for each. -/
def ofBytes (bs : List UInt8) : String :=
  (String.fromUTF8? bs.toByteArray).getD (String.ofList (bs.map Char.ofUInt8))

variable {s : String} {bs : List UInt8} {c : Char}

theorem toNat_ofUInt8 (b : UInt8) : (Char.ofUInt8 b).toNat = b.toNat := UInt8.toNat_toUInt32 b

theorem utf8EncodeChar_of_lt (h : c.toNat < 0x80) :
    String.utf8EncodeChar c = [UInt8.ofNat c.toNat] :=
  if_pos (Nat.le_of_lt_succ h)

theorem ofUInt8_ofNat (h : c.toNat < 0x80) : Char.ofUInt8 (UInt8.ofNat c.toNat) = c := by
  rw [← Char.toNat_inj, toNat_ofUInt8, UInt8.toNat_ofNat', Nat.mod_eq_of_lt]
  exact Nat.lt_trans h (by decide)

/-- A character beyond ASCII has bytes beyond ASCII only, and at least one. -/
theorem utf8EncodeChar_of_le (h : 0x80 ≤ c.toNat) :
    String.utf8EncodeChar c ≠ [] ∧ ∀ b ∈ String.utf8EncodeChar c, 0x80 ≤ b.toNat := by
  have hval : ¬c.val.toNat ≤ 127 := Nat.not_le_of_lt h
  unfold String.utf8EncodeChar
  simp only [if_neg hval]
  split
  · exact ⟨List.cons_ne_nil _ _, by simp; omega⟩
  · split
    · exact ⟨List.cons_ne_nil _ _, by simp; omega⟩
    · exact ⟨List.cons_ne_nil _ _, by simp; omega⟩

theorem toByteArray_bytes (s : String) : (bytes s).toByteArray = s.toByteArray := by
  conv => rhs; rw [← String.ofList_toList (s := s)]
  rw [String.toByteArray_ofList]
  rfl

theorem fromUTF8?_toByteArray (s : String) : String.fromUTF8? s.toByteArray = some s :=
  dif_pos s.isValidUTF8

theorem bytes_of_fromUTF8? (h : String.fromUTF8? bs.toByteArray = some s) : bytes s = bs := by
  unfold String.fromUTF8? at h
  split at h
  · cases h
    exact List.toByteArray_inj.mp (toByteArray_bytes _)
  · cases h

theorem ofBytes_bytes (s : String) : ofBytes (bytes s) = s := by
  rw [ofBytes, toByteArray_bytes, fromUTF8?_toByteArray, Option.getD_some]

theorem bytes_ofBytes (h : ∀ b ∈ bs, b.toNat < 0x80) : bytes (ofBytes bs) = bs := by
  unfold ofBytes
  cases htext : String.fromUTF8? bs.toByteArray with
  | some s => exact bytes_of_fromUTF8? htext
  | none =>
      rw [Option.getD_none, bytes, String.toList_ofList, List.flatMap_map]
      have hplain : ∀ b ∈ bs, String.utf8EncodeChar (Char.ofUInt8 b) = [b] := fun b hb => by
        rw [utf8EncodeChar_of_lt (by rw [toNat_ofUInt8]; exact h b hb), toNat_ofUInt8,
          UInt8.ofNat_toNat]
      rw [List.flatMap_def, List.map_congr_left hplain, ← List.flatMap_def,
        List.flatMap_singleton']

section Class

variable {p : Char → Bool} {beyond : Bool} (hp : ∀ c : Char, 0x80 ≤ c.toNat → p c = beyond)

include hp

theorem all_utf8EncodeChar (c : Char) :
    ((String.utf8EncodeChar c).all fun b => p (Char.ofUInt8 b)) = p c := by
  rcases Nat.lt_or_ge c.toNat 0x80 with h | h
  · rw [utf8EncodeChar_of_lt h, List.all_cons, ofUInt8_ofNat h, List.all_nil, Bool.and_true]
  · rcases utf8EncodeChar_of_le h with ⟨hne, hbeyond⟩
    have hbyte : ∀ b ∈ String.utf8EncodeChar c, p (Char.ofUInt8 b) = beyond := fun b hb =>
      hp _ (by rw [toNat_ofUInt8]; exact hbeyond b hb)
    rw [hp c h]
    cases beyond with
    | true => exact List.all_eq_true.mpr hbyte
    | false =>
        rcases List.exists_mem_of_ne_nil _ hne with ⟨b, hb⟩
        exact List.all_eq_false.mpr ⟨b, hb, by rw [hbyte b hb]; exact Bool.false_ne_true⟩

/-- A class that has all characters beyond ASCII or none has a text if it has its bytes. -/
theorem all_bytes (s : String) : ((bytes s).all fun b => p (Char.ofUInt8 b)) = s.toList.all p := by
  rw [bytes, List.all_flatMap]
  exact congrArg s.toList.all (funext (all_utf8EncodeChar hp))

/-- Such a class has what bytes stand for if it has the bytes. -/
theorem all_ofBytes (bs : List UInt8) :
    (ofBytes bs).toList.all p = bs.all fun b => p (Char.ofUInt8 b) := by
  unfold ofBytes
  cases htext : String.fromUTF8? bs.toByteArray with
  | some s => rw [Option.getD_some, ← all_bytes hp, bytes_of_fromUTF8? htext]
  | none => rw [Option.getD_none, String.toList_ofList, List.all_map]; rfl

end Class

end Text

end Turnstile
