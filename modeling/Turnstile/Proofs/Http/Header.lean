import Turnstile.Http.Header
import Turnstile.Proofs.Text.Bytes

/-!
# Header Fields as They Are Sent

A header field is sent as a name in any mixture of capitals and as a row of bytes, which need
not be the bytes of a text. What is well formed in this sense is always read as headers,
and `first?_map_header` tells the lookup of a name from what was sent: the first field whose
name is the same up to capitals counts, and no other is looked at.

A name that is asked for need not be one that a field can have. Then there is nothing to
find among the headers, and nothing among the fields either, since to be a name does not
depend on capitals.

## Main definitions

* `isCleanByte`, `isPlainByte`: The bytes of values, and those of values that are text.
* `HeaderField`: A well-formed header field.
* `HeaderField.isNamed`: Its name is the one asked for, up to capitals.
* `HeaderField.isPlain`: Its value is plain text.
* `HeaderField.written`, `HeaderField.header`: The field as it is given to be read, and as read.

## Theorems

* `parse?_map_written`: Well-formed fields are read.
* `first?_map_header`: The header of a name is read from the first field of that name.
* `text?_ofBytes_eq_some_iff`: Bytes are the text that has them, if they are plain.
-/

namespace Turnstile

/-- Whether a byte may stand in a value: any but controls, and the tab. -/
def isCleanByte (b : UInt8) : Bool :=
  b.toNat == 0x09 || (0x20 ≤ b.toNat && b.toNat != 0x7f)

/-- Whether a byte may stand in a text: the tab, and what is printable in ASCII. -/
def isPlainByte (b : UInt8) : Bool :=
  b.toNat == 0x09 || (0x20 ≤ b.toNat && b.toNat ≤ 0x7e)

/-- A header field as it is sent. -/
structure HeaderField where
  /-- The name, in any mixture of capitals. -/
  name : String
  /-- The bytes of the value. -/
  value : List UInt8
  /-- There is a name. -/
  nonempty : name ≠ ""
  /-- The name is not too long. -/
  short : name.length ≤ HeaderName.longest
  /-- The name is a token. -/
  token : name.toList.all isTokenChar = true
  /-- The value has no control but the tab. -/
  clean : value.all isCleanByte = true

namespace HeaderField

/-- The name of the field is the one asked for, up to the capitals of ASCII. -/
def isNamed (f : HeaderField) (name : String) : Bool := f.name.toLower == name.toLower

/-- The value is text. -/
def isPlain (f : HeaderField) : Bool := f.value.all isPlainByte

/-- The field as it is given to be read. -/
def written (f : HeaderField) : String × String := (f.name, Text.ofBytes f.value)

/-- The field as it is read. -/
def header (f : HeaderField) : HeaderName × HeaderValue :=
  (⟨f.name.toLower⟩, ⟨Text.ofBytes f.value⟩)

end HeaderField

variable {s t group : String} {bs : List UInt8}

theorem isTokenChar_toLower (c : Char) : isTokenChar c.toLower = isTokenChar c := by
  rcases Nat.lt_or_ge c.toNat 0x80 with h | h
  · have hplain : ∀ n < 0x80, isTokenChar (Char.ofNat n).toLower = isTokenChar (Char.ofNat n) := by
      decide +kernel
    rw [← Char.ofNat_toNat c]
    exact hplain c.toNat h
  · -- Only letters of ASCII have another case.
    have hlower : c.toLower = c := dif_neg fun hc =>
      absurd (UInt32.le_iff_toNat_le.mp hc.2) (Nat.not_le_of_lt (Nat.lt_of_lt_of_le (by decide) h))
    rw [hlower]

theorem all_isTokenChar_toLower (s : String) :
    s.toLower.toList.all isTokenChar = s.toList.all isTokenChar := by
  change (String.map Char.toLower s).toList.all isTokenChar = _
  rw [String.toList_map, List.all_map]
  exact congrArg s.toList.all (funext isTokenChar_toLower)

/-- Whether a text is a name does not depend on its capitals. -/
theorem HeaderName.parse?_eq_of_toLower_eq (h : s.toLower = t.toLower) :
    HeaderName.parse? s = HeaderName.parse? t := by
  have hempty : s = "" ↔ t = "" := by
    rw [← String.map_eq_empty (f := Char.toLower), ← String.map_eq_empty (s := t)]
    exact iff_of_eq (congrArg (· = "") h)
  have hlength : s.length = t.length := by
    rw [← String.length_map (f := Char.toLower), ← String.length_map (s := t)]
    exact congrArg String.length h
  have htoken : s.toList.all isTokenChar = t.toList.all isTokenChar := by
    rw [← all_isTokenChar_toLower, h, all_isTokenChar_toLower]
  simp only [HeaderName.parse?, ne_eq, hempty, hlength, htoken, h]

theorem HeaderName.eq_of_parse? {name : HeaderName} (h : HeaderName.parse? s = some name) :
    name = ⟨s.toLower⟩ := by
  unfold HeaderName.parse? at h
  split at h
  · exact (Option.some.inj h).symm
  · cases h

theorem isCleanChar_beyond (c : Char) (h : 0x80 ≤ c.toNat) :
    (c == '\t' || (0x20 ≤ c.toNat && c.toNat != 0x7f)) = true := by
  rw [Bool.or_eq_true, Bool.and_eq_true, decide_eq_true_eq, bne_iff_ne]
  exact Or.inr (by omega)

theorem isPlainChar_beyond (c : Char) (h : 0x80 ≤ c.toNat) :
    (c == '\t' || (0x20 ≤ c.toNat && c.toNat < 0x7f)) = false := by
  have htab : (c == '\t') = false := beq_eq_false_iff_ne.mpr fun hc => by
    rw [hc] at h
    exact absurd h (by decide)
  rw [htab, Bool.false_or, Bool.and_eq_false_iff]
  exact Or.inr (decide_eq_false (by omega))

theorem ofUInt8_beq_tab (b : UInt8) : (Char.ofUInt8 b == '\t') = (b.toNat == 0x09) := by
  rw [Bool.eq_iff_iff, beq_iff_eq, beq_iff_eq, ← Char.toNat_inj, Text.toNat_ofUInt8]
  rfl

theorem toNat_lt_of_isPlainByte {b : UInt8} (h : isPlainByte b = true) : b.toNat < 0x80 := by
  rw [isPlainByte, Bool.or_eq_true, Bool.and_eq_true, beq_iff_eq, decide_eq_true_eq,
    decide_eq_true_eq] at h
  omega

namespace HeaderValue

theorem parse?_ofBytes (h : bs.all isCleanByte = true) :
    HeaderValue.parse? (Text.ofBytes bs) = some ⟨Text.ofBytes bs⟩ := by
  refine if_pos ?_
  rw [Text.all_ofBytes isCleanChar_beyond]
  simp only [ofUInt8_beq_tab, Text.toNat_ofUInt8]
  exact h

/-- Bytes are text only if they are plain, and then they are the text that has these bytes. -/
theorem text?_ofBytes_eq_some_iff :
    (HeaderValue.mk (Text.ofBytes bs)).text? = some group ↔
      bs.all isPlainByte = true ∧ Text.bytes group = bs := by
  have hcheck : ((Text.ofBytes bs).toList.all
      fun c => c == '\t' || (0x20 ≤ c.toNat && c.toNat < 0x7f)) = bs.all isPlainByte := by
    rw [Text.all_ofBytes isPlainChar_beyond]
    simp only [ofUInt8_beq_tab, Text.toNat_ofUInt8, Nat.lt_succ_iff]
    rfl
  unfold HeaderValue.text?
  rw [hcheck]
  split
  next hplain =>
    rw [Option.some.injEq, and_iff_right hplain]
    constructor
    · rintro rfl
      exact Text.bytes_ofBytes fun b hb =>
        toNat_lt_of_isPlainByte (List.all_eq_true.mp hplain b hb)
    · rintro rfl
      exact Text.ofBytes_bytes group
  next hother => exact ⟨nofun, fun h => absurd h.1 hother⟩

end HeaderValue

namespace HeaderField

theorem parse?_name (f : HeaderField) : HeaderName.parse? f.name = some ⟨f.name.toLower⟩ :=
  if_pos ⟨f.nonempty, f.short, f.token⟩

/-- No field has what is not a name as its name. -/
theorem not_isNamed (h : HeaderName.parse? s = none) (f : HeaderField) : f.isNamed s = false := by
  cases hnamed : f.isNamed s with
  | false => rfl
  | true =>
      have hparse := HeaderName.parse?_eq_of_toLower_eq (beq_iff_eq.mp hnamed)
      rw [parse?_name, h] at hparse
      cases hparse

end HeaderField

namespace Headers

/-- Well-formed fields are read, each as it is. -/
theorem parse?_map_written (fields : List HeaderField) :
    Headers.parse? (fields.map HeaderField.written) = some (fields.map HeaderField.header) := by
  induction fields with
  | nil => rfl
  | cons f fields ih =>
      unfold Headers.parse? at ih ⊢
      rw [List.map_cons, List.mapM_cons, ih]
      simp only [HeaderField.written, f.parse?_name, HeaderValue.parse?_ofBytes f.clean]
      rfl

/-- The header of a name is the first field of that name, whatever stands before and after. -/
theorem first?_map_header (fields : List HeaderField) (name : String) :
    Headers.first? (fields.map HeaderField.header) name =
      (fields.find? (·.isNamed name)).map fun f => ⟨Text.ofBytes f.value⟩ := by
  cases hname : HeaderName.parse? name with
  | none =>
      have hfind : fields.find? (·.isNamed name) = none :=
        List.find?_eq_none.mpr fun f _ => by
          rw [HeaderField.not_isNamed hname f]
          exact Bool.false_ne_true
      rw [hfind, Headers.first?, hname]
      rfl
  | some lower =>
      have hnamed : (fun f : HeaderField => f.header.1 == lower) = (·.isNamed name) :=
        funext fun f => by
          rw [HeaderName.eq_of_parse? hname, Bool.eq_iff_iff, beq_iff_eq, HeaderField.isNamed,
            beq_iff_eq]
          exact HeaderName.mk.injEq _ _ ▸ Iff.rfl
      rw [Headers.first?, hname]
      change ((fields.map HeaderField.header).find? _).map _ = _
      rw [List.find?_map, Option.map_map]
      exact congrArg (fun q => (fields.find? q).map _) hnamed

end Headers

end Turnstile
