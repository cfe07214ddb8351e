import Mathlib.Tactic
import Paywatch.Text.Utf8

/-!
# Texts as bytes

The bytes of a text are read as that text.
-/

namespace Paywatch

namespace Text

/-! ## One character -/

def bytesOfCode (code : Nat) : List Nat :=
  if code ≤ 0x7f then [code]
  else if code ≤ 0x7ff then [code / 0x40 + 0xc0, code % 0x40 + 0x80]
  else if code ≤ 0xffff then
    [code / 0x1000 + 0xe0, code / 0x40 % 0x40 + 0x80, code % 0x40 + 0x80]
  else
    [code / 0x40000 + 0xf0, code / 0x1000 % 0x40 + 0x80, code / 0x40 % 0x40 + 0x80,
      code % 0x40 + 0x80]

/-- No character has the code point of a surrogate, or one beyond the last. -/
theorem toNat_cases (c : Char) : c.toNat < 0xd800 ∨ 0xdfff < c.toNat ∧ c.toNat < 0x110000 :=
  c.valid

theorem encodeUtf8_singleton (c : Char) : encodeUtf8 [c] = bytesOfCode c.toNat := by
  have valid := toNat_cases c
  have code : c.val.toNat = c.toNat := rfl
  unfold encodeUtf8 bytesOfCode
  rw [List.flatMap_singleton, String.utf8EncodeChar, code]
  split
  · simp only [List.map_cons, List.map_nil, UInt8.toNat_ofNat', List.cons.injEq, and_true]
    omega
  · split
    · simp only [List.map_cons, List.map_nil, UInt8.toNat_ofNat', List.cons.injEq, and_true]
      omega
    · split
      · simp only [List.map_cons, List.map_nil, UInt8.toNat_ofNat', List.cons.injEq, and_true]
        omega
      · simp only [List.map_cons, List.map_nil, UInt8.toNat_ofNat', List.cons.injEq, and_true]
        omega

theorem isContinuation_add (bits : Nat) (small : bits < 0x40) : isContinuation (bits + 0x80) := by
  simp only [isContinuation, Bool.and_eq_true, decide_eq_true_eq]
  omega

theorem tailBits_add (bits : Nat) (small : bits < 0x40) : tailBits (bits + 0x80) = bits := by
  unfold tailBits
  omega

theorem secondOfThree_of_code (code : Nat) (wide : 0x7ff < code)
    (valid : code < 0xd800 ∨ 0xdfff < code ∧ code < 0x10000) :
    secondOfThree (code / 0x1000 + 0xe0) (code / 0x40 % 0x40 + 0x80) := by
  unfold secondOfThree
  split
  · simp only [Bool.and_eq_true, decide_eq_true_eq]
    omega
  · split
    · simp only [Bool.and_eq_true, decide_eq_true_eq]
      omega
    · exact isContinuation_add _ (Nat.mod_lt _ (by decide))

theorem secondOfFour_of_code (code : Nat) (wide : 0xffff < code) (valid : code < 0x110000) :
    secondOfFour (code / 0x40000 + 0xf0) (code / 0x1000 % 0x40 + 0x80) := by
  unfold secondOfFour
  split
  · simp only [Bool.and_eq_true, decide_eq_true_eq]
    omega
  · split
    · simp only [Bool.and_eq_true, decide_eq_true_eq]
      omega
    · exact isContinuation_add _ (Nat.mod_lt _ (by decide))

/-- The bytes of a character are read as that character, whatever follows them. -/
theorem frontChar_bytes (c : Char) (rest : List Nat) :
    ∃ first more, encodeUtf8 [c] = first :: more ∧
      frontChar first (more ++ rest) = (c, more.length + 1) := by
  have valid := toNat_cases c
  have read : Char.ofNat c.toNat = c := Char.ofNat_toNat c
  rw [encodeUtf8_singleton, bytesOfCode]
  generalize c.toNat = code at valid read
  have low (n : Nat) : n % 0x40 < 0x40 := Nat.mod_lt _ (by decide)
  split
  · refine ⟨_, _, rfl, ?_⟩
    unfold frontChar
    rw [if_pos (by omega), read]
    rfl
  · split
    · refine ⟨_, _, rfl, ?_⟩
      unfold frontChar
      rw [if_neg (by omega), if_pos (by omega)]
      simp only [List.cons_append, List.nil_append, isContinuation_add _ (low _), if_true,
        tailBits_add _ (low _)]
      rw [show (code / 0x40 + 0xc0) % 0x20 * 0x40 + code % 0x40 = code by omega, read]
      rfl
    · split
      · refine ⟨_, _, rfl, ?_⟩
        unfold frontChar
        rw [if_neg (by omega), if_neg (by omega), if_pos (by omega)]
        simp only [List.cons_append, List.nil_append, isContinuation_add _ (low _),
          secondOfThree_of_code code (by omega) (by omega), Bool.not_true,
          Bool.false_eq_true, if_false, tailBits_add _ (low _)]
        rw [show ((code / 0x1000 + 0xe0) % 0x10 * 0x40 + code / 0x40 % 0x40) * 0x40 + code % 0x40 =
          code by omega, read]
        rfl
      · refine ⟨_, _, rfl, ?_⟩
        unfold frontChar
        rw [if_neg (by omega), if_neg (by omega), if_neg (by omega), if_pos (by omega)]
        simp only [List.cons_append, List.nil_append, isContinuation_add _ (low _),
          secondOfFour_of_code code (by omega) (by omega), Bool.not_true,
          Bool.false_eq_true, if_false, tailBits_add _ (low _)]
        rw [show (((code / 0x40000 + 0xf0) % 8 * 0x40 + code / 0x1000 % 0x40) * 0x40 +
          code / 0x40 % 0x40) * 0x40 + code % 0x40 = code by omega, read]
        rfl

/-! ## Texts -/

theorem encodeUtf8_cons (c : Char) (cs : List Char) :
    encodeUtf8 (c :: cs) = encodeUtf8 [c] ++ encodeUtf8 cs := by
  simp [encodeUtf8]

/-- The bytes of a text are read as that text. -/
theorem decodeUtf8_encodeUtf8 (cs : List Char) : decodeUtf8 (encodeUtf8 cs) = cs := by
  induction cs with
  | nil => rw [encodeUtf8, List.flatMap_nil, decodeUtf8]
  | cons c cs ih =>
    obtain ⟨first, more, bytes, front⟩ := frontChar_bytes c (encodeUtf8 cs)
    rw [encodeUtf8_cons, bytes, List.cons_append, decodeUtf8, front]
    simp only [Nat.add_sub_cancel, List.drop_left, ih]

end Text

end Paywatch
