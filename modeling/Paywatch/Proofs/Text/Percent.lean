import Paywatch.Proofs.Text.Utf8
import Paywatch.Text.Percent

/-!
# Percent encoding is undone by decoding

A text in percent form stands for its bytes, whichever characters are kept, as
long as a percent sign is not.  The form for user names and passwords writes a
blank as a plus sign and a plus sign in percent form; decoding that knows of
percent signs alone gives a plus sign for both.
-/

namespace Paywatch

namespace Text

/-! ## Bytes -/

theorem hexByte?_upperHex : ∀ byte < 256,
    hexByte? (upperHex (byte / 16)) (upperHex (byte % 16)) = some byte := by
  decide +kernel

theorem byte_lt {c : Char} {byte : Nat} (inside : byte ∈ encodeUtf8 [c]) : byte < 256 := by
  obtain ⟨octet, -, rfl⟩ : ∃ octet ∈ String.utf8EncodeChar c, octet.toNat = byte := by
    simpa [encodeUtf8] using inside
  exact octet.toNat_lt

theorem percentBytes_percentByte {byte : Nat} (small : byte < 256) (rest : List Char) :
    percentBytes (percentByte byte ++ rest) = byte :: percentBytes rest := by
  simp only [percentByte, List.cons_append, List.nil_append]
  rw [percentBytes, hexByte?_upperHex byte small]

theorem percentBytes_flatMap {bytes : List Nat} (small : ∀ byte ∈ bytes, byte < 256)
    (rest : List Char) :
    percentBytes (bytes.flatMap percentByte ++ rest) = bytes ++ percentBytes rest := by
  induction bytes with
  | nil => rfl
  | cons byte bytes ih =>
    rw [List.forall_mem_cons] at small
    rw [List.flatMap_cons, List.append_assoc, percentBytes_percentByte small.1, ih small.2,
      List.cons_append]

theorem percentBytes_plain {c : Char} (plain : c ≠ '%') (rest : List Char) :
    percentBytes (c :: rest) = encodeUtf8 [c] ++ percentBytes rest := by
  rw [percentBytes]
  rintro a b more rfl
  exact absurd rfl plain

/-- One character in percent form stands for its bytes. -/
theorem percentBytes_percentChar {keeps : Char → Bool} (marked : keeps '%' = false) (c : Char)
    (rest : List Char) :
    percentBytes (percentChar keeps c ++ rest) = encodeUtf8 [c] ++ percentBytes rest := by
  unfold percentChar
  split
  · next kept =>
    refine percentBytes_plain ?_ rest
    rintro rfl
    rw [marked] at kept
    cases kept
  · exact percentBytes_flatMap (fun byte inside => byte_lt inside) rest

/-! ## Texts -/

/-- A text in percent form is decoded to itself. -/
theorem percentDecode_percentEncode {keeps : Char → Bool} (marked : keeps '%' = false)
    (cs : List Char) : percentDecode (percentEncode keeps cs) = cs := by
  have bytes : percentBytes (percentEncode keeps cs) = encodeUtf8 cs := by
    induction cs with
    | nil => simp [percentEncode, percentBytes, encodeUtf8]
    | cons c cs ih =>
      rw [percentEncode, List.flatMap_cons, percentBytes_percentChar marked, encodeUtf8_cons c cs]
      exact congrArg _ ih
  rw [percentDecode, bytes, decodeUtf8_encodeUtf8]

/-- A text with a plus sign in the place of every blank. -/
def withPluses (cs : List Char) : List Char :=
  cs.map fun c => if c = ' ' then '+' else c

/-- Decoding that leaves plus signs as they are takes a blank for one. -/
theorem percentDecode_plusEncode (cs : List Char) :
    percentDecode (plusEncode cs) = withPluses cs := by
  have bytes : percentBytes (plusEncode cs) = encodeUtf8 (withPluses cs) := by
    induction cs with
    | nil => simp [plusEncode, withPluses, percentBytes, encodeUtf8]
    | cons c cs ih =>
      rw [plusEncode, List.flatMap_cons, withPluses, List.map_cons, encodeUtf8_cons _ (cs.map _)]
      split
      · exact (percentBytes_plain (by decide) _).trans (congrArg _ ih)
      · exact (percentBytes_percentChar rfl c _).trans (congrArg _ ih)
  rw [percentDecode, bytes, decodeUtf8_encodeUtf8]

/-- Nothing is changed exactly where there is no blank. -/
theorem withPluses_eq_self_iff (cs : List Char) : withPluses cs = cs ↔ ' ' ∉ cs := by
  constructor
  · intro same inside
    have blank : ' ' ∈ withPluses cs := by rwa [same]
    obtain ⟨c, -, eq⟩ := List.mem_map.mp blank
    split at eq
    · exact absurd eq (by decide)
    · next other => exact other eq
  · intro without
    refine (List.map_congr_left fun c inside => ?_).trans (List.map_id cs)
    split
    · next blank => exact absurd (blank ▸ inside) without
    · rfl

end Text

end Paywatch
