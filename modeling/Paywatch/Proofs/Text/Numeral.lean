import Mathlib.Data.List.TakeWhile
import Paywatch.Text.Numeral

/-!
# Whole numbers in plain digits

A run of the ten plain digits is read as the number it stands for, unless it has
more digits than are read.
-/

namespace Paywatch

namespace Text

/-- A digit stands for itself in a numeral, and is no blank, no sign and no underscore. -/
theorem digit_facts {c : Char} (digit : c.isDigit) :
    plainChar c = c ∧ isMargin c = false ∧ c ≠ '-' ∧ c ≠ '+' ∧ c ≠ '_' := by
  have bounds : 48 ≤ c.toNat ∧ c.toNat ≤ 57 := by
    simp only [Char.isDigit, Bool.and_eq_true, decide_eq_true_eq, ge_iff_le,
      UInt32.le_iff_toNat_le] at digit
    exact digit
  refine ⟨if_pos (by omega), ?_, ?_, ?_, ?_⟩
  · have blank : c ≠ ' ' := by
      rintro rfl
      exact absurd bounds.1 (by decide)
    have control : ¬ c.toNat ≤ 13 := by omega
    simp [isMargin, blank, control]
  all_goals
    rintro rfl
    exact absurd bounds (by decide)

theorem stripWhere_eq_self {p : Char → Bool} {cs : List Char} (kept : ∀ c ∈ cs, p c = false) :
    stripWhere p cs = cs := by
  have fixed : ∀ ds : List Char, (∀ c ∈ ds, p c = false) → ds.dropWhile p = ds := by
    intro ds kept
    cases ds with
    | nil => rfl
    | cons d ds => rw [List.dropWhile_cons_of_neg (by simp [kept d])]
  unfold stripWhere
  rw [fixed cs kept, fixed cs.reverse fun c inside => kept c (List.mem_reverse.mp inside),
    List.reverse_reverse]

theorem joinDigits?_eq_some {cs : List Char} (plain : ∀ c ∈ cs, c ≠ '_') (previous : Char) :
    joinDigits? previous cs = some cs := by
  induction cs generalizing previous with
  | nil => rfl
  | cons c cs ih =>
    rw [List.forall_mem_cons] at plain
    rw [joinDigits?, ih plain.2 c, Option.map_some]
    · rintro d rest rfl
      exact absurd rfl plain.1
    · rintro rfl
      exact absurd rfl plain.1

/-- Digits are read as the number they stand for. -/
theorem readInt_ofList {cs : List Char} (nonempty : cs ≠ []) (digits : ∀ c ∈ cs, c.isDigit)
    (short : cs.length ≤ maxDigits) :
    readInt (String.ofList cs) = .ok (Decimal.digitsValue cs) := by
  have numeral : numeralChars (String.ofList cs) = cs := by
    have same : cs.map plainChar = cs :=
      (List.map_congr_left fun c inside => (digit_facts (digits c inside)).1).trans (List.map_id cs)
    rw [numeralChars, String.toList_ofList, same]
    exact stripWhere_eq_self fun c inside => (digit_facts (digits c inside)).2.1
  have unsigned : Decimal.takeSign cs = (false, cs) := by
    obtain ⟨c, rest, rfl⟩ := List.exists_cons_of_ne_nil nonempty
    have facts := digit_facts (digits c List.mem_cons_self)
    unfold Decimal.takeSign
    split
    · next same => exact absurd (List.cons.inj same).1 facts.2.2.1
    · next same => exact absurd (List.cons.inj same).1 facts.2.2.2.1
    · rfl
  have run : cs.takeWhile isRunChar = cs :=
    List.takeWhile_eq_self_iff.mpr fun c inside => by simp [isRunChar, digits c inside]
  have joined := joinDigits?_eq_some
    (fun c inside => (digit_facts (digits c inside)).2.2.2.2) ' '
  have some : cs.isEmpty = false := by simpa using nonempty
  unfold readInt
  simp only [numeral, unsigned, run, joined, some, Nat.not_lt.mpr short, Nat.lt_irrefl,
    decide_false, Bool.or_false, Bool.false_eq_true, if_false]
  rfl

end Text

end Paywatch
