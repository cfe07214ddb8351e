import Mathlib.Data.List.TakeWhile
import Paywatch.Proofs.Text.Numeral
import Paywatch.Proofs.Url.Parts
import Paywatch.Settings.Environment

/-!
# Settings that are not a number

A double precision number may be spelled out as the value that is not a number.
There is one way to do so, in letters of either size, with or without a sign,
and with blanks around it.  No numeral is read as that value.
-/

namespace Paywatch

namespace Double

theorem nearest_ne_nan (negative : Bool) (n d : Nat) : nearest negative n d ≠ .nan := by
  unfold nearest
  dsimp only
  split
  · exact nofun
  · split <;> split <;> exact nofun

/-- A power of ten is read as a number or an infinity. -/
theorem ofScientific_ne_nan (negative : Bool) (coefficient : Nat) (exponent : Int) :
    ofScientific negative coefficient exponent ≠ .nan := by
  unfold ofScientific
  dsimp only
  split
  · exact nofun
  · split
    · exact nofun
    · split
      · exact nofun
      · exact nearest_ne_nan _ _ _

end Double

namespace Text

/-- Does the text spell out the value that is not a number? -/
def SpellsNan (text : String) : Prop :=
  (numeralChars text).map Char.toLower ∈ ["nan".toList, "+nan".toList, "-nan".toList]

instance (text : String) : Decidable (SpellsNan text) :=
  inferInstanceAs (Decidable (_ ∈ _))

/-- Where no digit is left, no underscore was removed. -/
theorem eq_of_joinDigits? {cs joined : List Char} {previous : Char}
    (joins : joinDigits? previous cs = some joined) (undigited : ∀ c ∈ joined, c.isDigit = false) :
    joined = cs := by
  fun_induction joinDigits? previous cs generalizing joined with
  | case1 => cases joins; rfl
  | case2 previous c rest digits ih =>
    obtain ⟨tail, -, rfl⟩ := Option.map_eq_some_iff.mp joins
    have digit : c.isDigit = true := by simp_all
    exact absurd (undigited c (by simp)) (by simp [digit])
  | case3 => cases joins
  | case4 => cases joins
  | case5 previous c rest _ _ ih =>
    obtain ⟨tail, inner, rfl⟩ := Option.map_eq_some_iff.mp joins
    rw [ih inner fun d inside => undigited d (List.mem_cons_of_mem _ inside)]

/-- Only the three letters themselves are read as the value that is not a number. -/
theorem readMagnitude?_eq_nan {negative : Bool} {cs : List Char} :
    readMagnitude? negative cs = some .nan ↔ cs = "nan".toList := by
  constructor
  · intro reads
    unfold readMagnitude? at reads
    split at reads
    · cases reads
    · cases reads
    · next same => rw [← String.toList_ofList (l := cs), same]
    · obtain ⟨⟨coefficient, exponent⟩, -, number⟩ := Option.map_eq_some_iff.mp reads
      exact absurd number (Double.ofScientific_ne_nan _ _ _)
  · rintro rfl
    rfl

/-- A sign may stand in front. -/
theorem of_takeSign {cs rest : List Char} {negative : Bool}
    (takes : Decimal.takeSign cs = (negative, rest)) :
    cs = rest ∨ cs = '+' :: rest ∨ cs = '-' :: rest := by
  unfold Decimal.takeSign at takes
  split at takes <;> cases takes
  · exact .inr (.inr rfl)
  · exact .inr (.inl rfl)
  · exact .inl rfl

theorem toLower_eq_self_of_isDigit {c : Char} (digit : c.isDigit) : c.toLower = c := by
  have small : c.toNat < 0x80 := toNat_lt_of_isAlphanum (by simp [Char.isAlphanum, digit])
  exact of_ascii (P := fun c => c.isDigit → c.toLower = c) (by decide +kernel) small digit

/-- What is spelled out holds no digit and no underscore. -/
theorem SpellsNan.letters {cs : List Char}
    (spells : cs.map Char.toLower ∈ ["nan".toList, "+nan".toList, "-nan".toList]) :
    ∀ c ∈ cs, c.isDigit = false ∧ c ≠ '_' := by
  have all : ∀ word ∈ ["nan".toList, "+nan".toList, "-nan".toList],
      ∀ c ∈ word, c.isDigit = false ∧ c ≠ '_' := by
    simp
  intro c inside
  have lower := all _ spells c.toLower (List.mem_map_of_mem inside)
  refine ⟨?_, ?_⟩
  · rw [Bool.eq_false_iff]
    intro digit
    rw [toLower_eq_self_of_isDigit digit, digit] at lower
    cases lower.1
  · rintro rfl
    exact lower.2 (by decide)

theorem readDouble?_eq_nan {text : String} : readDouble? text = some .nan ↔ SpellsNan text := by
  constructor
  · intro reads
    obtain ⟨joined, joins, reads⟩ := Option.bind_eq_some_iff.mp reads
    have sign : Decimal.takeSign (joined.map Char.toLower) =
        ((Decimal.takeSign (joined.map Char.toLower)).1, "nan".toList) :=
      Prod.ext rfl (readMagnitude?_eq_nan.mp reads)
    have spells : joined.map Char.toLower ∈ ["nan".toList, "+nan".toList, "-nan".toList] := by
      rcases of_takeSign sign with same | same | same <;> rw [same] <;> decide +kernel
    rw [SpellsNan, ← eq_of_joinDigits? joins fun c inside => (SpellsNan.letters spells c inside).1]
    exact spells
  · intro spells
    have joins := joinDigits?_eq_some (fun c inside => (SpellsNan.letters spells c inside).2) ' '
    unfold readDouble?
    rw [joins, Option.bind_eq_bind, Option.bind_some]
    unfold SpellsNan at spells
    generalize (numeralChars text).map Char.toLower = cs at spells
    revert cs
    decide +kernel

theorem mem_of_mem_stripWhere {p : Char → Bool} {cs : List Char} {c : Char}
    (inside : c ∈ stripWhere p cs) : c ∈ cs := by
  unfold stripWhere at inside
  rw [List.mem_reverse] at inside
  have reversed := (List.dropWhile_sublist _).mem inside
  rw [List.mem_reverse] at reversed
  exact (List.dropWhile_sublist _).mem reversed

/-- A blank stands for no letter. -/
theorem toLower_plainChar_of_isBlank {c : Char} (blank : isBlank c) :
    (plainChar c).toLower ≠ 'n' := by
  unfold plainChar
  split
  · next small =>
    exact of_ascii (P := fun c => isBlank c → c.toLower ≠ 'n') (by decide +kernel)
      (by omega) blank
  · decide

/-- A text of blanks spells out nothing. -/
theorem not_isBlankText_of_spellsNan {text : String} (spells : SpellsNan text) :
    isBlankText text = false := by
  rw [Bool.eq_false_iff]
  intro blank
  have letter : 'n' ∈ (numeralChars text).map Char.toLower := by
    have every : ∀ word ∈ ["nan".toList, "+nan".toList, "-nan".toList], 'n' ∈ word := by
      decide +kernel
    exact every _ spells
  obtain ⟨c, inside, lower⟩ := List.mem_map.mp letter
  obtain ⟨d, among, rfl⟩ := List.mem_map.mp (mem_of_mem_stripWhere inside)
  exact toLower_plainChar_of_isBlank (List.all_eq_true.mp blank d among) lower

end Text

/-- A variable is read as a value that is not a number if it spells that out. -/
theorem readFloating_eq_nan {name : String} {raw : Option String} {default : Double}
    (number : default ≠ .nan) :
    (readFloating name raw default).value = .nan ↔ ∃ text ∈ raw, Text.SpellsNan text := by
  unfold readFloating readNumeral
  cases raw with
  | none => simp [number]
  | some text =>
    simp only [Option.mem_def, Option.some_inj, exists_eq_left']
    cases blank : Text.isBlankText text with
    | true =>
      have silent : ¬ Text.SpellsNan text := fun spells => by
        simp [Text.not_isBlankText_of_spellsNan spells] at blank
      simp [number, silent]
    | false =>
      rw [← Text.readDouble?_eq_nan]
      cases reads : Text.readDouble? text with
      | none => simp [number]
      | some value => simp

end Paywatch
