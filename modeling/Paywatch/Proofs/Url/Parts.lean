import Mathlib.Data.List.TakeWhile
import Paywatch.Proofs.Text.Percent
import Paywatch.Url.Database
import Paywatch.Url.Split

/-!
# The parts of an address

An address is taken apart twice: when other credentials are put into it, and when
it is read.  Either way a part that holds no mark ends at the next one.  What is
said here of each part is put together where whole addresses are treated.
-/

namespace Paywatch

/-! ## Parts of a text -/

section Stops

variable {p : Char → Bool} {before rest : List Char} {stop : Char}

theorem takeWhile_stop (inside : ∀ c ∈ before, p c) (stops : p stop = false) :
    (before ++ stop :: rest).takeWhile p = before := by
  rw [List.takeWhile_append_of_pos inside, List.takeWhile_cons_of_neg (by simp [stops]),
    List.append_nil]

theorem dropWhile_stop (inside : ∀ c ∈ before, p c) (stops : p stop = false) :
    (before ++ stop :: rest).dropWhile p = stop :: rest := by
  rw [List.dropWhile_append_of_pos inside, List.dropWhile_cons_of_neg (by simp [stops])]

/-- What stands after the last occurrence of a mark. -/
theorem afterLast_stop (before : List Char) (unmarked : stop ∉ rest) :
    SplitUrl.afterLast stop (before ++ stop :: rest) = rest := by
  unfold SplitUrl.afterLast
  rw [List.reverse_append, List.reverse_cons, List.append_assoc, List.singleton_append,
    takeWhile_stop, List.reverse_reverse]
  · intro c inside
    rw [List.mem_reverse] at inside
    exact decide_eq_true fun same => unmarked (same ▸ inside)
  · simp

theorem afterLast_unmarked (unmarked : stop ∉ rest) : SplitUrl.afterLast stop rest = rest := by
  unfold SplitUrl.afterLast
  rw [List.takeWhile_eq_self_iff.mpr, List.reverse_reverse]
  intro c inside
  rw [List.mem_reverse] at inside
  exact decide_eq_true fun same => unmarked (same ▸ inside)

end Stops

/-! ## Plain characters -/

/-- Is the character no mark of an address, and none that is removed or refused? -/
def IsPlain (c : Char) : Prop :=
  c ∉ ['/', '?', '#', '@', ':', '[', ']'] ∧ SplitUrl.isRemoved c = false ∧
    c.toNat ∉ SplitUrl.deceptiveChars

instance (c : Char) : Decidable (IsPlain c) :=
  inferInstanceAs (Decidable (_ ∧ _))

/-- What holds of all of ASCII holds of a character there. -/
theorem of_ascii {P : Char → Prop} (ascii : ∀ code < 0x80, P (Char.ofNat code)) {c : Char}
    (small : c.toNat < 0x80) : P c := by
  have holds := ascii c.toNat small
  rwa [Char.ofNat_toNat] at holds

theorem toNat_lt_of_isAlphanum {c : Char} (alphanum : c.isAlphanum) : c.toNat < 0x80 := by
  change ((decide ('A'.val ≤ c.val ∧ c.val ≤ 'Z'.val) || ('a'.val ≤ c.val && c.val ≤ 'z'.val)) ||
    ('0'.val ≤ c.val && c.val ≤ '9'.val)) = true at alphanum
  simp only [Bool.or_eq_true, Bool.and_eq_true, decide_eq_true_eq,
    UInt32.le_iff_toNat_le] at alphanum
  change ((65 ≤ c.toNat ∧ c.toNat ≤ 90) ∨ (97 ≤ c.toNat ∧ c.toNat ≤ 122)) ∨
    (48 ≤ c.toNat ∧ c.toNat ≤ 57) at alphanum
  omega

theorem toNat_lt_of_isUnreserved {c : Char} (unreserved : Text.isUnreserved c) :
    c.toNat < 0x80 := by
  simp only [Text.isUnreserved, Bool.or_eq_true, decide_eq_true_eq] at unreserved
  rcases unreserved with (((alphanum | rfl) | rfl) | rfl) | rfl
  · exact toNat_lt_of_isAlphanum alphanum
  all_goals decide

/-- Letters, digits, points and hyphens are plain. -/
theorem isPlain_of_isUnreserved {c : Char} (unreserved : Text.isUnreserved c) : IsPlain c :=
  of_ascii (P := fun c => Text.isUnreserved c → IsPlain c) (by decide +kernel)
    (toNat_lt_of_isUnreserved unreserved) unreserved

theorem isUnreserved_upperHex : ∀ digit < 16, Text.isUnreserved (Text.upperHex digit) := by
  decide +kernel

/-- What may stand in a text in percent form. -/
theorem mem_percentChar {keeps : Char → Bool} {c d : Char}
    (inside : d ∈ Text.percentChar keeps c) : keeps d ∨ Text.isUnreserved d ∨ d = '%' := by
  unfold Text.percentChar at inside
  split at inside
  · next kept =>
    rw [List.mem_singleton.mp inside]
    exact .inl kept
  · obtain ⟨byte, written, digit⟩ := List.mem_flatMap.mp inside
    have small := Text.byte_lt written
    simp only [Text.percentByte, List.mem_cons, List.not_mem_nil, or_false] at digit
    rcases digit with rfl | rfl | rfl
    · exact .inr (.inr rfl)
    · exact .inr (.inl (isUnreserved_upperHex _ (by omega)))
    · exact .inr (.inl (isUnreserved_upperHex _ (by omega)))

/-- Credentials are written with plain characters. -/
theorem isPlain_plusEncode {cs : List Char} : ∀ c ∈ Text.plusEncode cs, IsPlain c := by
  intro c inside
  obtain ⟨origin, -, written⟩ := List.mem_flatMap.mp inside
  split at written
  · rw [List.mem_singleton.mp written]
    decide
  · rcases mem_percentChar written with kept | unreserved | rfl
    · exact isPlain_of_isUnreserved kept
    · exact isPlain_of_isUnreserved unreserved
    · decide

theorem isPlain_encodeUser {cs : List Char} :
    ∀ c ∈ DatabaseUrl.encodeUser cs, c ≠ ':' ∧ c ≠ '/' ∧ c ≠ '@' := by
  have marks : ∀ c, Text.isUnreserved c → c ≠ ':' ∧ c ≠ '/' ∧ c ≠ '@' := by
    intro c unreserved
    refine ⟨?_, ?_, ?_⟩ <;> (rintro rfl; cases unreserved)
  intro c inside
  obtain ⟨origin, -, written⟩ := List.mem_flatMap.mp inside
  rcases mem_percentChar written with kept | unreserved | rfl
  · simp only [Bool.or_eq_true, decide_eq_true_eq] at kept
    rcases kept with (unreserved | rfl) | rfl
    · exact marks c unreserved
    · decide
    · decide
  · exact marks c unreserved
  · decide

/-! ## Schemes -/

theorem toNat_lt_of_isSchemeChar {c : Char} (allowed : SplitUrl.isSchemeChar c) :
    c.toNat < 0x80 := by
  simp only [SplitUrl.isSchemeChar, Bool.or_eq_true, decide_eq_true_eq] at allowed
  rcases allowed with ((alphanum | rfl) | rfl) | rfl
  · exact toNat_lt_of_isAlphanum alphanum
  all_goals decide

/-- What may stand in a scheme is no mark, may be written in small letters, and is read alike. -/
theorem schemeChar_facts {c : Char} (allowed : SplitUrl.isSchemeChar c) :
    c ≠ ':' ∧ SplitUrl.isRemoved c = false ∧ SplitUrl.isSchemeChar c.toLower ∧
      DatabaseUrl.isNameChar c.toLower = DatabaseUrl.isNameChar c :=
  of_ascii (P := fun c => SplitUrl.isSchemeChar c → c ≠ ':' ∧ SplitUrl.isRemoved c = false ∧
      SplitUrl.isSchemeChar c.toLower ∧
        DatabaseUrl.isNameChar c.toLower = DatabaseUrl.isNameChar c)
    (by decide +kernel) (toNat_lt_of_isSchemeChar allowed) allowed

theorem letter_facts {c : Char} (letter : c.isAlpha) :
    c.toLower.isAlpha ∧ SplitUrl.isLeading c = false := by
  have small : c.toNat < 0x80 := toNat_lt_of_isAlphanum (by rw [Char.isAlphanum, letter]; rfl)
  exact of_ascii (P := fun c => c.isAlpha → c.toLower.isAlpha ∧ SplitUrl.isLeading c = false)
    (by decide +kernel) small letter

/-- A scheme begins with a letter. -/
theorem isScheme_iff {cs : List Char} : SplitUrl.isScheme cs ↔
    ∃ c rest, cs = c :: rest ∧ c.isAlpha ∧ ∀ d ∈ cs, SplitUrl.isSchemeChar d := by
  unfold SplitUrl.isScheme
  cases cs with
  | nil => simp
  | cons c rest => simp [List.all_eq_true]

theorem isScheme_toLower {cs : List Char} (valid : SplitUrl.isScheme cs) :
    SplitUrl.isScheme (cs.map Char.toLower) := by
  obtain ⟨c, rest, rfl, letter, allowed⟩ := isScheme_iff.mp valid
  refine isScheme_iff.mpr ⟨c.toLower, rest.map Char.toLower, rfl, (letter_facts letter).1, ?_⟩
  intro d inside
  obtain ⟨origin, among, rfl⟩ := List.mem_map.mp inside
  exact (schemeChar_facts (allowed origin among)).2.2.1

/-! ## The parts of an address, one by one -/

namespace SplitUrl

theorem cutAt_stop {mark : Char} {before rest : List Char} (unmarked : mark ∉ before) :
    cutAt mark (before ++ mark :: rest) = (before, rest) := by
  have inside : ∀ c ∈ before, decide (c ≠ mark) :=
    fun c inside => decide_eq_true fun same => unmarked (same ▸ inside)
  unfold cutAt
  rw [takeWhile_stop inside (by simp), dropWhile_stop inside (by simp), List.drop_one,
    List.tail_cons]

theorem cutAt_unmarked {mark : Char} {cs : List Char} (unmarked : mark ∉ cs) :
    cutAt mark cs = (cs, []) := by
  have inside : ∀ c ∈ cs, decide (c ≠ mark) :=
    fun c inside => decide_eq_true fun same => unmarked (same ▸ inside)
  unfold cutAt
  rw [List.takeWhile_eq_self_iff.mpr inside, List.dropWhile_eq_nil_iff.mpr inside, List.drop_nil]

theorem cleaned_eq {first : Char} {more : List Char} (leads : isLeading first = false)
    (kept : ∀ c ∈ first :: more, isRemoved c = false) :
    cleaned (first :: more) = first :: more := by
  unfold cleaned
  rw [List.dropWhile_cons_of_neg (by simp [leads]), List.filter_eq_self]
  intro c inside
  rw [kept c inside, Bool.not_false]

theorem takeScheme_eq {scheme : List Char} (valid : isScheme scheme) (rest : List Char) :
    takeScheme (scheme ++ ':' :: rest) = (scheme.map Char.toLower, rest) := by
  obtain ⟨-, -, -, -, allowed⟩ := isScheme_iff.mp valid
  have unmarked : ':' ∉ scheme := fun inside => (schemeChar_facts (allowed _ inside)).1 rfl
  have head : (scheme ++ ':' :: rest).takeWhile (· ≠ ':') = scheme :=
    takeWhile_stop (fun c inside => decide_eq_true fun same => unmarked (same ▸ inside)) (by simp)
  unfold takeScheme
  rw [head, cutAt_stop unmarked, if_pos (by simp [valid])]

theorem takeAuthority_eq {authority : List Char} (inside : ∀ c ∈ authority, endsAuthority c = false)
    (path : List Char) :
    takeAuthority ('/' :: '/' :: (authority ++ '/' :: path)) = (authority, '/' :: path) := by
  have going : ∀ c ∈ authority, (!endsAuthority c) = true := fun c among => by rw [inside c among]; rfl
  rw [takeAuthority, takeWhile_stop going (by decide), dropWhile_stop going (by decide)]

theorem checkBrackets_unmarked {authority : List Char} (opens : '[' ∉ authority)
    (closes : ']' ∉ authority) : checkBrackets authority = .ok () := by
  simp [checkBrackets, opens, closes]

end SplitUrl

/-! ## Reading an address -/

namespace DatabaseUrl

/-- What an address says behind its user part. -/
def located (cs : List Char) : Except Failure DatabaseUrl := do
  let (host, rest) := takeHost cs
  let (port, rest) := takeMarked ':' (fun c => c = '/' || c = '?') rest
  let (database, rest) := takeMarked '/' (· = '?') rest
  let (query, _) := takeMarked '?' (· = '\n') rest
  let port ← readPort port
  return {
    name := []
    username := none
    password := none
    host := host
    port := port
    database := database.map Text.percentDecode
    options := readOptions (query.getD []) }

/-- An address is read part by part. -/
theorem ofChars_of_parts {address name rest behind : List Char}
    {username password : Option (List Char)} (named : takeName? address = some (name, rest))
    (parted : takeUser rest = (username, password, behind)) :
    ofChars address = (located behind).map fun url => { url with
      name := name
      username := username.map Text.percentDecode
      password := password.map Text.percentDecode } := by
  unfold ofChars located
  rw [named]
  dsimp only
  rw [parted]
  dsimp only
  cases readPort (takeMarked ':' (fun c => c = '/' || c = '?') (takeHost behind).2).1 <;> rfl

/-- A name in front of its mark is taken off if it can be read. -/
theorem takeName?_eq {name : List Char} (nonempty : name ≠ []) (unmarked : ':' ∉ name)
    (rest : List Char) :
    takeName? (name ++ ':' :: '/' :: '/' :: rest) =
      if name.all isNameChar then some (name, rest) else none := by
  have stops : isNameChar ':' = false := by decide +kernel
  obtain ⟨first, more, rfl⟩ := List.exists_cons_of_ne_nil nonempty
  unfold takeName?
  by_cases all : (first :: more).all isNameChar
  · rw [if_pos all]
    have inside : ∀ c ∈ first :: more, isNameChar c := List.all_eq_true.mp all
    simp only [takeWhile_stop inside stops, dropWhile_stop inside stops]
  · rw [if_neg all]
    obtain ⟨c, left, drops⟩ : ∃ c left, (first :: more).dropWhile isNameChar = c :: left := by
      refine List.exists_cons_of_ne_nil fun nil => all ?_
      rw [List.dropWhile_eq_nil_iff] at nil
      exact List.all_eq_true.mpr nil
    have other : c ≠ ':' := by
      rintro rfl
      have among : ':' ∈ (first :: more).dropWhile isNameChar := by rw [drops]; simp
      exact unmarked ((List.dropWhile_sublist _).mem among)
    rw [List.dropWhile_append, drops]
    simp [other]

/-- User name and password before an at sign. -/
theorem takeUser_secret {username password rest : List Char}
    (named : ∀ c ∈ username, c ≠ ':' ∧ c ≠ '/') (secret : '@' ∉ password) :
    takeUser (username ++ ':' :: (password ++ '@' :: rest)) =
      (some username, some password, rest) := by
  have going : ∀ c ∈ username, (c ≠ ':' && c ≠ '/') = true := by
    intro c inside
    simpa using named c inside
  have hidden : ∀ c ∈ password, decide (c ≠ '@') = true :=
    fun c inside => decide_eq_true fun same => secret (same ▸ inside)
  unfold takeUser
  rw [takeWhile_stop going (by decide), dropWhile_stop going (by decide)]
  simp only [List.head?_cons, List.drop_one, List.tail_cons]
  rw [if_pos (by simp), takeWhile_stop hidden (by simp), dropWhile_stop hidden (by simp),
    List.tail_cons]

/-- A user name alone before an at sign. -/
theorem takeUser_name {username rest : List Char}
    (named : ∀ c ∈ username, c ≠ ':' ∧ c ≠ '/') (unmarked : '@' ∉ rest) :
    takeUser (username ++ '@' :: rest) = (some username, none, rest) := by
  have going : ∀ c ∈ username ++ ['@'], (c ≠ ':' && c ≠ '/') = true := by
    intro c inside
    rcases List.mem_append.mp inside with before | here
    · simpa using named c before
    · rw [List.mem_singleton.mp here]
      rfl
  have parted : username ++ '@' :: rest = (username ++ ['@']) ++ rest := by simp
  have split := List.takeWhile_append_dropWhile (p := fun c => c ≠ ':' && c ≠ '/') (l := rest)
  unfold takeUser
  rw [parted, List.takeWhile_append_of_pos going, List.dropWhile_append_of_pos going]
  generalize rest.takeWhile (fun c => c ≠ ':' && c ≠ '/') = head at split
  generalize rest.dropWhile (fun c => c ≠ ':' && c ≠ '/') = behind at split
  subst split
  rw [List.mem_append, not_or] at unmarked
  have unheld : (behind.drop 1).contains '@' = false := by
    rw [List.contains_eq_mem, decide_eq_false_iff_not]
    exact fun inside => unmarked.2 (List.mem_of_mem_drop inside)
  have last := afterLast_stop username unmarked.1
  unfold SplitUrl.afterLast at last
  simp only [unheld, Bool.and_false, Bool.false_eq_true, if_false]
  rw [if_pos (by simp), List.append_assoc, List.singleton_append, last]
  have length : (username ++ '@' :: head).length - head.length - 1 = username.length := by
    rw [List.length_append, List.length_cons]
    omega
  rw [length, List.take_left]

theorem takeUser_nobody {rest : List Char} (unmarked : '@' ∉ rest) :
    takeUser rest = (none, none, rest) := by
  have split := List.takeWhile_append_dropWhile (p := fun c => c ≠ ':' && c ≠ '/') (l := rest)
  unfold takeUser
  have unheld : ((rest.dropWhile fun c => c ≠ ':' && c ≠ '/').drop 1).contains '@' = false := by
    rw [List.contains_eq_mem, decide_eq_false_iff_not]
    exact fun inside => unmarked ((List.dropWhile_sublist _).mem (List.mem_of_mem_drop inside))
  have unnamed : (rest.takeWhile fun c => c ≠ ':' && c ≠ '/').contains '@' = false := by
    rw [List.contains_eq_mem, decide_eq_false_iff_not]
    exact fun inside => unmarked ((List.takeWhile_sublist _).mem inside)
  simp only [unheld, unnamed, Bool.and_false, Bool.false_eq_true, if_false]

/-- A host is taken up to the character that ends it. -/
theorem takeHost_stop {host rest : List Char} {stop : Char} (opens : '[' ∉ host)
    (going : ∀ c ∈ host, c ≠ '/' ∧ c ≠ ':' ∧ c ≠ '?') (stops : stop = '/' ∨ stop = ':') :
    takeHost (host ++ stop :: rest) = (if host = [] then none else some host, stop :: rest) := by
  have inside : ∀ c ∈ host, (!(decide (c = '/') || decide (c = ':') || decide (c = '?'))) = true := by
    intro c inside
    simp [going c inside]
  have ends : (!(decide (stop = '/') || decide (stop = ':') || decide (stop = '?'))) = false := by
    rcases stops with rfl | rfl <;> rfl
  have unbracketed : takeBracketed? (host ++ stop :: rest) = none := by
    unfold takeBracketed?
    split
    · next inner same =>
      cases host with
      | nil => rcases stops with rfl | rfl <;> exact absurd (List.cons.inj same).1 (by decide)
      | cons c more => exact absurd (by simp [(List.cons.inj same).1]) opens
    · rfl
  unfold takeHost
  rw [unbracketed]
  dsimp only
  rw [takeWhile_stop inside ends, dropWhile_stop inside ends]
  cases host with
  | nil => rfl
  | cons c more => rfl

theorem takeMarked_mark (mark : Char) (ends : Char → Bool) (rest : List Char) :
    takeMarked mark ends (mark :: rest) =
      (some (rest.takeWhile (!ends ·)), rest.dropWhile (!ends ·)) :=
  if_pos rfl

theorem takeMarked_other {mark other : Char} (differs : other ≠ mark) (ends : Char → Bool)
    (rest : List Char) : takeMarked mark ends (other :: rest) = (none, other :: rest) :=
  if_neg differs

/-- A part that ends where the path begins. -/
theorem takeMarked_path {part : List Char} (going : ∀ c ∈ part, c ≠ '/' ∧ c ≠ '?')
    (path : List Char) :
    takeMarked ':' (fun c => c = '/' || c = '?') (':' :: (part ++ '/' :: path)) =
      (some part, '/' :: path) := by
  have inside : ∀ c ∈ part, (!(decide (c = '/') || decide (c = '?'))) = true := by
    intro c inside
    simpa using going c inside
  rw [takeMarked_mark, takeWhile_stop inside rfl, dropWhile_stop inside rfl]

/-- A path without options. -/
theorem takeMarked_database {database : List Char} (unmarked : '?' ∉ database) :
    takeMarked '/' (· = '?') ('/' :: database) = (some database, []) := by
  have inside : ∀ c ∈ database, (!decide (c = '?')) = true := by
    intro c inside
    simpa using fun same : c = '?' => unmarked (same ▸ inside)
  rw [takeMarked_mark, List.takeWhile_eq_self_iff.mpr inside, List.dropWhile_eq_nil_iff.mpr inside]

end DatabaseUrl

end Paywatch
