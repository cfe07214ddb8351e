import Paywatch.Database.Server.Options
import Paywatch.Text.Numeral

/-!
# Options in one text

Options are written one after the other, each as its name, an equals sign and
its value, with a blank between two of them.  A value that holds a blank stands
in quotes, and a quote or a backslash in a value follows a backslash.  Reading
allows more blanks than writing produces, and quotes around any value.
-/

namespace Paywatch

namespace ServerOptions

/-! ## Writing -/

/-- A quote or a backslash follows a backslash. -/
def escapeChar (c : Char) : List Char :=
  if c = '\'' || c = '\\' then ['\\', c] else [c]

def writtenValue (value : String) : String :=
  let escaped := String.ofList (value.toList.flatMap escapeChar)
  if value.isEmpty || value.any Text.isBlank then s!"'{escaped}'" else escaped

def written (options : ServerOptions) : String :=
  " ".intercalate (options.entries.map fun entry => s!"{entry.1}={writtenValue entry.2}")

/-! ## Reading -/

/-- Take a value without quotes off the front: it ends at a blank. -/
def takePlain : List Char → List Char × List Char
  | [] | ['\\'] => ([], [])
  | '\\' :: c :: rest =>
    let (value, rest) := takePlain rest
    (c :: value, rest)
  | c :: rest =>
    if Text.isMargin c then ([], rest)
    else
      let (value, rest) := takePlain rest
      (c :: value, rest)

def takeQuoted? : List Char → Option (List Char × List Char)
  | [] | ['\\'] => none
  | '\\' :: c :: rest => (takeQuoted? rest).map fun (value, rest) => (c :: value, rest)
  | '\'' :: rest => some ([], rest)
  | c :: rest => (takeQuoted? rest).map fun (value, rest) => (c :: value, rest)

def takeValue? : List Char → Option (List Char × List Char)
  | '\'' :: rest => takeQuoted? rest
  | cs => some (takePlain cs)

theorem length_takePlain (cs : List Char) : (takePlain cs).2.length ≤ cs.length := by
  fun_induction takePlain cs <;> simp_all <;> omega

theorem length_takeQuoted? {cs value rest : List Char} (h : takeQuoted? cs = some (value, rest)) :
    rest.length ≤ cs.length := by
  fun_induction takeQuoted? cs generalizing value rest with
  | case1 => simp at h
  | case2 => simp at h
  | case3 c cs ih =>
    obtain ⟨⟨v, r⟩, hr, heq⟩ := Option.map_eq_some_iff.1 h
    simp only [Prod.mk.injEq] at heq
    have := ih hr
    simp only [List.length_cons]
    rw [← heq.2]
    omega
  | case4 cs =>
    simp only [Option.some.injEq, Prod.mk.injEq] at h
    simp [← h.2]
  | case5 c cs _ _ _ ih =>
    obtain ⟨⟨v, r⟩, hr, heq⟩ := Option.map_eq_some_iff.1 h
    simp only [Prod.mk.injEq] at heq
    have := ih hr
    simp only [List.length_cons]
    rw [← heq.2]
    omega

/-- What is read is shorter than what it is read from. -/
theorem length_takeValue? {cs value rest : List Char} (h : takeValue? cs = some (value, rest)) :
    rest.length ≤ cs.length := by
  unfold takeValue? at h
  split at h
  · have := length_takeQuoted? h
    simp only [List.length_cons]
    omega
  · have := length_takePlain cs
    simp only [Option.some.injEq] at h
    rw [h] at this
    exact this

def endsName (c : Char) : Bool :=
  c = '=' || Text.isMargin c

def readWrittenAfter (options : ServerOptions) (cs : List Char) : Except TextFault ServerOptions :=
  match _ : cs.dropWhile Text.isMargin with
  | [] => .ok options
  | c :: more =>
    let name := String.ofList ((c :: more).takeWhile (!endsName ·))
    match _ : ((c :: more).dropWhile (!endsName ·)).dropWhile Text.isMargin with
    | '=' :: after =>
      match _ : takeValue? (after.dropWhile Text.isMargin) with
      | none => .error .openQuote
      | some (value, rest) =>
        match options.store? name (String.ofList value) with
        | none => .error (.unknownOption name)
        | some options => readWrittenAfter options rest
    | _ => .error (.noValue name)
termination_by cs.length
decreasing_by
  have drop (p : Char → Bool) (xs : List Char) : (xs.dropWhile p).length ≤ xs.length :=
    (List.dropWhile_sublist p).length_le
  have h1 := drop Text.isMargin cs
  have h2 := drop (!endsName ·) (c :: more)
  have h3 := drop Text.isMargin ((c :: more).dropWhile (!endsName ·))
  have h4 := drop Text.isMargin after
  have h5 := length_takeValue? ‹takeValue? _ = some (value, rest)›
  rw [‹cs.dropWhile Text.isMargin = c :: more›] at h1
  rw [‹((c :: more).dropWhile (!endsName ·)).dropWhile Text.isMargin = '=' :: after›] at h3
  simp only [List.length_cons] at h1 h2 h3
  omega

def ofWritten (cs : List Char) : Except TextFault ServerOptions :=
  readWrittenAfter {} cs

end ServerOptions

end Paywatch
