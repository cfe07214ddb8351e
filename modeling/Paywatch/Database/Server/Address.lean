import Paywatch.Database.Server.Options
import Paywatch.Text.Percent
import Paywatch.Text.Pieces

/-!
# Options in an address

The options of a connection can also be given by one address, which names user
and password before an at sign, then hosts with their ports, the database after
a slash and all other options after a question mark.  Every part may be percent
encoded, so that the bytes of a value may form no text.
-/

namespace Paywatch

namespace ServerOptions

def addressStarts : List String :=
  ["postgresql" ++ "://", "postgres" ++ "://"]

/-- How this address of a server begins, if it is one. -/
def addressStart? (text : List Char) : Option String :=
  addressStarts.find? fun start => start.toList.isPrefixOf text

/-! ## Parts -/

def percentFault? (whole : String) : List Char → Option TextFault
  | '%' :: a :: b :: rest =>
    match Text.hexByte? a b with
    | none => some (.malformedPercent whole)
    | some 0 => some (.encodedEnd whole)
    | some _ => percentFault? whole rest
  | '%' :: _ => some (.malformedPercent whole)
  | _ :: rest => percentFault? whole rest
  | [] => none

def readPart (part : List Char) : Except TextFault (List Nat) :=
  match percentFault? (String.ofList part) part with
  | some fault => .error fault
  | none => .ok (Text.percentBytes part)

end ServerOptions

/-- The options that an address asks for, each once, with the bytes of their values. -/
structure AddressOptions where
  values : List (String × List Nat) := []
  deriving DecidableEq, Repr

namespace AddressOptions

open ServerOptions

def textOf (bytes : List Nat) : String :=
  String.ofList (Text.decodeUtf8 bytes)

def bytesOf (text : String) : List Nat :=
  Text.encodeUtf8 text.toList

def put (options : AddressOptions) (name : String) (value : List Nat) : AddressOptions :=
  ⟨(name, value) :: options.values.filter (·.1 ≠ name)⟩

/-- Set an option that there has to be; the older name stands for one of two values. -/
def store? (options : AddressOptions) (name : String) (value : List Nat) :
    Option AddressOptions :=
  if name = olderName then
    some (options.put modeName (bytesOf (olderMode ((bytesOf "1").isPrefixOf value))))
  else if names.contains name then some (options.put name value)
  else none

def putPart (options : AddressOptions) (name : String) (part : List Char) :
    Except TextFault AddressOptions :=
  if part.isEmpty then .ok options else (readPart part).map (options.put name)

def decodeValue (value : List Nat) : Except Text.Misfit String :=
  match Text.misfit? value with
  | some misfit => .error misfit
  | none => .ok (textOf value)

def decode (options : AddressOptions) : Except Text.Misfit ServerOptions := do
  let entries := names.filterMap fun name =>
    (options.values.lookup name).map fun value => (name, value)
  return ⟨← entries.mapM fun (name, value) => do return (name, ← decodeValue value)⟩

/-! ## User and hosts -/

/-- Set user and password; the rest is what stands behind them. -/
def putUser (options : AddressOptions) (cs : List Char) :
    Except TextFault (AddressOptions × List Char) :=
  let head := cs.takeWhile fun c => c ≠ '@' && c ≠ '/'
  match cs.dropWhile fun c => c ≠ '@' && c ≠ '/' with
  | '@' :: rest => do
    let options ← options.putPart "user" (head.takeWhile (· ≠ ':'))
    return (← options.putPart "password" ((head.dropWhile (· ≠ ':')).drop 1), rest)
  | _ => .ok (options, cs)

def endsHost (c : Char) : Bool :=
  c = ':' || c = '/' || c = '?' || c = ','

def endsPort (c : Char) : Bool :=
  c = '/' || c = '?' || c = ','

def shownByte (c : Char) : String :=
  if c.toNat < 128 then c.toString else Text.replacement.toString

def checkBehind (address rest : List Char) : Except TextFault Unit :=
  match rest with
  | [] => .ok ()
  | c :: _ =>
    if endsHost c then .ok ()
    else
      let before := String.ofList (address.take (address.length - rest.length))
      .error (.stray (shownByte c) (before.utf8ByteSize + 1) (String.ofList address))

def takeAddressHost (address : List Char) : List Char → Except TextFault (List Char × List Char)
  | '[' :: inner =>
    let host := inner.takeWhile (· ≠ ']')
    match inner.dropWhile (· ≠ ']') with
    | [] => .error (.openBracket (String.ofList address))
    | _ :: rest =>
      if host.isEmpty then .error (.emptyBrackets (String.ofList address))
      else (checkBehind address rest).map fun _ => (host, rest)
  | cs => .ok (cs.takeWhile (!endsHost ·), cs.dropWhile (!endsHost ·))

/-- Take a port off the front, which stands behind a colon. -/
def takeAddressPort : List Char → List Char × List Char
  | ':' :: cs => (cs.takeWhile (!endsPort ·), cs.dropWhile (!endsPort ·))
  | cs => ([], cs)

theorem length_takeAddressHost {address cs host rest : List Char}
    (h : takeAddressHost address cs = .ok (host, rest)) : rest.length ≤ cs.length := by
  have drop (p : Char → Bool) (xs : List Char) : (xs.dropWhile p).length ≤ xs.length :=
    (List.dropWhile_sublist p).length_le
  unfold takeAddressHost at h
  split at h
  · rename_i inner
    dsimp only at h
    split at h
    · simp at h
    · rename_i c behind hd
      have hl := drop (· ≠ ']') inner
      rw [hd] at hl
      split at h
      · simp at h
      · cases hc : checkBehind address behind with
        | error fault => simp [hc, Except.map] at h
        | ok _ =>
          simp only [hc, Except.map, Except.ok.injEq, Prod.mk.injEq] at h
          simp only [List.length_cons] at hl ⊢
          rw [← h.2]
          omega
  · simp only [Except.ok.injEq, Prod.mk.injEq] at h
    rw [← h.2]
    exact drop _ cs

theorem length_takeAddressPort (cs : List Char) : (takeAddressPort cs).2.length ≤ cs.length := by
  unfold takeAddressPort
  split
  · rename_i cs
    have : (cs.dropWhile (!endsPort ·)).length ≤ cs.length :=
      (List.dropWhile_sublist _).length_le
    simp only [List.length_cons]
    omega
  · exact Nat.le_refl _

/-- Take hosts, each with its port, off the front; a comma stands between two of them. -/
def takeAddressHosts (address cs : List Char) :
    Except TextFault (List (List Char × List Char) × List Char) :=
  match _ : takeAddressHost address cs with
  | .error fault => .error fault
  | .ok (host, rest) =>
    let port := (takeAddressPort rest).1
    match _ : (takeAddressPort rest).2 with
    | ',' :: more => (takeAddressHosts address more).map fun (hosts, rest) =>
      ((host, port) :: hosts, rest)
    | rest => .ok ([(host, port)], rest)
termination_by cs.length
decreasing_by
  have h1 := length_takeAddressHost ‹takeAddressHost address cs = .ok (host, rest)›
  have h2 := length_takeAddressPort rest
  rw [‹(takeAddressPort rest).2 = ',' :: more›] at h2
  simp only [List.length_cons] at h2
  omega

/-! ## Other options -/

def putParameter (options : AddressOptions) (part : List Char) :
    Except TextFault AddressOptions :=
  let key := part.takeWhile (· ≠ '=')
  match part.dropWhile (· ≠ '=') with
  | [] => .error (.noParameterValue (String.ofList key))
  | _ :: value =>
    if value.contains '=' then .error (.secondValue (String.ofList key))
    else do
      let name := textOf (← readPart key)
      let value ← readPart value
      let stored :=
        if name = "ssl" && value = bytesOf "true" then
          options.store? modeName (bytesOf (olderMode true))
        else options.store? name value
      match stored with
      | none => .error (.unknownParameter name)
      | some options => return options

/-- The parts behind the question mark; an empty one at the end is none. -/
def parameterParts (cs : List Char) : List (List Char) :=
  let parts := Text.pieces '&' cs
  if parts.getLast? = some [] then parts.dropLast else parts

/-- The options that an address asks for, without how it begins. -/
def ofAddress (address cs : List Char) : Except TextFault AddressOptions := do
  let (options, rest) ← putUser {} cs
  let (places, rest) ← takeAddressHosts address rest
  let join (parts : List (List Char)) : List Char := [','].intercalate parts
  let options ← options.putPart "host" (join (places.map (·.1)))
  let options ← options.putPart "port" (join (places.map (·.2)))
  let path := rest.takeWhile (· ≠ '?')
  let options ← options.putPart "dbname" (path.drop 1)
  (parameterParts ((rest.dropWhile (· ≠ '?')).drop 1)).foldlM putParameter options

end AddressOptions

end Paywatch
