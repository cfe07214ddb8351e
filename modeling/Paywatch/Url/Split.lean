import Paywatch.Url.Host

/-!
# The parts of an address

An address of a resource is a scheme, an authority after two slashes, a path, a
query after a question mark and a fragment after a hash sign; each may be
missing.  Line breaks and tabs are no part of it, and neither are controls and
blanks in front.  Brackets in an authority enclose the address of a host.
-/

namespace Paywatch

/-- An address in its five parts; a missing part is empty. -/
structure SplitUrl where
  scheme : List Char
  authority : List Char
  path : List Char
  query : List Char
  fragment : List Char
  deriving DecidableEq, Repr

namespace SplitUrl

/-- What stands before the first occurrence of a character and what after it. -/
def cutAt (mark : Char) (cs : List Char) : List Char × List Char :=
  (cs.takeWhile (· ≠ mark), (cs.dropWhile (· ≠ mark)).drop 1)

def afterLast (mark : Char) (cs : List Char) : List Char :=
  (cs.reverse.takeWhile (· ≠ mark)).reverse

/-- Tabs and line breaks are removed from an address. -/
def isRemoved (c : Char) : Bool :=
  c = '\t' || c = '\n' || c = '\r'

/-- Controls and blanks are taken off the front of an address. -/
def isLeading (c : Char) : Bool :=
  c.toNat ≤ 0x20

def cleaned (address : List Char) : List Char :=
  (address.dropWhile isLeading).filter (!isRemoved ·)

def isSchemeChar (c : Char) : Bool :=
  c.isAlphanum || c = '+' || c = '-' || c = '.'

def isScheme (cs : List Char) : Bool :=
  (match cs with
    | c :: _ => c.isAlpha
    | [] => false) && cs.all isSchemeChar

def endsAuthority (c : Char) : Bool :=
  c = '/' || c = '?' || c = '#'

def takeScheme (cs : List Char) : List Char × List Char :=
  let head := cs.takeWhile (· ≠ ':')
  if cs.contains ':' && isScheme head then (head.map Char.toLower, (cutAt ':' cs).2)
  else ([], cs)

def takeAuthority : List Char → List Char × List Char
  | '/' :: '/' :: rest => (rest.takeWhile (!endsAuthority ·), rest.dropWhile (!endsAuthority ·))
  | cs => ([], cs)

/-- Brackets may enclose the host of an authority, with nothing but a port after them. -/
def checkBrackets (authority : List Char) : Except Failure Unit :=
  if authority.contains '[' != authority.contains ']' then .error .misplacedBrackets
  else if !authority.contains '[' then .ok ()
  else
    match afterLast '@' authority with
    | '[' :: inner =>
      let (host, rest) := cutAt ']' inner
      if rest.isEmpty || rest.head? = some ':' then Host.checkBracketed host
      else .error .misplacedBrackets
    | host =>
      if host.contains '[' then .error .misplacedBrackets
      else Host.checkBracketed (cutAt ':' host).1

/--
Characters outside ASCII whose compatibility form holds a slash, a question
mark, a hash sign, an at sign or a colon.
-/
def deceptiveChars : List Nat :=
  [0x2047, 0x2048, 0x2049, 0x2100, 0x2101, 0x2105, 0x2106, 0x2a74, 0xfe13, 0xfe16, 0xfe55, 0xfe56,
    0xfe5f, 0xfe6b, 0xff03, 0xff0f, 0xff1a, 0xff1f, 0xff20]

def isDeceptive (authority : List Char) : Bool :=
  authority.any fun c => deceptiveChars.contains c.toNat

def ofChars (address : List Char) : Except Failure SplitUrl := do
  let (scheme, rest) := takeScheme (cleaned address)
  let (authority, rest) := takeAuthority rest
  let (rest, fragment) := cutAt '#' rest
  let (path, query) := cutAt '?' rest
  checkBrackets authority
  if isDeceptive authority then throw (.deceptiveHost (String.ofList authority))
  return ⟨scheme, authority, path, query, fragment⟩

/-- A part with the mark that introduces it, nothing when it is empty. -/
def introduced (mark : Char) (part : List Char) : List Char :=
  if part.isEmpty then [] else mark :: part

def rooted : List Char → List Char
  | [] => []
  | '/' :: rest => '/' :: rest
  | path => '/' :: path

def chars (url : SplitUrl) : List Char :=
  (if url.scheme.isEmpty then [] else url.scheme ++ [':']) ++
    '/' :: '/' :: url.authority ++ rooted url.path ++
    introduced '?' url.query ++ introduced '#' url.fragment

/-- The authority without user name and password. -/
def host (url : SplitUrl) : List Char :=
  afterLast '@' url.authority

end SplitUrl

end Paywatch
