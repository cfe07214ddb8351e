import Paywatch.Database.Server.Fault
import Paywatch.Url.Host

/-!
# Numbers of hosts

A host that is given by its number needs no one who knows its name.  Four octets
may be written with fewer points, the last part taking the place of the octets
that are missing, and each part also with the base eight or sixteen.  Eight
groups may be followed by the zone, the link on which the host is found.  Which
way there is to a host can be told from its number.
-/

namespace Paywatch

/-- The number of a host: four octets as one number, or eight groups with the number of a zone. -/
inductive HostNumber where
  | fourOctets (value : Nat)
  | eightGroups (groups : List Nat) (zone : Nat)
  deriving DecidableEq, Repr

namespace HostNumber

/-! ## Reading four octets -/

def valueIn (base : Nat) (digits : List Char) : Nat :=
  digits.foldl (fun n c => n * base + (Text.hexValue? c).getD 0) 0

def isOctalDigit (c : Char) : Bool :=
  '0' ≤ c && c ≤ '7'

/-- A part of a number: with the base sixteen after `0x`, eight after `0`, and else ten. -/
def readPart? : List Char → Option Nat
  | '0' :: x :: digits =>
    if x = 'x' || x = 'X' then
      if !digits.isEmpty && digits.all Host.isHexDigit then some (valueIn 16 digits) else none
    else if (x :: digits).all isOctalDigit then some (valueIn 8 (x :: digits)) else none
  | digits =>
    if !digits.isEmpty && digits.all Char.isDigit then some (valueIn 10 digits) else none

/-- The number whose last part stands for all octets that the others leave. -/
def joinParts? (parts : List Nat) : Option Nat :=
  match parts.getLast? with
  | none => none
  | some last =>
    let before := parts.dropLast
    if before.length ≤ 3 && before.all (· ≤ 255) && last < Nat.pow 256 (4 - before.length) then
      some (valueOf before * Nat.pow 256 (4 - before.length) + last)
    else none
where
  /-- The value of octets. -/
  valueOf (octets : List Nat) : Nat :=
    octets.foldl (fun n octet => n * 256 + octet) 0

def readOctets? (cs : List Char) : Option Nat := do
  joinParts? (← (Text.pieces '.' cs).mapM readPart?)

/-! ## Reading eight groups -/

def sideGroups (pieces : List (List Char)) : List Nat :=
  (pieces.filter (!·.isEmpty)).map (valueIn 16)

/-- The eight groups, with zeros in the gap. -/
def readGroups? (cs : List Char) : Option (List Nat) :=
  let pieces := Host.groupPieces cs
  if pieces.length = 8 && pieces.all Host.isGroup then some (pieces.map (valueIn 16))
  else do
    let position ← (List.range pieces.length).find? (Host.isGap pieces)
    let before := sideGroups (pieces.take position)
    let after := sideGroups (pieces.drop (position + 1))
    return before ++ List.replicate (8 - before.length - after.length) 0 ++ after

def front (groups : List Nat) : Nat :=
  groups.headD 0

def isOnLink (groups : List Nat) : Bool :=
  front groups / 0x40 = 0xfe80 / 0x40

/-- Are these many hosts at once? -/
def isMany (groups : List Nat) : Bool :=
  front groups / 0x100 = 0xff

/-- Are these many hosts on one link, or on one machine? -/
def isManyOnLink (groups : List Nat) : Bool :=
  isMany groups && (front groups % 16 = 1 || front groups % 16 = 2)

def links : List (String × Nat) :=
  [("lo", 1)]

/-- The number of a zone, which may be the name of a link for hosts that are found on one. -/
def readZone? (groups : List Nat) (zone : List Char) : Option Nat :=
  let named := if isOnLink groups || isManyOnLink groups then links.lookup (String.ofList zone)
    else none
  match named with
  | some number => some number
  | none =>
    let number := valueIn 10 zone
    if !zone.isEmpty && zone.all Char.isDigit && number < 0x100000000 then some number else none

def ofText? (text : String) : Option HostNumber :=
  let cs := text.toList
  match readOctets? cs with
  | some value => some (fourOctets value)
  | none => do
    let groups ← readGroups? (cs.takeWhile (· ≠ '%'))
    match cs.dropWhile (· ≠ '%') with
    | [] => return eightGroups groups 0
    | _ :: zone => return eightGroups groups (← readZone? groups zone)

/-! ## Writing -/

def octetsText (value : Nat) : String :=
  ".".intercalate ([3, 2, 1, 0].map fun place => toString (value / Nat.pow 256 place % 256))

def zerosAt (groups : List Nat) (position : Nat) : Nat :=
  ((groups.drop position).takeWhile (· = 0)).length

/-- The first of the longest runs of two or more zeros: its position and its length. -/
def longestRun? (groups : List Nat) : Option (Nat × Nat) :=
  let run := (List.range groups.length).foldl (fun best position =>
    if best.2 < zerosAt groups position then (position, zerosAt groups position) else best) (0, 0)
  if run.2 < 2 then none else some run

def joinGroups (groups : List Nat) : String :=
  ":".intercalate (groups.map fun group => String.ofList (Host.groupDigits group))

/-- Do the last two groups stand for four octets? -/
def holdsOctets (groups : List Nat) (run : Option (Nat × Nat)) : Bool :=
  run = some (0, 6) || (run = some (0, 5) && groups[5]? = some 0xffff)

def groupsText (groups : List Nat) : String :=
  let run := longestRun? groups
  match run with
  | none => joinGroups groups
  | some (position, length) =>
    let rest := groups.drop (position + length)
    let tail :=
      if holdsOctets groups run then
        let mark := if length = 5 then "ffff:" else ""
        mark ++ octetsText ((rest.drop (rest.length - 2)).foldl (fun n g => n * 0x10000 + g) 0)
      else joinGroups rest
    s!"{joinGroups (groups.take position)}::{tail}"

/-- The number in its usual form, without the zone. -/
def text : HostNumber → String
  | fourOctets value => octetsText value
  | eightGroups groups _ => groupsText groups

/-! ## The way to a host -/

def fault : HostNumber → HostFault
  | fourOctets _ => .noRoute
  | eightGroups groups zone =>
    if isMany groups || groups.take 6 = [0, 0, 0, 0, 0, 0xffff] then .noRoute
    else if isOnLink groups && zone = 0 then .noLink
    else .noSender

def ownGroups : HostNumber :=
  eightGroups [0, 0, 0, 0, 0, 0, 0, 1] 0

def ownOctets : HostNumber :=
  fourOctets 0x7f000001

end HostNumber

end Paywatch
