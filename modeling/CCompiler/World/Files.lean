import CCompiler.Text.Basic
import CCompiler.Source.Phases
import CCompiler.Text.Lines

/-!
# The world around the compiler

A moment of the calendar, and its texts in source files.

A path has a root and parts between slashes. Empty parts and single dots do not count; two dots stand for
the directory above and vanish only when the path is resolved.

A location may begin with a scheme, and the host stands behind two slashes. A host in brackets is the
address of a machine: eight groups of hexadecimal digits, where one gap may stand for groups of zeros. No
character of a host may stand for one that ends it.
-/
namespace CCompiler

/-- A moment. Months and days count from one. -/
structure Moment where
  year : Nat
  month : Nat
  day : Nat
  hour : Nat
  minute : Nat
  second : Nat
deriving Repr, DecidableEq, Inhabited

namespace Moment

def monthNames : List String :=
  ["Jan", "Feb", "Mar", "Apr", "May", "Jun", "Jul", "Aug", "Sep", "Oct", "Nov", "Dec"]

def weekdayNames : List String := ["Mon", "Tue", "Wed", "Thu", "Fri", "Sat", "Sun"]

def daysBefore : List Nat := [0, 31, 59, 90, 120, 151, 181, 212, 243, 273, 304, 334]

def isLeap (year : Nat) : Bool := year % 4 = 0 && (year % 100 ≠ 0 || year % 400 = 0)

def dayNumber (m : Moment) : Nat :=
  let past := m.year - 1
  past * 365 + past / 4 - past / 100 + past / 400 + daysBefore.getD (m.month - 1) 0
    + (if m.month > 2 && isLeap m.year then 1 else 0) + (m.day - 1)

/-- The day of the week. The first day of year one is a Monday. -/
def weekday (m : Moment) : String := weekdayNames.getD (m.dayNumber % 7) ""

def monthName (m : Moment) : String := monthNames.getD (m.month - 1) ""

def padded (fill : Char) (width n : Nat) : String :=
  String.ofList (List.replicate (width - (toString n).length) fill) ++ toString n

def date (m : Moment) : String :=
  s!"{m.monthName} " ++ padded ' ' 2 m.day ++ " " ++ padded '0' 4 m.year

def time (m : Moment) : String :=
  padded '0' 2 m.hour ++ ":" ++ padded '0' 2 m.minute ++ ":" ++ padded '0' 2 m.second

def timestamp (m : Moment) : String :=
  s!"{m.weekday} {m.monthName} " ++ padded ' ' 2 m.day ++ s!" {m.time} " ++ padded '0' 4 m.year

end Moment

structure Platform where
  system : String
  machine : String
deriving Repr, DecidableEq, Inhabited

/-- A path: nothing, one slash or exactly two slashes at its front, and its parts. -/
structure Path where
  root : String
  parts : List String
deriving Repr, DecidableEq, Inhabited

namespace Path

/-- The slashes that make the root of a text. -/
def rootOf : List Char → String
  | '/' :: '/' :: '/' :: _ => "/"
  | '/' :: '/' :: _ => "//"
  | '/' :: _ => "/"
  | _ => ""

def partsOf (text : String) : List String :=
  (text.splitOn "/").filter fun part => part ≠ "" && part ≠ "."

def ofText (text : String) : Path := ⟨rootOf text.toList, partsOf text⟩

/-- The text of a path; a path without root and parts is the dot. -/
def text (p : Path) : String :=
  if p.root = "" ∧ p.parts = [] then "." else p.root ++ "/".intercalate p.parts

def isAbsolute (p : Path) : Bool := p.root ≠ ""

def name (p : Path) : String := p.parts.getLastD ""

def parent (p : Path) : Path := { p with parts := p.parts.dropLast }

def join (base p : Path) : Path := if p.isAbsolute then p else { base with parts := base.parts ++ p.parts }

def relativeTo? (p dir : Path) : Option Path :=
  if p.root = dir.root && dir.parts.isPrefixOf p.parts then
    some ⟨"", p.parts.drop dir.parts.length⟩
  else none

/-- The part of a name from its last dot on. A dot at an end of the name does not count, nor do those
    before all else. -/
def suffix (p : Path) : String :=
  let behind := (p.name.toList.reverse.takeWhile (· ≠ '.')).reverse
  let before := p.name.toList.take (p.name.length - behind.length - 1)
  if before.isEmpty || behind.isEmpty then "" else String.ofList ('.' :: behind)

def stem (p : Path) : String := String.ofList (p.name.toList.take (p.name.length - p.suffix.length))

def withSuffix (p : Path) (suffix : String) : Path :=
  { p with parts := p.parts.dropLast ++ [p.stem ++ suffix] }

structure Nameless where
  path : Path
deriving Repr, DecidableEq, Inhabited

def Nameless.message (e : Nameless) : String := s!"PosixPath({Text.quoted e.path.text}) has an empty name"

def withSuffix? (p : Path) (suffix : String) : Except Nameless Path :=
  if p.name = "" then .error ⟨p⟩ else .ok (p.withSuffix suffix)

/-- The parts after every pair of dots has taken back the part before it, where the parts before are
    given last first. -/
def resolveParts (before : List String) : List String → List String
  | [] => before.reverse
  | part :: rest =>
    if part = ".." then resolveParts before.tail rest else resolveParts (part :: before) rest

def workingDirectory : Path := ⟨"/", ["v"]⟩

/-- The path from the root without dots. -/
def resolve (p : Path) : Path :=
  let absolute := workingDirectory.join p
  { absolute with parts := resolveParts [] absolute.parts }

end Path

/-! ## The world

Files with their texts, the variables of the environment that name directories of headers, the platform
and the clock.
-/

inductive ReadFault where
  | missing (path : String)
  | denied (path : String)
  | garbled (fault : Text.Utf8Fault)
deriving Repr, DecidableEq

def ReadFault.message : ReadFault → String
  | .missing path => s!"[Errno 2] No such file or directory: {Text.quoted path}"
  | .denied path => s!"[Errno 13] Permission denied: {Text.quoted path}"
  | .garbled fault => fault.message

/-- What a file holds: a text, bytes that are no text, or what nobody may read. -/
inductive FileContent where
  | text (text : String)
  | garbled (fault : Text.Utf8Fault)
  | locked
deriving Repr, DecidableEq, Inhabited

abbrev Files := List (Path × FileContent)

namespace Files

def hasFile (files : Files) (p : Path) : Bool := (files.lookup p.resolve).isSome

/-- The text of a file; line ends become newlines. -/
def read (files : Files) (p : Path) : Except ReadFault String :=
  match files.lookup p.resolve with
  | none => .error (.missing p.text)
  | some .locked => .error (.denied p.text)
  | some (.garbled fault) => .error (.garbled fault)
  | some (.text text) => .ok (String.ofList (Source.unifyLineEnds text.toList))

end Files

structure World where
  files : Files := []
  cpath : String := ""
  cIncludePath : String := ""
  hostDirs : List String := []
  platform : Platform := ⟨"Linux", "x86_64"⟩
  now : Moment := ⟨2024, 2, 3, 4, 5, 6⟩
deriving Inhabited

/-- The directories in the value of a variable; an empty entry is the working directory. -/
def pathList (value : String) : List String :=
  if value = "" then [] else (value.splitOn ":").map fun part => if part = "" then "." else part

end CCompiler

namespace CCompiler.Location

open Text (splitOn cutAt?)

inductive Fault where
  | unpaired
  | future
  | fourNumbers
  | noAddress (text : String)
  | ambiguous (host : String)
deriving Repr, DecidableEq

def Fault.message : Fault → String
  | .unpaired => "Invalid IPv6 URL"
  | .future => "IPvFuture address is invalid"
  | .fourNumbers => "An IPv4 address cannot be in brackets"
  | .noAddress text => s!"{Text.quoted text} does not appear to be an IPv4 or IPv6 address"
  | .ambiguous host => s!"netloc '{host}' contains invalid characters under NFKC normalization"

def isHexDigit (c : Char) : Bool := c.isDigit || ('a' ≤ c && c ≤ 'f') || ('A' ≤ c && c ≤ 'F')

def isByte (cs : List Char) : Bool :=
  !cs.isEmpty && cs.length ≤ 3 && cs.all Char.isDigit && (cs == ['0'] || cs.head? != some '0')
    && ((Text.digitsValue? 10 cs).any (· < 256))

def isFourNumbers (cs : List Char) : Bool :=
  let numbers := splitOn '.' cs
  numbers.length = 4 && numbers.all isByte

def isGroup (cs : List Char) : Bool := !cs.isEmpty && cs.length ≤ 4 && cs.all isHexDigit

/-- The groups of an address between colons; four numbers at the end stand for two groups. -/
def groupsOf? (cs : List Char) : Option (List (List Char)) :=
  let groups := splitOn ':' cs
  let last := groups.getLastD []
  if groups.length < 3 then none
  else if !last.contains '.' then some groups
  else if isFourNumbers last then some (groups.dropLast ++ [['0'], ['0']])
  else none

def gaps (groups : List (List Char)) : List Nat :=
  (groups.zipIdx.filter fun (group, i) => group.isEmpty && 0 < i && i + 1 < groups.length).map (·.2)

/-- How many groups stand on one side of a gap; there may be none. -/
def countBeside? (side : List (List Char)) : Option Nat :=
  if side == [[]] then some 0 else if side.all isGroup then some side.length else none

def isEightGroups (cs : List Char) : Bool :=
  match groupsOf? cs with
  | none => false
  | some groups =>
    match gaps groups with
    | [] => groups.length = 8 && groups.all isGroup
    | [place] =>
      match countBeside? (groups.take place), countBeside? (groups.drop (place + 1)) with
      | some high, some low => high + low < 8
      | _, _ => false
    | _ => false

/-- Whether a text is an address of eight groups, with a zone behind a percent sign or without. -/
def isAddress (cs : List Char) : Bool :=
  match cutAt? ['%'] cs with
  | none => isEightGroups cs
  | some (address, zone) => !zone.isEmpty && !zone.contains '%' && isEightGroups address

/-- Whether a text is an address of a version to come: its number and a point, and something behind it. -/
def isFuture (cs : List Char) : Bool :=
  let version := (cs.drop 1).takeWhile isHexDigit
  match cs.drop (1 + version.length) with
  | '.' :: _ :: _ => !version.isEmpty
  | _ => false

/-- Refuses what stands in brackets unless it is an address. -/
def checkBracketed (cs : List Char) : Except Fault Unit :=
  if cs.head? = some 'v' then if isFuture cs then .ok () else .error .future
  else if isFourNumbers cs then .error .fourNumbers
  else if isAddress cs then .ok ()
  else .error (.noAddress (String.ofList cs))

/-- The characters that stand for a slash, a question mark, a number sign, an at sign or a colon, alone
    or with others. -/
def lookalikes : List Nat :=
  [0x2047, 0x2048, 0x2049, 0x2100, 0x2101, 0x2105, 0x2106, 0x2A74, 0xFE13, 0xFE16, 0xFE55, 0xFE56, 0xFE5F,
   0xFE6B, 0xFF03, 0xFF0F, 0xFF1A, 0xFF1F, 0xFF20]

/-- Refuses a host with brackets around no address, or with a character that may end it. -/
def checkHost (host : List Char) : Except Fault Unit := do
  if host.contains '[' != host.contains ']' then throw .unpaired
  match cutAt? ['['] host with
  | some (_, behind) => checkBracketed (behind.takeWhile (· ≠ ']'))
  | none => pure ()
  if host.any fun c => lookalikes.contains c.toNat then throw (.ambiguous (String.ofList host))

/-- A location without blanks and control characters at its front, and without tabs and line ends. -/
def cleaned (cs : List Char) : List Char :=
  (cs.dropWhile fun c => c.toNat ≤ 0x20).filter fun c => c ≠ '\t' && c ≠ '\n' && c ≠ '\r'

def isSchemeChar (c : Char) : Bool := c.isAlphanum || c == '+' || c == '-' || c == '.'

def withoutScheme (cs : List Char) : List Char :=
  match cutAt? [':'] cs with
  | some (scheme, behind) =>
    if scheme.head?.any Char.isAlpha && scheme.all isSchemeChar then behind else cs
  | none => cs

/-- The host in a location; there is none unless two slashes come first. -/
def host (text : String) : Except Fault String :=
  match withoutScheme (cleaned text.toList) with
  | '/' :: '/' :: rest => do
    let host := rest.takeWhile fun c => c ≠ '/' && c ≠ '?' && c ≠ '#'
    checkHost host
    return String.ofList host
  | _ => .ok ""

end CCompiler.Location
