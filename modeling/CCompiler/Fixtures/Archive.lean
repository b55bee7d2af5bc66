import CCompiler.World.Files

/-!
# Archives

An archive is a row of members. Each has a header of one block with its name, its kind and the size of
its data, and behind that its data, filled up to whole blocks. A block of zeros ends the archive.
-/
namespace CCompiler.Fixtures

def blockSize : Nat := 512

inductive MemberKind where
  | file
  | symbolicLink
  | hardLink
  | directory
  | device
  | unknown
deriving Repr, DecidableEq, Inhabited

def MemberKind.ofMark (mark : UInt8) : MemberKind :=
  match Char.ofNat mark.toNat with
  | '0' | '7' | 'S' => .file
  | '1' => .hardLink
  | '2' => .symbolicLink
  | '5' => .directory
  | '3' | '4' | '6' | 'K' | 'L' => .device
  | c => if c = Char.ofNat 0 then .file else .unknown

def MemberKind.hasData (kind : MemberKind) : Bool := kind == .file || kind == .unknown

inductive HeaderFault where
  | empty
  | truncated
  | invalid
  | checksum
deriving Repr, DecidableEq

def HeaderFault.message : HeaderFault → String
  | .empty => "empty file"
  | .truncated => "truncated header"
  | .invalid => "invalid header"
  | .checksum => "bad checksum"

structure Header where
  name : String
  kind : MemberKind
  size : Nat
  target : String
deriving Repr, DecidableEq

def cut (block : List UInt8) (start stop : Nat) : List UInt8 := (block.take stop).drop start

def beforeZero (field : List UInt8) : List UInt8 := field.takeWhile (· ≠ 0)

/-- The text of a field. Bytes that are no text stand for themselves. -/
def fieldText (field : List UInt8) : String :=
  match Text.decode (beforeZero field) with
  | .ok cs => String.ofList cs
  | .error _ => String.ofList ((beforeZero field).map fun b => Char.ofNat b.toNat)

/-- The number of a field: octal digits, or bytes behind a mark. -/
def fieldNumber (field : List UInt8) : Except HeaderFault Int :=
  match field with
  | [] => .ok 0
  | first :: rest =>
    let bytes : Nat := rest.foldl (fun n b => n * 256 + b.toNat) 0
    if first = 0x80 then .ok bytes
    else if first = 0xFF then .ok (bytes - Nat.pow 256 rest.length)
    else
      let digits := beforeZero field
      let text := Text.trimSpace (digits.map fun b => Char.ofNat b.toNat)
      if digits.any (· ≥ 0x80) then .error .invalid
      else if text.isEmpty then .ok 0
      else match Text.readInteger? 8 text with
        | some n => .ok n
        | none => .error .invalid

/-- The sum of the bytes of a header, where those of the sum itself count as blanks. -/
def checksum (value : UInt8 → Int) (block : List UInt8) : Int :=
  (block.take 148 ++ block.drop 156).foldl (fun sum b => sum + value b) 256

def signedValue (b : UInt8) : Int := if b.toNat < 128 then b.toNat else b.toNat - 256

def headerOf (block : List UInt8) : Except HeaderFault Header := do
  if block.isEmpty then throw .empty
  if block.length < blockSize then throw .truncated
  let sum ← fieldNumber (cut block 148 156)
  if sum ≠ checksum (fun b => b.toNat) block && sum ≠ checksum signedValue block then throw .checksum
  let size ← fieldNumber (cut block 124 136)
  let others := [cut block 100 108, cut block 108 116, cut block 116 124, cut block 136 148,
    cut block 329 337, cut block 337 345]
  for field in others do
    let _ ← fieldNumber field
  if size < 0 then throw .invalid
  let short := fieldText (cut block 0 100)
  let mark := (block.drop 156).headD 0
  let isFolder := mark = 0 && short.toList.getLast? == some '/'
  let kind := if isFolder then .directory else MemberKind.ofMark mark
  let short :=
    if kind = .directory then String.ofList (short.toList.reverse.dropWhile (· == '/')).reverse else short
  let front := fieldText (cut block 345 500)
  let name := if front = "" then short else front ++ "/" ++ short
  return { name, kind, size := size.toNat, target := fieldText (cut block 157 257) }

/-- A member; one whose data do not reach to their end has none. -/
structure Member where
  name : String
  kind : MemberKind
  target : String
  data : Option (List UInt8)
deriving Repr, DecidableEq

/-- An archive: its members, and whether it ends before their data do. -/
structure Archive where
  members : List Member
  isCut : Bool := false
deriving Repr, DecidableEq

def filled (size : Nat) : Nat := (size + blockSize - 1) / blockSize * blockSize

/-- The members from some bytes on. Whatever is no header ends the archive. -/
def membersFrom : List UInt8 → Archive
  | [] => ⟨[], false⟩
  | first :: others =>
    let block := (first :: others).take blockSize
    if block.all (· == 0) && block.length = blockSize then ⟨[], false⟩
    else match headerOf block with
      | .error _ => ⟨[], false⟩
      | .ok header =>
        let rest := (first :: others).drop blockSize
        let size := if header.kind.hasData then filled header.size else 0
        let data := rest.take header.size
        let member : Member :=
          ⟨header.name, header.kind, header.target, if data.length = header.size then some data else none⟩
        if rest.length < size then ⟨[member], true⟩
        else
          let behind := membersFrom (rest.drop size)
          { behind with members := member :: behind.members }
termination_by bytes => bytes.length
decreasing_by
  simp only [List.length_drop, blockSize, List.length_cons]
  omega

/-- The archive of a file. The first block must be a header, or zeros. -/
def Archive.ofBytes (bytes : List UInt8) : Except HeaderFault Archive :=
  let block := bytes.take blockSize
  if block.length = blockSize && block.all (· == 0) then .ok ⟨[], false⟩
  else match headerOf block with
    | .error fault => .error fault
    | .ok _ => .ok (membersFrom bytes)

/-- The parts of a path after each pair of dots has taken back the part before it, if there is one. The
    parts before are given last first. -/
def normalParts (isAbsolute : Bool) (before : List String) : List String → List String
  | [] => before.reverse
  | part :: rest =>
    if part ≠ ".." then normalParts isAbsolute (part :: before) rest
    else match before with
      | [] => normalParts isAbsolute (if isAbsolute then [] else [part]) rest
      | last :: others =>
        normalParts isAbsolute (if last = ".." then part :: before else others) rest

def normalized (text : String) : Path :=
  let p := Path.ofText text
  { p with parts := normalParts p.isAbsolute [] p.parts }

/-- What the data of a member are: they are there, they are cut off, there are none, there is no such
    member, or it is a link to a name that is not there. -/
inductive Content where
  | bytes (data : List UInt8)
  | cut
  | none
  | missing (name : String)
  | unlinked (name : String)
deriving Repr, DecidableEq

/-- A name without the slashes at its end, last character first. -/
def bareReversed (reversed : List Char) : List Char := reversed.dropWhile (· == '/')

/-- What stands before the last slash of a name. Only a folder that is nothing but slashes ends in one. -/
def folderOf (name : String) : String :=
  let folder := name.toList.reverse.dropWhile (· ≠ '/')
  let bare := bareReversed folder
  String.ofList (if bare.isEmpty then folder else bare).reverse

/-- The name that a link stands for: that of a symbolic link is seen from where it is. -/
def Member.linkName (m : Member) : String :=
  if m.kind = .symbolicLink then "/".intercalate ([folderOf m.name, m.target].filter (· ≠ ""))
  else m.target

/-- The data of the member at a place. A link has those of the last member with its name; for a hard link
    only members before it count. -/
def Archive.contentAt (a : Archive) : Nat → Nat → Content
  | 0, _ => .none
  | fuel + 1, place =>
    match a.members[place]? with
    | none => .none
    | some m =>
      if m.kind.hasData then m.data.elim .cut .bytes
      else if m.kind = .symbolicLink || m.kind = .hardLink then
        let known := if m.kind = .hardLink then a.members.take place else a.members
        match known.reverse.findIdx? fun other => normalized other.name == normalized m.linkName with
        | some back => a.contentAt fuel (known.length - 1 - back)
        | none => .unlinked m.linkName
      else .none

/-- The data of the last member with a name. Slashes at the end of the name do not count. -/
def Archive.content (a : Archive) (name : String) : Content :=
  let bare := String.ofList (bareReversed name.toList.reverse).reverse
  match a.members.reverse.findIdx? (·.name == bare) with
  | some back => a.contentAt (a.members.length + 1) (a.members.length - 1 - back)
  | none => .missing name

/-- The path of a member without its first parts; nothing if it has no more. -/
def pathWithin? (strip : Nat) (name : String) : Option String :=
  let p := Path.ofText name
  let parts := (if p.isAbsolute then [p.root] else []) ++ p.parts
  if parts.length ≤ strip then none else some ("/".intercalate (parts.drop strip))

end CCompiler.Fixtures
