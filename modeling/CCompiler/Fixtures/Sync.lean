import CCompiler.Compile.Source
import CCompiler.Upkeep.Action
import CCompiler.Fixtures.Archive

/-!
# Fixtures

The front end runs on the text of a case. The result is the stage that refuses it, with its message, or
that it passes.

The manifest says from which archive the cases of the suite come, and lists the cases. Whatever else
stands in it is kept.

The fixtures of the suite are written from an archive with a known digest, compared with it, or taken
over from it all anew.
-/
namespace CCompiler.Fixtures

open Upkeep

def lexicalWord : LexError → String
  | .at .. => "lexererror"
  | .noValue _ => "valueerror"

def numberWord : NumberFault → String
  | .malformed .. | .tooManyDigits _ | .unwritable => "valueerror"
  | .noRoom => "memoryerror"
  | .uncountable => "overflowerror"

def analysisWord : Analysis.Failure → String
  | .meaning _ => "semaerror"
  | .number fault | .escape (.digits fault) => numberWord fault
  | .escape .pastEnd => "indexerror"
  | .unnamedRecord => "typeerror"
  | .notFunction => "assertionerror"
  | .cyclic | .tooDeep => "recursionerror"

/-- The word for a failure: the stage that refuses the source, or the kind of a failure that has no
    diagnostic. -/
def failureWord : CompileFailure → String
  | .refused diagnostic => diagnostic.stage.name
  | .preprocessing (.lexical error) => lexicalWord error
  | .preprocessing (.number fault) | .grammar (.number fault) => numberWord fault
  | .preprocessing (.garbled _) => "unicodedecodeerror"
  | .preprocessing _ => "recursionerror"
  | .lexical error => lexicalWord error
  | .grammar .namelessParameter => "assertionerror"
  | .grammar _ => "recursionerror"
  | .analysis failure => analysisWord failure

def failureDetail : CompileFailure → String
  | .refused diagnostic => diagnostic.message
  | failure => failure.message

def contentOf (bytes : List UInt8) : FileContent :=
  match Text.decode bytes with
  | .ok cs => .text (String.ofList cs)
  | .error fault => .garbled fault

def textsOf (disk : Disk) : Files :=
  disk.files.map fun (path, bytes) => (path, bytes.elim .locked contentOf)

/-- The result of a case: a word, and what is said about it. -/
structure Evaluation where
  word : String
  detail : Option String
deriving Repr, DecidableEq

/-- Evaluates the bytes of a case in a world. The alarm goes off before the front end is done, or
    never. -/
def evaluate (world : World) (alarm : Bool) (bytes : List UInt8) (fixture standard : String) : Evaluation :=
  match Text.decode bytes with
  | .error fault => ⟨"decode-error", some ("utf-8 decode failed: " ++ fault.reason.text)⟩
  | .ok source =>
    if alarm then ⟨"timeout", some "fixture exceeded 2.0s"⟩
    else match Options.named standard "human" with
      | .error fault => ⟨"valueerror", some fault.message⟩
      | .ok (standard, _) =>
        let setting : Preprocess.Setting := ⟨{ standard }, world⟩
        let file := (repository.join (Path.ofText fixture)).text
        match Compilation.ofSource setting (String.ofList source) file with
        | .ok _ => ⟨"ok", none⟩
        | .error failure => ⟨failureWord failure, some (failureDetail failure)⟩

/-- The expectation of the bytes of a case; bytes that are no text are expected to pass. -/
def expectationOf (bytes : List UInt8) : String :=
  match Text.decode bytes with
  | .ok source => Suite.expectation (String.ofList source)
  | .error _ => "ok"

/-- The world in which cases are evaluated: its files are those on the disk. -/
def caseWorld : Action World := do
  return { (← read).world with files := textsOf (← get).disk }

def evaluateCase (bytes : List UInt8) (fixture standard : String) : Action Evaluation := do
  return evaluate (← caseWorld) (← read).alarm bytes fixture standard

/-! ## 1. The manifest -/

/-- A case: its identifier, its path in the suite, that of its fixture, the digest of its text, and all its
    fields. -/
structure Case where
  id : String
  path : String
  fixture : String
  digest : String
  fields : List (String × Json)

/-- Where the suite comes from: the name, the place and the digest of the archive, and how many parts the
    paths of its members have in front of those of the suite. -/
structure Release where
  archive : String
  url : String
  digest : String
  strip : Nat
deriving Repr, DecidableEq

/-- A manifest with all its fields. -/
structure Manifest where
  release : Release
  cases : List Case
  fields : List (String × Json)

def isSuitePath (path : String) : Bool := "clang/test/".toList.isPrefixOf path.toList

def Case.isExternal (c : Case) : Bool := isSuitePath c.path

def Case.withDigest (c : Case) (digest : String) : Case :=
  { c with digest, fields := Json.putField "sha256" (.string digest) c.fields }

def checkRelative (field value : String) : Except Cause Unit :=
  let p := Path.ofText value
  if p.isAbsolute || p.parts.contains ".." then .error (.relativePath field value) else .ok ()

def filledText (cause : Cause) : Json → Except Cause String
  | .string s => if s = "" then .error cause else .ok s
  | _ => .error cause

/-- A count that is not negative. A truth value counts as one or nothing. -/
def stripCount : Json → Except Cause Nat
  | .int n => if n < 0 then .error .stripCount else .ok n.toNat
  | .bool b => .ok (if b then 1 else 0)
  | _ => .error .stripCount

def releaseOf : Json → Except Cause Release
  | .object fields => do
    let text (key : String) : Except Cause String :=
      filledText (.sourceField key) ((fields.lookup key).getD .null)
    let _ ← text "repository"
    let _ ← text "release_tag"
    let url ← text "archive_url"
    let archive ← text "archive_name"
    let digest ← text "archive_sha256"
    let _ ← text "license"
    let strip ← stripCount ((fields.lookup "strip_components").getD .null)
    return { archive, url, digest, strip }
  | _ => .error .noSource

def caseOf : Json → Except Cause Case
  | .object fields => do
    let text (key : String) : Except Cause String :=
      filledText (.caseField key) ((fields.lookup key).getD .null)
    let id ← text "id"
    let path ← text "upstream"
    let fixture ← text "fixture"
    let _ ← text "expect"
    let digest ← text "sha256"
    checkRelative "upstream" path
    checkRelative "fixture" fixture
    return { id, path, fixture, digest, fields }
  | _ => .error .caseObject

def manifestOf (fields : List (String × Json)) : Except Cause Manifest := do
  let release ← releaseOf ((fields.lookup "upstream").getD .null)
  match (fields.lookup "cases").getD .null with
  | .array cases => return { release, cases := ← cases.mapM caseOf, fields }
  | _ => throw .caseList

def readManifest (path : Path) : Action Manifest := do
  match ← readJson path with
  | .object fields =>
    match manifestOf fields with
    | .ok manifest => return manifest
    | .error cause => refuse cause
  | j => throw (.noMethod j.kindName "get")

def Manifest.json (m : Manifest) : Json :=
  .object (Json.putField "cases" (.ofList (fun c => .object c.fields) m.cases) m.fields)

def Manifest.write (m : Manifest) (path : Path) : Action Unit :=
  writeText path (m.json.render .tree ++ "\n")

/-! ## 2. The archive -/

/-- The path of a fixture in the repository; it must not lead out of it. -/
def fixtureAt (id fixture : String) : Except Cause Path :=
  let path := (repository.join (Path.ofText fixture)).resolve
  if (path.relativeTo? repository.resolve).isSome then .ok path else .error (.escapingFixture id)

def Case.fixturePath (c : Case) : Action Path := do
  match fixtureAt c.id c.fixture with
  | .ok path => return path
  | .error cause => refuse cause

def digestOf (path : Path) : Action String := do
  return Digest.Sha256.hexDigest (← onDisk (·.read path))

/-- Fetches a file from elsewhere. There is no way out from here, so only the file that would take it is
    made. -/
def fetch (destination : Path) : Action Unit := do
  makeDir destination.parent
  changeDisk (·.write (destination.parent.join (Path.ofText (destination.name ++ ".tmp.part"))) [])
  throw .network

def keptArchive (release : Release) (cache : Path) (force : Bool) : Action (Path × Bool) := do
  let path := (cache.join (Path.ofText release.archive)).resolve
  let isThere := (← get).disk.isFile path
  if !force && isThere then
    if (← digestOf path) = release.digest then return (path, true)
  if isThere then changeDisk (·.remove path)
  printLine s!"downloading {release.url}"
  fetch path
  return (path, false)

/-- The path of the archive; its digest must be that of the release. -/
def ensureArchive (release : Release) (cache : Path) (given : Option Path) (force : Bool) : Action Path := do
  let (path, isChecked) ← match given with
    | some given =>
      let path := given.resolve
      if !(← get).disk.isFile path then refuse (.noArchive path.text)
      pure (path, false)
    | none => keptArchive release cache force
  if !isChecked then
    let digest ← digestOf path
    if digest ≠ release.digest then refuse (.archiveDigest release.digest digest path.text)
  return path

/-- Why a file is no archive: what each way to open it says. -/
def openFailure (fault : HeaderFault) : String :=
  let packed := if fault = .empty then "empty file" else "not a gzip file"
  s!"file could not be opened successfully:\n- method gz: ReadError('{packed}')\n"
    ++ "- method bz2: ReadError('not a bzip2 file')\n- method xz: ReadError('not an lzma file')\n"
    ++ s!"- method tar: ReadError('{fault.message}')"

def openArchive (path : Path) : Action Archive := do
  match Archive.ofBytes (← onDisk (·.read path)) with
  | .ok archive => return archive
  | .error fault => throw (.unreadableArchive (openFailure fault))

def cutFailure : Failure := .unreadableArchive "unexpected end of data"

def dataOf : Content → Action (Option (List UInt8))
  | .bytes data => return some data
  | .cut => throw cutFailure
  | .none => return none
  | .missing name => throw (.missingKey ("filename " ++ Text.quoted name ++ " not found"))
  | .unlinked name => throw (.missingKey ("linkname " ++ Text.quoted name ++ " not found"))

/-- Does an action on each file of an archive with its path in the suite. -/
def forFiles {β : Type} (archive : Archive) (strip : Nat) (start : β)
    (action : β → String → Member → Action β) : Action β := do
  let step (state : β) (m : Member) : Action β :=
    match if m.kind = .file then pathWithin? strip m.name else none with
    | some path => action state path m
    | none => return state
  let state ← archive.members.foldlM step start
  if archive.isCut then throw cutFailure
  return state

def fileData (m : Member) : Action (List UInt8) :=
  match m.data with
  | some data => return data
  | none => throw cutFailure

/-! ## 3. Writing and checking fixtures -/

def placeOf? (cases : List Case) (path : String) : Option Nat :=
  (cases.reverse.findIdx? fun c => c.isExternal && c.path == path).map (cases.length - 1 - ·)

/-- What has been written: the cases with their digests, whether one has another digest now, the paths that
    the archive has, and the fixtures. -/
structure Written where
  cases : List Case
  isChanged : Bool := false
  found : List String := []
  fixtures : List Path := []

/-- Writes the fixture of a case with data from the archive. -/
def writeFixture (update : Bool) (w : Written) (path : String) (m : Member) : Action Written := do
  match placeOf? w.cases path with
  | none => return w
  | some place =>
    match w.cases[place]? with
    | none => return w
    | some c =>
      let data ← fileData m
      let fixture ← c.fixturePath
      makeDir fixture.parent
      let digest := Digest.Sha256.hexDigest data
      let isNew := c.digest ≠ digest
      if isNew && !update then refuse (.caseDigest c.id c.digest digest)
      let disk := (← get).disk
      if !disk.isFile fixture then changeDisk (·.write fixture data)
      else if (← onDisk (·.read fixture)) ≠ data then changeDisk (·.write fixture data)
      return { cases := if isNew then w.cases.set place (c.withDigest digest) else w.cases
               isChanged := w.isChanged || isNew
               found := path :: w.found
               fixtures := fixture :: w.fixtures }

def generatedDir : Path := repository.join (Path.ofText (String.ofList Suite.fixtureRoot))

/-- The disk with only some files below a directory, and no directory below it that holds none. -/
def cleaned (disk : Disk) (dir : Path) (keep : List Path) : Disk :=
  let disk := (disk.filesBelow dir).foldl (fun d p => if keep.contains p then d else d.erase p) disk
  (disk.dirsBelow dir).foldl (fun d p => if (disk.filesBelow p).isEmpty then d.removeDir p else d) disk

def materialize (manifest : Manifest) (archivePath : Path) (update clean : Bool) (path : Path) : Action Unit := do
  let archive ← openArchive archivePath
  let w ← forFiles archive manifest.release.strip { cases := manifest.cases } (writeFixture update)
  let missing : List String :=
    (manifest.cases.filter fun c => c.isExternal && !w.found.contains c.path).map (·.path)
  let ordered : List String := missing.mergeSort
  match ordered with
  | first :: _ =>
    let id := ((placeOf? w.cases first).bind (w.cases[·]?)).elim "" (·.id)
    refuse (.archiveMember id first)
  | [] => pure ()
  if clean && (← get).disk.isDir generatedDir then
    modify fun s => { s with disk := cleaned s.disk generatedDir w.fixtures }
  if w.isChanged then
    Manifest.write { manifest with cases := w.cases } path
    printLine "updated manifest checksums for external fixtures"

/-- What has been checked: what is wrong, and the cases from the suite whose fixtures have the right
    digest, with their data. -/
structure Checked where
  faults : List String := []
  cases : List (Case × List UInt8) := []
  found : List String := []

def checkFixture (k : Checked) (c : Case) : Action Checked := do
  let fixture ← c.fixturePath
  if !(← get).disk.isFile fixture then
    return { k with faults := k.faults ++ ["missing fixture: " ++ fixture.text] }
  let data ← onDisk (·.read fixture)
  if Digest.Sha256.hexDigest data ≠ c.digest then
    return { k with faults := k.faults ++ ["checksum mismatch: " ++ c.id] }
  return if c.isExternal then { k with cases := (c, data) :: k.cases } else k

def compareFixture (k : Checked) (path : String) (m : Member) : Action Checked := do
  match k.cases.find? (·.1.path == path) with
  | none => return k
  | some (c, data) =>
    let k := { k with found := path :: k.found }
    if (← fileData m) ≠ data then
      return { k with faults := k.faults ++ ["content mismatch: " ++ c.id] }
    return k

def check (manifest : Manifest) (archivePath : Path) : Action Int := do
  let k ← manifest.cases.foldlM checkFixture {}
  let archive ← openArchive archivePath
  let k ← forFiles archive manifest.release.strip k compareFixture
  let paths := ((k.cases.map (·.1.path)).eraseDups.filter (!k.found.contains ·)).mergeSort
  let missing := paths.map fun path =>
    let id := (k.cases.find? (·.1.path == path)).elim "" (·.1.id)
    (Cause.archiveMember id path).message
  let faults := k.faults ++ missing
  if faults.isEmpty then
    printLine s!"clang fixtures check passed for {manifest.cases.length} cases"
    return 0
  for fault in faults do
    printLine fault
  return 1

/-! ## 4. Taking over the whole suite -/

/-- The files of an archive by their paths in the suite, each with the name of its member; of two with one
    path the later counts. -/
def memberNames (archive : Archive) (strip : Nat) : List (String × String) :=
  let add (names : List (String × String)) (m : Member) : List (String × String) :=
    match if m.kind = .file then pathWithin? strip m.name else none with
    | some path => (path, m.name) :: names.filter (·.1 != path)
    | none => names
  archive.members.foldl add []

/-- Counts of cases: all, those that meet their expectation, and the others. -/
structure Counts where
  total : Nat := 0
  active : Nat := 0
  skipped : Nat := 0
deriving Repr, DecidableEq

def orNotBelow {β : Type} : Except Suite.NotBelow β → Action β
  | .ok x => return x
  | .error fault => refuse (.notBelow fault)

def takeOver (archive : Archive) (world : World) (standard : String) (done : List Case × Counts)
    (entry : String × String) : Action (List Case × Counts) := do
  let (path, name) := entry
  let (cases, counts) := done
  let counts := { counts with total := counts.total + 1 }
  if counts.total % 250 = 0 then
    printLine (s!"baselining clang fixtures: {counts.total} cases scanned, {counts.active} active, "
      ++ s!"{counts.skipped} skipped")
  match ← dataOf (archive.content name) with
  | none => refuse (.unreadableMember path name)
  | some data =>
    let fixture ← orNotBelow (Suite.fixturePath path)
    let result := evaluate world (← read).alarm data fixture standard
    let expected := expectationOf data
    let id ← orNotBelow (Suite.caseId path)
    let digest := Digest.Sha256.hexDigest data
    let fields : List (String × Json) := [("id", .string id), ("upstream", .string path),
      ("fixture", .string fixture), ("expect", .string expected), ("sha256", .string digest)]
    if Suite.meets expected result.word then
      return (cases ++ [{ id, path, fixture, digest, fields }], { counts with active := counts.active + 1 })
    else
      let reason := Suite.skipReason expected result.word result.detail
      let fields := fields ++ [("skip_reason", .string reason)]
      return (cases ++ [{ id, path, fixture, digest, fields }], { counts with skipped := counts.skipped + 1 })

/-- Makes the manifest anew from all cases of an archive, and writes their fixtures. -/
def rebuild (manifest : Manifest) (archivePath path : Path) (standard : String) : Action Int := do
  let archive ← openArchive archivePath
  if archive.isCut then throw cutFailure
  let names := (memberNames archive manifest.release.strip).filter fun (path, _) => Suite.isCasePath path
  let names := names.mergeSort fun x y => x.1 ≤ y.1
  let (cases, counts) ← names.foldlM (takeOver archive (← caseWorld) standard) ([], {})
  let release := (manifest.fields.lookup "upstream").getD .null
  let manifest : Manifest :=
    { manifest with cases, fields := [("upstream", release), ("cases", .array [])] }
  manifest.write path
  materialize manifest archivePath false true path
  printLine (s!"rewrote clang manifest from scratch: {counts.total} cases, {counts.active} active, "
    ++ s!"{counts.skipped} skipped")
  return 0

/-! ## 5. The tool -/

open Arguments in
def usage : Usage :=
  ⟨[⟨["--manifest"], "manifest", .any⟩, ⟨["--cache-dir"], "cache", .any⟩,
    ⟨["--archive-path"], "archive", .any⟩, ⟨["--force-download"], "force", .nothing⟩,
    ⟨["--check"], "check", .nothing⟩, ⟨["--update-sha"], "update", .nothing⟩,
    ⟨["--clean-external"], "clean", .nothing⟩,
    ⟨["--rebuild-full-suite-baseline"], "rebuild", .nothing⟩,
    ⟨["--std"], "standard", .oneOf ["c11", "gnu11"]⟩], []⟩

def defaultManifest : Path := repository.join (Path.ofText "tests/external/clang/manifest.json")

def defaultCache : Path := repository.join (Path.ofText ".cache/external-artifacts")

def run (m : Arguments.Matched) : Action Int := do
  let all := "--rebuild-full-suite-baseline"
  if m.has "check" && m.has "rebuild" then refuse (.options "--check" all)
  if m.has "update" && m.has "rebuild" then refuse (.options "--update-sha" all)
  let path := (pathOption m "manifest" defaultManifest).resolve
  let manifest ← readManifest path
  let cache := (pathOption m "cache" defaultCache).resolve
  let archive ← ensureArchive manifest.release cache ((m.value? "archive").map Path.ofText) (m.has "force")
  if m.has "rebuild" then rebuild manifest archive path ((m.value? "standard").getD "c11")
  else if m.has "check" then check manifest archive
  else
    materialize manifest archive (m.has "update") (m.has "clean") path
    let count := (manifest.cases.filter Case.isExternal).length
    match Location.host manifest.release.url with
    | .ok host => printLine s!"materialized {count} external fixtures from {host}"
    | .error fault => refuse (.location fault)
    return 0

def tool (argv : List String) : Action Int := withArguments (Arguments.readExactly usage argv) run

end CCompiler.Fixtures
