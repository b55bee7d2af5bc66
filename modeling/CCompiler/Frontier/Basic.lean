import CCompiler.Upkeep.Action

/-!
# The frontier of skipped cases

Cases that the front end does not pass yet are sorted into slices by what they need, and the slices are
ordered by how early that is needed.
-/
namespace CCompiler.Frontier

open Upkeep

/-- Where a case belongs: how early it is needed, what it is about, and which part of the front end it
    needs. -/
structure Bucket where
  layer : String
  family : String
  subsystem : String
deriving Repr, DecidableEq, Inhabited

def stages : List String := ["ok", "lex", "pp", "parse", "sema"]

/-- The stage at the front of a text, at the end of a word. -/
def stageAt? (cs : List Char) : Option String :=
  stages.find? fun stage =>
    ("got " ++ stage).toList.isPrefixOf cs
      && !((cs.drop (4 + stage.length)).head?.any Text.isWordChar)

def actualStage? : List Char → Option String
  | [] => none
  | c :: rest => (stageAt? (c :: rest)) <|> actualStage? rest

def preprocessingHints : List String := ["macro", "include", "pragma", "ifdef", "ifndef", "elif", "define"]

def declaratorHints : List String := ["declar", "storage class", "typedef", "symbol", "lookup"]

def typeHints : List String :=
  ["type", "convert", "conversion", "promotion", "compatib", "cast", "pointer", "array", "enum", "struct",
   "union", "integer"]

def diagnosticHints : List String := ["diagnostic", "warning", "error message", "line ", "column "]

def bucketOf (path reason : String) : Bucket :=
  let path := Text.lower path.toList
  let reason := Text.lower reason.toList
  let text := path ++ ' ' :: reason
  let stage := actualStage? reason
  let hinted (hints : List String) : Bool := hints.any fun hint => Text.occursIn hint.toList text
  if stage = some "lex" then ⟨"P2", "lexing-and-tokens", "lexer"⟩
  else if stage = some "pp" || hinted preprocessingHints then
    ⟨"P2", "macro-and-include-edges", "preprocessor"⟩
  else if hinted declaratorHints then ⟨"P0", "declarators-and-symbol-binding", "parser,sema"⟩
  else if hinted typeHints || stage = some "sema" then ⟨"P0", "types-and-conversions", "sema"⟩
  else if Text.occursIn "diag".toList path || hinted diagnosticHints then
    ⟨"P3", "diagnostic-alignment", "diagnostics"⟩
  else ⟨"P1", "expression-semantics", "parser,sema"⟩

def shownField (case : Json) (name default : String) : String :=
  ((case.get? name).map Json.shown).getD default

def classify (case : Json) : Bucket := bucketOf (shownField case "upstream" "") (shownField case "skip_reason" "")

structure Slice where
  bucket : Bucket
  cases : List String
deriving Repr, DecidableEq

def layerRank (layer : String) : Nat := ([("P0", 0), ("P1", 1), ("P2", 2), ("P3", 3)].lookup layer).getD 99

def dashing (text : String) (isReplaced : Char → Bool) : String :=
  String.ofList (text.toList.map fun c => if isReplaced c then '-' else c)

def Slice.id (s : Slice) : String :=
  "clang-" ++ String.ofList (Text.lower s.bucket.layer.toList) ++ "-"
    ++ dashing s.bucket.family (· == '_') ++ "-" ++ dashing s.bucket.subsystem fun c => c == ',' || c == '/'

def Slice.json (s : Slice) : Json :=
  .object [("slice_id", .string s.id), ("layer", .string s.bucket.layer),
    ("family", .string s.bucket.family), ("subsystem", .string s.bucket.subsystem),
    ("count", .int (s.cases.length : Nat)), ("case_ids", .ofTexts s.cases)]

def addCase (slices : List Slice) (bucket : Bucket) (id : String) : List Slice :=
  if slices.any (·.bucket == bucket) then
    slices.map fun s => if s.bucket == bucket then { s with cases := s.cases ++ [id] } else s
  else slices ++ [⟨bucket, [id]⟩]

def isObject : Json → Bool
  | .object _ => true
  | _ => false

def isSkipped (case : Json) : Bool := (case.field "skip_reason").string?.isSome

/-- Whether a slice comes before another: by layer, then the larger first, then by identifier. -/
def Slice.before (a b : Slice) : Bool :=
  let rank (s : Slice) : Nat := layerRank s.bucket.layer
  rank a < rank b || (rank a = rank b &&
    (a.cases.length > b.cases.length || (a.cases.length = b.cases.length && a.id ≤ b.id)))

def build (cases : List Json) : List Slice :=
  let slices := (cases.filter fun c => isObject c && isSkipped c).foldl
    (fun slices c => addCase slices (classify c) (shownField c "id" "<missing-id>")) []
  (slices.map fun s => { s with cases := s.cases.mergeSort }).mergeSort Slice.before

/-- What a value consists of, one after the other: items, names of fields, or characters. -/
def elements : Json → Except Failure (List Json)
  | .array items => .ok items
  | .object fields => .ok (fields.map fun (name, _) => .string name)
  | .string s => .ok (s.toList.map fun c => .string c.toString)
  | j => .error (.notIterable j.kindName)

def casesOf : Json → Except Failure (List Json)
  | .object fields => elements ((fields.lookup "cases").getD (.array []))
  | j => .error (.noMethod j.kindName "get")

def defaultManifest : Path := repository.join ⟨"", ["tests", "external", "clang", "manifest.json"]⟩

def ofManifest (path : Path) : Action (List Slice) := do return build (← casesOf (← readJson path))

def skippedCases (path : Path) : Action (List Json) := do
  let cases ← casesOf (← readJson path)
  match cases.find? (!isObject ·) with
  | some j => throw (.noMethod j.kindName "get")
  | none => return cases.filter isSkipped

/-- The first items up to a limit; a negative one counts from the end. -/
def limited {β : Type} (items : List β) (limit : Int) : List β :=
  if 0 ≤ limit then items.take limit.toNat else items.take (items.length - limit.natAbs)

open Arguments in
def usage : Usage := ⟨[⟨["--manifest"], "manifest", .any⟩, ⟨["--limit"], "limit", .integer⟩], []⟩

def tool (argv : List String) : Action Int :=
  withArguments (Arguments.readExactly usage argv) fun m => do
    let slices ← ofManifest (pathOption m "manifest" defaultManifest)
    let limit := ((m.value? "limit").bind fun s => Text.readInteger? 10 s.toList).getD 20
    printLine ((Json.ofList Slice.json (limited slices limit)).render .tree)
    return 0

end CCompiler.Frontier
