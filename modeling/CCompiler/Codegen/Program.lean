import CCompiler.Codegen.Statement
import CCompiler.Compile.Source

/-!
# Programs

The generator refuses a source that has a word for assembler anywhere outside comments and literals, also
in a part that preprocessing leaves out.

The assembly of a source: its objects, its functions in order, and the strings that they use.
-/
namespace CCompiler.Codegen

open Text (isLetter isWordChar)

/-- Where a character of a source stands: in plain text, behind a slash, in a comment, behind a star in
    one, in a literal, behind a backslash in one, in a word, or behind a word for assembler. -/
inductive Region where
  | plain
  | slash
  | lineComment
  | blockComment
  | star
  | literal (quote : Char)
  | backslash (quote : Char)
  | word (front : List Char)
  | found
deriving Repr, DecidableEq

namespace Region

/-- The region behind a character of plain text. -/
def start (c : Char) : Region :=
  if c == '/' then .slash
  else if c == '"' || c == '\'' then .literal c
  else if c == '_' || isLetter c then .word [c]
  else .plain

def isAssembler (word : List Char) : Bool := Preprocess.assemblerWords.contains word

def step : Region → Char → Region
  | .plain, c => start c
  | .slash, c => if c == '/' then .lineComment else if c == '*' then .blockComment else start c
  | .lineComment, c => if c == '\n' then .plain else .lineComment
  | .blockComment, c => if c == '*' then .star else .blockComment
  | .star, c => if c == '/' then .plain else if c == '*' then .star else .blockComment
  | .literal quote, c =>
    if c == '\\' then .backslash quote else if c == quote then .plain else .literal quote
  | .backslash quote, _ => .literal quote
  | .word front, c =>
    if isWordChar c then .word (front ++ [c])
    else if isAssembler front then .found
    else start c
  | .found, _ => .found

/-- Whether a source that ends in a region has a word for assembler. -/
def hasAssembler : Region → Bool
  | .word front => isAssembler front
  | .found => true
  | _ => false

end Region

def mentionsAssembler (source : List Char) : Bool := (source.foldl Region.step .plain).hasAssembler

open Machine (Line Instr)

/-- What a parameter is called where its type is refused: its name, or its place. -/
def paramLabel (p : Param NodeId) (index : Nat) : String := p.name.getD s!"parameter {index}"

/-- The function that a declaration makes known to calls. -/
def calleeOf (f : FunctionDef NodeId) : Except Failure Callee := do
  if f.storage.isSome then refuse (.functionStorage f.name)
  if f.isThreadLocal || f.isInline || f.isNoreturn || f.isOverloadable then
    refuse (.functionAttributes f.name)
  if f.isVariadic then refuse (.variadicFunction f.name)
  let returnType ← resultType f
  let params ← (f.params.zipIdx 1).mapM fun (p, i) => objectType (.paramType (paramLabel p i)) p.type
  return { returnType, params }

/-- Adds an object. One that is declared again keeps its place. -/
def addObject (objects : List GlobalObject) (object : GlobalObject) : List GlobalObject :=
  if objects.any (·.name == object.name) then
    objects.map fun o => if o.name == object.name then object else o
  else objects ++ [object]

def objectOf (type : TypeSpec NodeId) (name : String) (init : Option (Initializer NodeId))
    (storage : Option StorageClass) (isThreadLocal : Bool) : Except Failure GlobalObject := do
  if !(storage == none || storage == some .extern_) || isThreadLocal then refuse (.globalStorage name)
  let init ← match init with
    | none => pure none
    | some (.expr e) => pure (some e)
    | some (.list _) => refuse (.aggregate name)
  return { name, type := ← objectType (.object name) type, init, isExtern := storage == some .extern_ }

mutual

def collectDeclaration (objects : List GlobalObject) : Stmt NodeId → Except Failure (List GlobalObject)
  | .group declarations => collectDeclarations objects declarations
  | .typedef .. | .staticAssert .. => .ok objects
  | .declaration _ none _ _ _ _ => .ok objects
  | .declaration type (some name) init _ storage isThreadLocal => do
    return addObject objects (← objectOf type name init storage isThreadLocal)
  | s => refuse (.declaration s.kindName)

def collectDeclarations (objects : List GlobalObject) : List (Stmt NodeId) → Except Failure (List GlobalObject)
  | [] => .ok objects
  | s :: rest => do collectDeclarations (← collectDeclaration objects s) rest

end

/-- Adds what a declaration at file scope makes known. The last declaration of a function counts. -/
def collect (scene : Scene) : External NodeId → Except Failure Scene
  | .function f => do
    return { scene with functions := (f.name, ← calleeOf f) :: scene.functions }
  | .declaration s => do return { scene with globals := ← collectDeclaration scene.globals s }

def objectCode (typeOf : NodeId → Option CType) (object : GlobalObject) : Except Failure Code := do
  let w ← widthOf object.type
  let value ← match object.init with
    | none => pure (Line.zero w.bytes)
    | some e => do
      let n ← initializerValue typeOf e
      pure (.value w (← (Number.writable n).mapError .number))
  let exponent := if w = .long then 3 else 2
  return [.global object.name, .align exponent, .symbol object.name, value]

def objectsCode (scene : Scene) : Except Failure Code := do
  let defined := scene.globals.filter (!·.isExtern)
  if defined.isEmpty then return []
  return .data :: (← defined.mapM (objectCode scene.typeOf)).flatten

def functionCode (f : FunctionDef NodeId) (body : List (Stmt NodeId)) : Gen Code := do
  let layout ← Layout.ofFunction f body
  modify fun s => { s with scopes := [layout.params], pending := layout.locals }
  let exit ← Gen.newLabel "return"
  let returnType ← resultType f
  let stores ← (layout.params.zipIdx).mapM fun ((_, slot), i) => storeSlotCode slot i
  let code ← stmtCode { exit, returnType } (.compound body)
  let isEmpty := layout.frameSize = 0
  let grow := if isEmpty then [] else instrs [.growStack layout.frameSize]
  let shrink := if isEmpty then [] else instrs [.shrinkStack layout.frameSize]
  return [.global f.name, .align 2, .symbol f.name] ++ instrs [.enter, .setFrame] ++ grow ++
    stores.flatten ++ code ++ [.label exit] ++ shrink ++ instrs [.leave, .ret]

def functionsCode : List (External NodeId) → Gen Code
  | [] => return []
  | .function f :: rest =>
    match f.body with
    | none => functionsCode rest
    | some body => do
      let code ← functionCode f body
      return code ++ (← functionsCode rest)
  | .declaration _ :: rest => functionsCode rest

def stringsCode (strings : List (String × Machine.Label)) : Code :=
  if strings.isEmpty then []
  else .strings :: strings.flatMap fun (lexeme, l) => [.label l, .asciz (assemblyString lexeme)]

def programCode (typeOf : NodeId → Option CType) (unit : SourceUnit NodeId) : Except Failure Code := do
  let scene ← unit.externals.foldlM collect { typeOf }
  let objects ← objectsCode scene
  let (functions, state) ← ((functionsCode unit.externals).run scene).run {}
  return objects ++ [.text] ++ functions ++ stringsCode state.strings

end CCompiler.Codegen

namespace CCompiler

def Platform.hasGenerator (p : Platform) : Bool := p.system == "Darwin" && p.machine == "arm64"

def Codegen.Cause.diagnostic (cause : Codegen.Cause) (file : String) : Diagnostic :=
  ⟨.generation, file, cause.message, none, cause.code⟩

/-- The assembly of a source that the front end accepted. -/
def Compilation.assembly (c : Compilation) (platform : Platform) : Except Codegen.Failure String := do
  if !platform.hasGenerator then Codegen.refuse .platform
  if Codegen.mentionsAssembler c.source.toList then Codegen.refuse .assembler
  return Machine.render (← Codegen.programCode (c.analysis.types[·]?) c.unit)

end CCompiler
