import CCompiler.Json.Basic
import CCompiler.Syntax.Basic

/-!
# Syntax trees as JSON

A tree is written as an object with the name of its kind and its parts. Parts that say nothing (nothing
at all, false, an empty list) are left out; in arrays everything stays. Notes are not written. What does not
make two trees different (the operand of `typeof`, the target of an atomic type, source positions) is written
in full only.

Two trees are alike if they are written alike, but for what is written in full only. Such a text serves as a
key; a tree that holds a call or a block has none.
-/
namespace CCompiler

/-- Whether a part says something. -/
def Json.isTelling : Json → Bool
  | .null => false
  | .bool b => b
  | .array items => !items.isEmpty
  | _ => true

def Json.node (name : String) (fields : List (String × Json)) : Json :=
  .object (("node", .string name) :: fields.filter fun field => field.2.isTelling)

def Json.ofText? : Option String → Json := Json.ofOption .string

def Json.ofInt? : Option Int → Json := Json.ofOption .int

def Json.ofStorage? : Option StorageClass → Json := Json.ofOption fun c => .string c.keyword

def Json.ofBound (length : Json) (qualifiers : List String) (isStatic : Bool) : Json :=
  .node "ArrayDecl" [("length", length), ("qualifiers", .ofTexts qualifiers),
    ("has_static_bound", .bool isStatic)]

variable {α : Type}

section Trees

variable (full : Bool)

/-- What is written in full only. -/
def Json.inFull (j : Json) : Json := if full then j else .null

mutual

def Expr.json : Expr α → Json
  | .int _ t => .node "IntLiteral" [("value", .string t)]
  | .float _ t => .node "FloatLiteral" [("value", .string t)]
  | .char _ t => .node "CharLiteral" [("value", .string t)]
  | .string _ t => .node "StringLiteral" [("value", .string t)]
  | .ident _ n => .node "Identifier" [("name", .string n)]
  | .labelAddress _ l => .node "LabelAddressExpr" [("label", .string l)]
  | .unary _ op x => .node "UnaryExpr" [("op", .string op.text), ("operand", x.json)]
  | .update _ op x isPostfix => .node "UpdateExpr" [("op", .string op.text), ("operand", x.json),
      ("is_postfix", .bool isPostfix)]
  | .binary _ op l r =>
    .node "BinaryExpr" [("op", .string op.text), ("left", l.json), ("right", r.json)]
  | .assign _ op l r =>
    .node "AssignExpr" [("op", .string op.text), ("target", l.json), ("value", r.json)]
  | .conditional _ c t e => .node "ConditionalExpr" [("condition", c.json), ("then_expr", t.json),
      ("else_expr", e.json)]
  | .comma _ l r => .node "CommaExpr" [("left", l.json), ("right", r.json)]
  | .call _ f args => .node "CallExpr" [("callee", f.json), ("args", .array (args.map (·.json)))]
  | .subscript _ b i => .node "SubscriptExpr" [("base", b.json), ("index", i.json)]
  | .member _ b m through => .node "MemberExpr" [("base", b.json), ("member", .string m),
      ("through_pointer", .bool through)]
  | .sizeofExpr _ x => .node "SizeofExpr" [("expr", x.json)]
  | .sizeofType _ t => .node "SizeofExpr" [("type_spec", t.json)]
  | .alignofExpr _ x => .node "AlignofExpr" [("expr", x.json)]
  | .alignofType _ t => .node "AlignofExpr" [("type_spec", t.json)]
  | .offsetof _ t m => .node "BuiltinOffsetofExpr" [("type_spec", t.json), ("member", .string m)]
  | .cast _ t x => .node "CastExpr" [("type_spec", t.json), ("expr", x.json)]
  | .compoundLiteral _ t items => .node "CompoundLiteralExpr" [("type_spec", t.json),
      ("initializer", .node "InitList" [("items", .array (items.map (·.json)))])]
  | .statements _ body =>
    .node "StatementExpr" [("body", .node "CompoundStmt" [("statements", .array (body.map (·.json)))])]
  | .generic _ c associations locations => .node "GenericExpr" [("control", c.json),
      ("associations", .array (associations.map (·.json))),
      ("association_source_locations", .inFull full (.ofList (fun (line, column) =>
        .array [.ofInt? line, .ofInt? column]) locations))]
  | .unknown _ name => .node name []

def Association.json : Association α → Json
  | .typed t e => .array [t.json, e.json]
  | .default e => .array [.null, e.json]

def TypeSpec.json : TypeSpec α → Json
  | ⟨_, base, ops, qualifiers, isAtomic, target, line, column⟩ =>
    .node "TypeSpec" ([("name", .string base.name), ("declarator_ops", .array (ops.map (·.json))),
      ("qualifiers", .ofTexts qualifiers), ("is_atomic", .bool isAtomic),
      ("atomic_target", .inFull full (jsonTypeOption target)), ("source_line", .inFull full (.ofInt? line)),
      ("source_column", .inFull full (.ofInt? column))] ++ base.jsonFields)

/-- The parts of what a type specifier names. -/
def TypeBase.jsonFields : TypeBase α → List (String × Json)
  | .named _ => []
  | .enum tag members =>
    [("enum_tag", .ofText? tag), ("enum_members", .array (members.map (·.json)))]
  | .record _ tag members hasBody =>
    [("record_tag", .ofText? tag), ("record_members", .array (members.map (·.json))),
      ("has_record_body", .bool hasBody)]
  | .typeof e => [("typeof_expr", .inFull full e.json)]
decreasing_by all_goals first | decreasing_tactic | have := List.sizeOf_lt_of_mem ‹_›; simp; omega

def Enumerator.json : Enumerator α → Json
  | ⟨name, value⟩ => .array [.string name, jsonExprOption value]

def MemberDecl.json : MemberDecl α → Json
  | ⟨type, name, alignment, bitWidth⟩ =>
    .node "RecordMemberDecl" [("type_spec", type.json), ("name", .ofText? name),
      ("alignment", .ofInt? alignment), ("bit_width_expr", jsonExprOption bitWidth)]

def DeclOp.json : DeclOp α → Json
  | .pointer => .array [.string "ptr", .int 0]
  | .array bound => .array [.string "arr", bound.json]
  | .unprototyped isVariadic => .array [.string "fn", .array [.null, .bool isVariadic]]
  | .function params isVariadic =>
    .array [.string "fn", .array [.array (params.map (·.json)), .bool isVariadic]]
decreasing_by all_goals first | decreasing_tactic | have := List.sizeOf_lt_of_mem ‹_›; simp; omega

def ArrayBound.json : ArrayBound α → Json
  | .length n => .int n
  | .unsized qualifiers isStatic => .ofBound .null qualifiers isStatic
  | .constant n qualifiers isStatic => .ofBound (.int n) qualifiers isStatic
  | .sized e qualifiers isStatic => .ofBound e.json qualifiers isStatic

def Initializer.json : Initializer α → Json
  | .expr e => e.json
  | .list items => .node "InitList" [("items", .array (items.map (·.json)))]

def InitItem.json : InitItem α → Json
  | ⟨designators, value⟩ =>
    .node "InitItem" [("designators", .array (designators.map (·.json))), ("initializer", value.json)]

def Designator.json : Designator α → Json
  | .member n => .array [.string "member", .string n]
  | .index e => .array [.string "index", e.json]
  | .range l h =>
    .array [.string "range", .node "DesignatorRange" [("low", l.json), ("high", h.json)]]

def Stmt.json : Stmt α → Json
  | .compound items => .node "CompoundStmt" [("statements", .array (items.map (·.json)))]
  | .ifElse c t e => .node "IfStmt" [("condition", c.json), ("then_body", t.json),
      ("else_body", jsonStmtOption e)]
  | .while_ c b => .node "WhileStmt" [("condition", c.json), ("body", b.json)]
  | .doWhile b c => .node "DoWhileStmt" [("body", b.json), ("condition", c.json)]
  | .for_ init c post body => .node "ForStmt" [("init", jsonForInit init),
      ("condition", jsonExprOption c), ("post", jsonExprOption post), ("body", body.json)]
  | .switch c b => .node "SwitchStmt" [("condition", c.json), ("body", b.json)]
  | .case_ v b => .node "CaseStmt" [("value", v.json), ("body", b.json)]
  | .default_ b => .node "DefaultStmt" [("body", b.json)]
  | .label n b => .node "LabelStmt" [("name", .string n), ("body", b.json)]
  | .goto l => .node "GotoStmt" [("label", .string l)]
  | .indirectGoto e => .node "IndirectGotoStmt" [("target", e.json)]
  | .break_ => .node "BreakStmt" []
  | .continue_ => .node "ContinueStmt" []
  | .return_ v => .node "ReturnStmt" [("value", jsonExprOption v)]
  | .expr e => .node "ExprStmt" [("expr", e.json)]
  | .null => .node "NullStmt" []
  | .declaration t n i alignment storage isThreadLocal =>
    .node "DeclStmt" [("type_spec", t.json), ("name", .ofText? n), ("init", jsonInitOption i),
      ("alignment", .ofInt? alignment), ("storage_class", .ofStorage? storage),
      ("is_thread_local", .bool isThreadLocal)]
  | .typedef t n => .node "TypedefDecl" [("type_spec", t.json), ("name", .string n)]
  | .group ds => .node "DeclGroupStmt" [("declarations", .array (ds.map (·.json)))]
  | .staticAssert c m => .node "StaticAssertDecl" [("condition", c.json),
      ("message", .node "StringLiteral" [("value", .string m)])]
  | .unknown name => .node name []

def jsonExprOption : Option (Expr α) → Json
  | none => .null
  | some e => e.json

def jsonTypeOption : Option (TypeSpec α) → Json
  | none => .null
  | some t => t.json

def jsonInitOption : Option (Initializer α) → Json
  | none => .null
  | some i => i.json

def jsonStmtOption : Option (Stmt α) → Json
  | none => .null
  | some s => s.json

/-- The first clause of a `for`; an expression statement is written as its expression. -/
def jsonForInit : Option (Stmt α) → Json
  | none => .null
  | some (.expr e) => e.json
  | some s => s.json

end

end Trees

def FunctionDef.json (f : FunctionDef α) : Json :=
  .node "FunctionDef" [("return_type", f.returnType.json true), ("name", .string f.name),
    ("params", .ofList (fun (p : Param α) =>
      .node "Param" [("type_spec", p.type.json true), ("name", .ofText? p.name)]) f.params),
    ("body", Json.ofOption (fun body =>
      .node "CompoundStmt" [("statements", .ofList (Stmt.json true) body)]) f.body),
    ("storage_class", .ofStorage? f.storage), ("is_thread_local", .bool f.isThreadLocal),
    ("is_inline", .bool f.isInline), ("is_noreturn", .bool f.isNoreturn),
    ("has_prototype", .bool f.hasPrototype), ("is_variadic", .bool f.isVariadic),
    ("is_overloadable", .bool f.isOverloadable)]

def External.json : External α → Json
  | .function f => f.json
  | .declaration s => s.json true

def External.isFunction : External α → Bool
  | .function _ => true
  | .declaration _ => false

def Json.ofCount (n : Nat) : Json := if n = 0 then .null else .int n

/-- All of a source file, with the numbers of its functions and of its other declarations. -/
def SourceUnit.json (u : SourceUnit α) : Json :=
  let functions := (u.externals.filter External.isFunction).length
  .node "TranslationUnit" [("functions", .ofCount functions),
    ("declarations", .ofCount (u.externals.length - functions)),
    ("externals", .ofList External.json u.externals)]

variable {α : Type}

/-- Whether a tree holds neither a call nor a block. -/
def Json.isFlat (tree : Json) : Bool :=
  tree.values.all fun j => j.textField "node" "" ∉ ["CallExpr", "CompoundStmt", "DeclGroupStmt"]

/-- Whether two specifiers are alike after decay, qualifiers aside. -/
def TypeSpec.matchesControl (control association : TypeSpec α) : Bool :=
  control.decay.unqualified.json false == association.decay.unqualified.json false

/-- A key of a part of a type, which is written in full if it holds a call or a block. -/
def Json.key (tree : Bool → Json) : Json :=
  if (tree false).isFlat then tree false else .array [tree true]

def sortedQualifiers (qualifiers : List String) : List String :=
  qualifiers.mergeSort fun a b => decide (a ≤ b)

/-- The key of an array bound: the order of qualifiers does not matter. -/
def ArrayBound.key : ArrayBound α → Json
  | .length n => .int n
  | .unsized qualifiers isStatic => .ofBound .null (sortedQualifiers qualifiers) isStatic
  | .constant n qualifiers isStatic => .ofBound (.int n) (sortedQualifiers qualifiers) isStatic
  | .sized e qualifiers isStatic => .ofBound (.key e.json) (sortedQualifiers qualifiers) isStatic

def DeclOp.key : DeclOp α → Json
  | .array bound => .array [.string "arr", bound.key]
  | op => .key op.json

mutual

/-- The key by which two associations of one generic selection are the same type. -/
def TypeSpec.associationKey : TypeSpec α → Json
  | ⟨_, base, ops, qualifiers, isAtomic, target, _, _⟩ =>
    .array [base.associationKey, .ofTexts (sortedQualifiers qualifiers), .bool isAtomic,
      associationKeyTarget target, .ofList DeclOp.key ops]

def associationKeyTarget : Option (TypeSpec α) → Json
  | none => .null
  | some t => t.associationKey

def TypeBase.associationKey : TypeBase α → Json
  | .enum tag members => .array [.string "enum", .ofText? tag,
      .ofList (fun m => .array [.string m.name, .key fun full => jsonExprOption full m.value]) members]
  | .record kind tag members _ =>
    .array [.string kind.keyword, .ofText? tag, .array (members.map (·.associationKey))]
  | base => .string base.name
decreasing_by all_goals first | decreasing_tactic | have := List.sizeOf_lt_of_mem ‹_›; simp; omega

def MemberDecl.associationKey : MemberDecl α → Json
  | ⟨t, name, alignment, width⟩ => .array [t.associationKey, .ofText? name, .ofInt? alignment,
      .key fun full => jsonExprOption full width]

end

end CCompiler
