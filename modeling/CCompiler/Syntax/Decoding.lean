import CCompiler.Json.Basic
import CCompiler.Syntax.Basic

/-!
# Syntax trees from JSON

The trees that JSON values describe. A part that is missing says nothing: no text, no number, false or an
empty list. An object of an unknown kind is an unknown expression or statement.
-/
namespace CCompiler

namespace Decoding

def kind (j : Json) : String := j.textField "node" "NoneType"

/-- An integer, perhaps written as a text. -/
def int? : Json → Option Int
  | .int n => some n
  | .string s => s.toInt?
  | _ => none

def optional {β : Type} (f : Json → β) (j : Json) : Option β := if j.isNull then none else some (f j)

def texts (items : List Json) : List String := items.map fun item => item.string?.getD ""

def statementKinds : List String :=
  ["CompoundStmt", "IfStmt", "WhileStmt", "DoWhileStmt", "ForStmt", "SwitchStmt", "CaseStmt",
   "DefaultStmt", "LabelStmt", "GotoStmt", "IndirectGotoStmt", "BreakStmt", "ContinueStmt", "NullStmt",
   "ReturnStmt", "StaticAssertDecl", "ExprStmt", "DeclGroupStmt", "DeclStmt", "TypedefDecl",
   "UnknownStmt"]

/-- The pairs of line and column of the branches of a generic selection. -/
def locations (items : List Json) : List (Option Int × Option Int) :=
  items.map fun item =>
    match item.items with
    | [line, column] => (int? line, int? column)
    | _ => (none, none)

mutual

def expr : Nat → Json → Expr Unit
  | 0, j => .unknown () (kind j)
  | depth + 1, j =>
    let sub (name : String) := expr depth (j.field name)
    let text (name : String) := j.textField name ""
    let type := typeSpec depth (j.field "type_spec")
    let isOfType := !(j.field "type_spec").isNull
    match kind j with
    | "IntLiteral" => .int () (text "value")
    | "FloatLiteral" => .float () (text "value")
    | "CharLiteral" => .char () (text "value")
    | "StringLiteral" => .string () (text "value")
    | "Identifier" => .ident () (text "name")
    | "LabelAddressExpr" => .labelAddress () (text "label")
    | "UnaryExpr" => .unary () (UnaryOp.ofText (text "op")) (sub "operand")
    | "UpdateExpr" =>
      .update () (UpdateOp.ofText (text "op")) (sub "operand") (j.flagField "is_postfix" false)
    | "BinaryExpr" => .binary () (BinaryOp.ofText (text "op")) (sub "left") (sub "right")
    | "AssignExpr" => .assign () (AssignOp.ofText (text "op")) (sub "target") (sub "value")
    | "ConditionalExpr" => .conditional () (sub "condition") (sub "then_expr") (sub "else_expr")
    | "CommaExpr" => .comma () (sub "left") (sub "right")
    | "CallExpr" => .call () (sub "callee") ((j.itemsField "args").map (expr depth))
    | "SubscriptExpr" => .subscript () (sub "base") (sub "index")
    | "MemberExpr" => .member () (sub "base") (text "member") (j.flagField "through_pointer" false)
    | "SizeofExpr" => if isOfType then .sizeofType () type else .sizeofExpr () (sub "expr")
    | "AlignofExpr" => if isOfType then .alignofType () type else .alignofExpr () (sub "expr")
    | "BuiltinOffsetofExpr" => .offsetof () type (text "member")
    | "CastExpr" => .cast () type (sub "expr")
    | "CompoundLiteralExpr" => .compoundLiteral () type (initItems depth (j.field "initializer"))
    | "StatementExpr" =>
      .statements () (((j.field "body").itemsField "statements").map (stmt depth))
    | "GenericExpr" =>
      .generic () (sub "control") ((j.itemsField "associations").map (association depth))
        (locations (j.itemsField "association_source_locations"))
    | name => .unknown () name

/-- A branch of a generic selection. -/
def association : Nat → Json → Association Unit
  | 0, j => .default (.unknown () (kind j))
  | depth + 1, j =>
    match j.items with
    | [type, value] =>
      if type.isNull then .default (expr depth value) else .typed (typeSpec depth type) (expr depth value)
    | _ => .default (.unknown () "NoneType")

def typeSpec : Nat → Json → TypeSpec Unit
  | 0, j => .ofName (j.textField "name" "")
  | depth + 1, j =>
    let name := j.textField "name" ""
    let members := (j.itemsField "record_members").map (member depth)
    let record (kind : RecordKind) := TypeBase.record kind (j.field "record_tag").string? members
      (j.flagField "has_record_body" false || !members.isEmpty)
    let operand := j.field "typeof_expr"
    let base := match name with
      | "enum" => TypeBase.enum (j.field "enum_tag").string?
          ((j.itemsField "enum_members").map (enumerator depth))
      | "struct" => record .struct
      | "union" => record .union
      | "typeof" => if operand.isNull then .named name else .typeof (expr depth operand)
      | name => .named name
    { note := ()
      base := base
      ops := (j.itemsField "declarator_ops").map (declOp depth)
      qualifiers := texts (j.itemsField "qualifiers")
      isAtomic := j.flagField "is_atomic" false
      atomicTarget := optional (typeSpec depth) (j.field "atomic_target")
      line := int? (j.field "source_line")
      column := int? (j.field "source_column") }

def enumerator : Nat → Json → Enumerator Unit
  | 0, _ => ⟨"", none⟩
  | depth + 1, j =>
    match j.items with
    | [name, value] => ⟨name.string?.getD "", optional (expr depth) value⟩
    | _ => ⟨"", none⟩

/-- A member of a record, as an object or as a row of its parts. -/
def member : Nat → Json → MemberDecl Unit
  | 0, _ => ⟨.ofName "", none, none, none⟩
  | depth + 1, j =>
    let row := match j with
      | .array items => items
      | _ => [j.field "type_spec", j.field "name", j.field "alignment", j.field "bit_width_expr"]
    let part (i : Nat) : Json := row.getD i .null
    ⟨typeSpec depth (part 0), (part 1).string?, int? (part 2), optional (expr depth) (part 3)⟩

def declOp : Nat → Json → DeclOp Unit
  | 0, _ => .pointer
  | depth + 1, j =>
    match j.items with
    | [.string "arr", value] => .array (arrayBound depth value)
    | [.string "fn", value] =>
      match value.items with
      | [.array params, variadic] =>
        .function (params.map (typeSpec depth)) (variadic.bool?.getD false)
      | [_, variadic] => .unprototyped (variadic.bool?.getD false)
      | _ => .unprototyped false
    | _ => .pointer

def arrayBound : Nat → Json → ArrayBound Unit
  | 0, _ => .length 0
  | depth + 1, j =>
    match int? j with
    | some n => .length n
    | none =>
      let qualifiers := texts (j.itemsField "qualifiers")
      let isStatic := j.flagField "has_static_bound" false
      let length := j.field "length"
      if length.isNull then .unsized qualifiers isStatic
      else
        match int? length with
        | some n => .constant n qualifiers isStatic
        | none => .sized (expr depth length) qualifiers isStatic

def initItems : Nat → Json → List (InitItem Unit)
  | 0, _ => []
  | depth + 1, j => (j.itemsField "items").map fun item =>
    ⟨(item.itemsField "designators").map (designator depth), initializer depth (item.field "initializer")⟩

def initializer : Nat → Json → Initializer Unit
  | 0, _ => .list []
  | depth + 1, j => if kind j = "InitList" then .list (initItems depth j) else .expr (expr depth j)

def designator : Nat → Json → Designator Unit
  | 0, _ => .member ""
  | depth + 1, j =>
    match j.items with
    | [.string "index", value] => .index (expr depth value)
    | [.string "range", range] => .range (expr depth (range.field "low")) (expr depth (range.field "high"))
    | [_, name] => .member (name.string?.getD "")
    | _ => .member ""

def stmt : Nat → Json → Stmt Unit
  | 0, j => .unknown (kind j)
  | depth + 1, j =>
    let sub (name : String) := expr depth (j.field name)
    let sub? (name : String) := optional (expr depth) (j.field name)
    let body (name : String) := stmt depth (j.field name)
    let type := typeSpec depth (j.field "type_spec")
    let text (name : String) := j.textField name ""
    match kind j with
    | "CompoundStmt" => .compound ((j.itemsField "statements").map (stmt depth))
    | "IfStmt" =>
      .ifElse (sub "condition") (body "then_body") (optional (stmt depth) (j.field "else_body"))
    | "WhileStmt" => .while_ (sub "condition") (body "body")
    | "DoWhileStmt" => .doWhile (body "body") (sub "condition")
    | "ForStmt" =>
      let first := optional (fun init =>
        if statementKinds.contains (kind init) then stmt depth init
        else .expr (expr depth init)) (j.field "init")
      .for_ first (sub? "condition") (sub? "post") (body "body")
    | "SwitchStmt" => .switch (sub "condition") (body "body")
    | "CaseStmt" => .case_ (sub "value") (body "body")
    | "DefaultStmt" => .default_ (body "body")
    | "LabelStmt" => .label (text "name") (body "body")
    | "GotoStmt" => .goto (text "label")
    | "IndirectGotoStmt" => .indirectGoto (sub "target")
    | "BreakStmt" => .break_
    | "ContinueStmt" => .continue_
    | "NullStmt" => .null
    | "ReturnStmt" => .return_ (sub? "value")
    | "StaticAssertDecl" => .staticAssert (sub "condition") ((j.field "message").textField "value" "")
    | "ExprStmt" => .expr (sub "expr")
    | "DeclGroupStmt" => .group ((j.itemsField "declarations").map (stmt depth))
    | "DeclStmt" =>
      .declaration type (j.field "name").string? (optional (initializer depth) (j.field "init"))
        (int? (j.field "alignment")) ((j.field "storage_class").string?.bind StorageClass.ofKeyword?)
        (j.flagField "is_thread_local" false)
    | "TypedefDecl" => .typedef type (text "name")
    | name => .unknown name

end

def functionDef (depth : Nat) (j : Json) : FunctionDef Unit where
  returnType := typeSpec depth (j.field "return_type")
  name := j.textField "name" ""
  params := (j.itemsField "params").map fun p =>
    ⟨typeSpec depth (p.field "type_spec"), (p.field "name").string?⟩
  body := optional (fun body => (body.itemsField "statements").map (stmt depth)) (j.field "body")
  storage := (j.field "storage_class").string?.bind StorageClass.ofKeyword?
  isThreadLocal := j.flagField "is_thread_local" false
  isInline := j.flagField "is_inline" false
  isNoreturn := j.flagField "is_noreturn" false
  hasPrototype := j.flagField "has_prototype" true
  isVariadic := j.flagField "is_variadic" false
  isOverloadable := j.flagField "is_overloadable" false

end Decoding

/-- The source file that a value describes by its declarations. A value holds at most one tree and one
    choice between trees. -/
def SourceUnit.ofJson (j : Json) : SourceUnit Unit :=
  let depth := 2 * j.values.length
  ⟨(j.itemsField "externals").map fun e =>
    if Decoding.kind e = "FunctionDef" then .function (Decoding.functionDef depth e)
    else .declaration (Decoding.stmt depth e)⟩

end CCompiler
