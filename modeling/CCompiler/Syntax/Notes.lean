import CCompiler.Syntax.Basic

/-!
# Changing the notes of a tree

A tree is walked once, in the order of its text, and every note is replaced by what an action answers
for it. Numbering the nodes and attaching types are two such walks.
-/
namespace CCompiler

section Walk

variable {α β : Type} {m : Type → Type} [Monad m] (f : α → m β)

mutual

def Expr.mapNotes : Expr α → m (Expr β)
  | .int a text => return .int (← f a) text
  | .float a text => return .float (← f a) text
  | .char a text => return .char (← f a) text
  | .string a text => return .string (← f a) text
  | .ident a name => return .ident (← f a) name
  | .labelAddress a label => return .labelAddress (← f a) label
  | .unary a op e => return .unary (← f a) op (← e.mapNotes)
  | .update a op e isPostfix => return .update (← f a) op (← e.mapNotes) isPostfix
  | .binary a op l r => return .binary (← f a) op (← l.mapNotes) (← r.mapNotes)
  | .assign a op l r => return .assign (← f a) op (← l.mapNotes) (← r.mapNotes)
  | .conditional a c t e => return .conditional (← f a) (← c.mapNotes) (← t.mapNotes) (← e.mapNotes)
  | .comma a l r => return .comma (← f a) (← l.mapNotes) (← r.mapNotes)
  | .call a callee args => return .call (← f a) (← callee.mapNotes) (← mapNotesExprs args)
  | .subscript a base index => return .subscript (← f a) (← base.mapNotes) (← index.mapNotes)
  | .member a base name through => return .member (← f a) (← base.mapNotes) name through
  | .sizeofExpr a e => return .sizeofExpr (← f a) (← e.mapNotes)
  | .sizeofType a t => return .sizeofType (← f a) (← t.mapNotes)
  | .alignofExpr a e => return .alignofExpr (← f a) (← e.mapNotes)
  | .alignofType a t => return .alignofType (← f a) (← t.mapNotes)
  | .offsetof a t member => return .offsetof (← f a) (← t.mapNotes) member
  | .cast a t e => return .cast (← f a) (← t.mapNotes) (← e.mapNotes)
  | .compoundLiteral a t items =>
    return .compoundLiteral (← f a) (← t.mapNotes) (← mapNotesItems items)
  | .statements a body => return .statements (← f a) (← mapNotesStmts body)
  | .generic a control associations locations =>
    return .generic (← f a) (← control.mapNotes) (← mapNotesAssociations associations) locations
  | .unknown a name => return .unknown (← f a) name

def Association.mapNotes : Association α → m (Association β)
  | .typed t e => return .typed (← t.mapNotes) (← e.mapNotes)
  | .default e => return .default (← e.mapNotes)

def TypeSpec.mapNotes : TypeSpec α → m (TypeSpec β)
  | ⟨a, base, ops, qualifiers, isAtomic, target, line, column⟩ =>
    return ⟨← f a, ← base.mapNotes, ← mapNotesOps ops, qualifiers, isAtomic, ← mapNotesTarget target, line, column⟩

def mapNotesTarget : Option (TypeSpec α) → m (Option (TypeSpec β))
  | none => return none
  | some t => return some (← t.mapNotes)

def TypeBase.mapNotes : TypeBase α → m (TypeBase β)
  | .named name => return .named name
  | .enum tag members => return .enum tag (← mapNotesEnumerators members)
  | .record kind tag members hasBody => return .record kind tag (← mapNotesMembers members) hasBody
  | .typeof e => return .typeof (← e.mapNotes)

def Enumerator.mapNotes : Enumerator α → m (Enumerator β)
  | ⟨name, value⟩ => return ⟨name, ← mapNotesOption value⟩

def MemberDecl.mapNotes : MemberDecl α → m (MemberDecl β)
  | ⟨t, name, alignment, width⟩ => return ⟨← t.mapNotes, name, alignment, ← mapNotesOption width⟩

def DeclOp.mapNotes : DeclOp α → m (DeclOp β)
  | .pointer => return .pointer
  | .array bound => return .array (← bound.mapNotes)
  | .unprototyped isVariadic => return .unprototyped isVariadic
  | .function params isVariadic => return .function (← mapNotesTypes params) isVariadic

def ArrayBound.mapNotes : ArrayBound α → m (ArrayBound β)
  | .length n => return .length n
  | .unsized qualifiers isStatic => return .unsized qualifiers isStatic
  | .constant n qualifiers isStatic => return .constant n qualifiers isStatic
  | .sized e qualifiers isStatic => return .sized (← e.mapNotes) qualifiers isStatic

def Initializer.mapNotes : Initializer α → m (Initializer β)
  | .expr e => return .expr (← e.mapNotes)
  | .list items => return .list (← mapNotesItems items)

def InitItem.mapNotes : InitItem α → m (InitItem β)
  | ⟨designators, value⟩ => return ⟨← mapNotesDesignators designators, ← value.mapNotes⟩

def Designator.mapNotes : Designator α → m (Designator β)
  | .member name => return .member name
  | .index e => return .index (← e.mapNotes)
  | .range low high => return .range (← low.mapNotes) (← high.mapNotes)

def Stmt.mapNotes : Stmt α → m (Stmt β)
  | .compound items => return .compound (← mapNotesStmts items)
  | .ifElse c t e => return .ifElse (← c.mapNotes) (← t.mapNotes) (← mapNotesStmtOption e)
  | .while_ c body => return .while_ (← c.mapNotes) (← body.mapNotes)
  | .doWhile body c => return .doWhile (← body.mapNotes) (← c.mapNotes)
  | .for_ init c post body =>
    return .for_ (← mapNotesStmtOption init) (← mapNotesOption c) (← mapNotesOption post) (← body.mapNotes)
  | .switch c body => return .switch (← c.mapNotes) (← body.mapNotes)
  | .case_ value body => return .case_ (← value.mapNotes) (← body.mapNotes)
  | .default_ body => return .default_ (← body.mapNotes)
  | .label name body => return .label name (← body.mapNotes)
  | .goto label => return .goto label
  | .indirectGoto target => return .indirectGoto (← target.mapNotes)
  | .break_ => return .break_
  | .continue_ => return .continue_
  | .return_ value => return .return_ (← mapNotesOption value)
  | .expr value => return .expr (← value.mapNotes)
  | .null => return .null
  | .declaration t name init alignment storage isThreadLocal =>
    return .declaration (← t.mapNotes) name (← mapNotesInit init) alignment storage isThreadLocal
  | .typedef t name => return .typedef (← t.mapNotes) name
  | .group declarations => return .group (← mapNotesStmts declarations)
  | .staticAssert condition message => return .staticAssert (← condition.mapNotes) message
  | .unknown name => return .unknown name

def mapNotesOption : Option (Expr α) → m (Option (Expr β))
  | none => return none
  | some e => return some (← e.mapNotes)

def mapNotesStmtOption : Option (Stmt α) → m (Option (Stmt β))
  | none => return none
  | some s => return some (← s.mapNotes)

def mapNotesInit : Option (Initializer α) → m (Option (Initializer β))
  | none => return none
  | some i => return some (← i.mapNotes)

def mapNotesExprs : List (Expr α) → m (List (Expr β))
  | [] => return []
  | e :: es => return (← e.mapNotes) :: (← mapNotesExprs es)

def mapNotesAssociations : List (Association α) → m (List (Association β))
  | [] => return []
  | e :: es => return (← e.mapNotes) :: (← mapNotesAssociations es)

def mapNotesTypes : List (TypeSpec α) → m (List (TypeSpec β))
  | [] => return []
  | t :: ts => return (← t.mapNotes) :: (← mapNotesTypes ts)

def mapNotesEnumerators : List (Enumerator α) → m (List (Enumerator β))
  | [] => return []
  | e :: es => return (← e.mapNotes) :: (← mapNotesEnumerators es)

def mapNotesMembers : List (MemberDecl α) → m (List (MemberDecl β))
  | [] => return []
  | e :: es => return (← e.mapNotes) :: (← mapNotesMembers es)

def mapNotesOps : List (DeclOp α) → m (List (DeclOp β))
  | [] => return []
  | op :: ops => return (← op.mapNotes) :: (← mapNotesOps ops)

def mapNotesItems : List (InitItem α) → m (List (InitItem β))
  | [] => return []
  | i :: is => return (← i.mapNotes) :: (← mapNotesItems is)

def mapNotesDesignators : List (Designator α) → m (List (Designator β))
  | [] => return []
  | d :: ds => return (← d.mapNotes) :: (← mapNotesDesignators ds)

def mapNotesStmts : List (Stmt α) → m (List (Stmt β))
  | [] => return []
  | s :: ss => return (← s.mapNotes) :: (← mapNotesStmts ss)

end

def Param.mapNotes (p : Param α) : m (Param β) := do
  return ⟨← p.type.mapNotes f, p.name⟩

/-- Replaces the notes of a function, its body included. -/
def FunctionDef.mapNotes (d : FunctionDef α) : m (FunctionDef β) := do
  let returnType ← d.returnType.mapNotes f
  let params ← d.params.mapM (Param.mapNotes f)
  let body ← d.body.mapM (mapNotesStmts f)
  return { returnType, name := d.name, params, body, storage := d.storage,
           isThreadLocal := d.isThreadLocal, isInline := d.isInline, isNoreturn := d.isNoreturn,
           hasPrototype := d.hasPrototype, isVariadic := d.isVariadic,
           isOverloadable := d.isOverloadable }

def External.mapNotes : External α → m (External β)
  | .function d => return .function (← d.mapNotes f)
  | .declaration s => return .declaration (← s.mapNotes f)

def SourceUnit.mapNotes (unit : SourceUnit α) : m (SourceUnit β) := do
  return ⟨← unit.externals.mapM (External.mapNotes f)⟩

end Walk

/-- A number that tells the nodes of one tree apart. -/
abbrev NodeId := Nat

def nextNodeId : StateM NodeId NodeId := do
  let n ← get
  set (n + 1)
  return n

def SourceUnit.numbered {α : Type} (unit : SourceUnit α) : SourceUnit NodeId :=
  ((unit.mapNotes (m := StateM NodeId) (fun _ => nextNodeId)).run 0).1

end CCompiler
