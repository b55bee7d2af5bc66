import CCompiler.Syntax.Basic

/-!
# Listings of expressions

All expressions of a tree in the order in which they begin: an expression stands before its parts, and
the parts stand in the order of the grammar, except that a `do` loop's condition follows its body. Type
specifiers are passed over.
-/
namespace CCompiler

/-- An entry of a listing: the kind of an expression and its note. The message of a static assertion is
    an entry without a note. -/
abbrev ListingEntry (α : Type) := String × Option α

variable {α : Type}

mutual

def Expr.listing : Expr α → List (ListingEntry α)
  | .int a _ => [("IntLiteral", some a)]
  | .float a _ => [("FloatLiteral", some a)]
  | .char a _ => [("CharLiteral", some a)]
  | .string a _ => [("StringLiteral", some a)]
  | .ident a _ => [("Identifier", some a)]
  | .labelAddress a _ => [("LabelAddressExpr", some a)]
  | .unary a _ e => ("UnaryExpr", some a) :: e.listing
  | .update a _ e _ => ("UpdateExpr", some a) :: e.listing
  | .binary a _ l r => ("BinaryExpr", some a) :: (l.listing ++ r.listing)
  | .assign a _ l r => ("AssignExpr", some a) :: (l.listing ++ r.listing)
  | .conditional a c t e => ("ConditionalExpr", some a) :: (c.listing ++ (t.listing ++ e.listing))
  | .comma a l r => ("CommaExpr", some a) :: (l.listing ++ r.listing)
  | .call a callee args => ("CallExpr", some a) :: (callee.listing ++ listingExprs args)
  | .subscript a base index => ("SubscriptExpr", some a) :: (base.listing ++ index.listing)
  | .member a base _ _ => ("MemberExpr", some a) :: base.listing
  | .sizeofExpr a e => ("SizeofExpr", some a) :: e.listing
  | .sizeofType a _ => [("SizeofExpr", some a)]
  | .alignofExpr a e => ("AlignofExpr", some a) :: e.listing
  | .alignofType a _ => [("AlignofExpr", some a)]
  | .offsetof a _ _ => [("BuiltinOffsetofExpr", some a)]
  | .cast a _ e => ("CastExpr", some a) :: e.listing
  | .compoundLiteral a _ items => ("CompoundLiteralExpr", some a) :: listingItems items
  | .statements a body => ("StatementExpr", some a) :: listingStmts body
  | .generic a control associations _ =>
    ("GenericExpr", some a) :: (control.listing ++ listingAssociations associations)
  | .unknown a name => [(name, some a)]

def Association.listing : Association α → List (ListingEntry α)
  | .typed _ e => e.listing
  | .default e => e.listing

def Initializer.listing : Initializer α → List (ListingEntry α)
  | .expr e => e.listing
  | .list items => listingItems items

def InitItem.listing : InitItem α → List (ListingEntry α)
  | ⟨designators, value⟩ => listingDesignators designators ++ value.listing

def Designator.listing : Designator α → List (ListingEntry α)
  | .member _ => []
  | .index e => e.listing
  | .range low high => low.listing ++ high.listing

def Stmt.listing : Stmt α → List (ListingEntry α)
  | .compound items => listingStmts items
  | .ifElse c t e => c.listing ++ (t.listing ++ listingStmtOption e)
  | .while_ c body => c.listing ++ body.listing
  | .doWhile body c => body.listing ++ c.listing
  | .for_ init c post body =>
    listingStmtOption init ++ (listingOption c ++ (listingOption post ++ body.listing))
  | .switch c body => c.listing ++ body.listing
  | .case_ value body => value.listing ++ body.listing
  | .default_ body => body.listing
  | .label _ body => body.listing
  | .indirectGoto target => target.listing
  | .return_ value => listingOption value
  | .expr value => value.listing
  | .declaration _ _ init _ _ _ => listingInit init
  | .group declarations => listingStmts declarations
  | .staticAssert condition _ => condition.listing ++ [("StringLiteral", none)]
  | .goto _ | .break_ | .continue_ | .null | .typedef _ _ | .unknown _ => []

def listingOption : Option (Expr α) → List (ListingEntry α)
  | none => []
  | some e => e.listing

def listingStmtOption : Option (Stmt α) → List (ListingEntry α)
  | none => []
  | some s => s.listing

def listingInit : Option (Initializer α) → List (ListingEntry α)
  | none => []
  | some i => i.listing

def listingExprs : List (Expr α) → List (ListingEntry α)
  | [] => []
  | e :: es => e.listing ++ listingExprs es

def listingAssociations : List (Association α) → List (ListingEntry α)
  | [] => []
  | a :: as => a.listing ++ listingAssociations as

def listingItems : List (InitItem α) → List (ListingEntry α)
  | [] => []
  | i :: is => i.listing ++ listingItems is

def listingDesignators : List (Designator α) → List (ListingEntry α)
  | [] => []
  | d :: ds => d.listing ++ listingDesignators ds

def listingStmts : List (Stmt α) → List (ListingEntry α)
  | [] => []
  | s :: ss => s.listing ++ listingStmts ss

end

def External.listing : External α → List (ListingEntry α)
  | .function f => listingStmts (f.body.getD [])
  | .declaration decl => decl.listing

def SourceUnit.listing (unit : SourceUnit α) : List (ListingEntry α) :=
  unit.externals.flatMap External.listing

end CCompiler
