import CCompiler.Grammar.Goal

/-!
# Expressions

Rules for expressions: binary operators by their levels, prefix and postfix operators, and primary
expressions.
-/
namespace CCompiler.Grammar

def splitString (token : Token) : Parse (String × List Char) := do
  let cs := token.lexeme.toList
  let body (skip : Nat) := (cs.drop skip).dropLast
  let closed := cs.getLast? == some '"'
  match cs with
  | '"' :: _ => if closed then return ("", body 1) else failAt token .invalidStringLiteral
  | 'u' :: '8' :: '"' :: _ => if closed then return ("u8", body 3) else failAt token .invalidStringLiteral
  | c :: '"' :: _ :: _ =>
    if closed && (c == 'u' || c == 'U' || c == 'L') then return (c.toString, body 2)
    else failAt token .invalidStringLiteral
  | _ => failAt token .invalidStringLiteral

def mergePrefix (left right : String) (token : Token) : Parse String :=
  if left = right || right.isEmpty then return left
  else if left.isEmpty then return right
  else failAt token .incompatiblePrefixes

def stringLiteral : Parse String := do
  let first ← splitString (← expectKind .stringLiteral)
  let (start, body) ← repeatStep first fun (start, body) => do
    let token ← current
    if token.kind = .stringLiteral then
      discard advance
      let (next, more) ← splitString token
      return .inl (← mergePrefix start next token, body ++ more)
    else return .inr (start, body)
  return start ++ "\"" ++ String.ofList body ++ "\""

def binaryLevels : List (List String) :=
  [["||"], ["&&"], ["|"], ["^"], ["&"], ["==", "!="], ["<", "<=", ">", ">="], ["<<", ">>"],
    ["+", "-"], ["*", "/", "%"]]

def binaryStep (operand : Parse (Expr Unit)) (operators : List String) (left : Expr Unit) :
    Parse (Expr Unit ⊕ Expr Unit) := do
  if ← atPuncts operators then
    let op ← advance
    let right ← operand
    return .inl (.binary () (BinaryOp.ofText op.lexeme) left right)
  else return .inr left

def leftAssociative (operand : Parse (Expr Unit)) (operators : List String) : Parse (Expr Unit) := do
  let first ← operand
  repeatStep first (binaryStep operand operators)

/-- An expression of the given levels, each binding stronger than the one before. -/
def binaryExpression (operand : Parse (Expr Unit)) : List (List String) → Parse (Expr Unit)
  | [] => operand
  | operators :: stronger => leftAssociative (binaryExpression operand stronger) operators

def assignmentOperators : List String := AssignOp.all.map AssignOp.text

def expression (rule : Rules) : Parse (Expr Unit) := do
  let first ← rule .assignment
  let more ← whileTrue (acceptPunct ",") (rule .assignment)
  return more.foldl (Expr.comma ()) first

def assignment (rule : Rules) : Parse (Expr Unit) := do
  let target ← rule .conditional
  if ← atPuncts assignmentOperators then
    let op ← advance
    let value ← rule .assignment
    return .assign () (AssignOp.ofText op.lexeme) target value
  else return target

def conditional (rule : Rules) : Parse (Expr Unit) := do
  let condition ← binaryExpression (rule .unary) binaryLevels
  if ← acceptPunct "?" then
    let thenExpr ← rule .expression
    expectPunct ":"
    let elseExpr ← rule .conditional
    return .conditional () condition thenExpr elseExpr
  else return condition

/-- What a generic selection has shown so far. -/
structure GenericState where
  associations : List (Association Unit) := []
  locations : List (Option Int × Option Int) := []
  index : Nat := 0
  default : Option AssociationPlace := none
  seen : List (Json × AssociationPlace × String) := []

def GenericState.placeOf (state : GenericState) (token : Token) : AssociationPlace :=
  ⟨state.index + 1, token.line, token.column⟩

/-- Refuses a second association for a type, and notes the first. -/
def checkAssociation (state : GenericState) (token : Token) (type : TypeSpec Unit)
    (span : List Token) : Parse GenericState := do
  let known ← names
  if span.any fun t => t.kind == .identifier && known.isTypedef t.lexeme then return state
  let key := type.associationKey
  let place := state.placeOf token
  let spelling := " ".intercalate (span.map (·.lexeme))
  match state.seen.lookup key with
  | some (previous, previousSpelling) =>
    failAt token (.duplicateAssociation place previous spelling previousSpelling)
  | none => return { state with seen := (key, place, spelling) :: state.seen }

def association (rule : Rules) (state : GenericState) : Parse GenericState := do
  let token ← current
  let place := state.placeOf token
  let location := (some (token.line : Int), some (token.column : Int))
  let finish (state : GenericState) (make : Expr Unit → Association Unit) : Parse GenericState := do
    expectPunct ":"
    let value ← rule .assignment
    return { state with
      associations := state.associations ++ [make value]
      locations := state.locations ++ [location]
      index := state.index + 1 }
  if token.isKeyword "default" then
    match state.default with
    | some previous => failAt token (.duplicateDefault place previous)
    | none =>
      discard advance
      finish { state with default := some place } .default
  else
    let start := (← get).rest
    let type ← typeName rule
    let type := { type with line := location.1, column := location.2 }
    let state ← checkAssociation state token type (← consumedSince start)
    finish state (.typed type)

def genericSelection (rule : Rules) : Parse (Expr Unit) := do
  discard advance
  expectPunct "("
  let control ← rule .assignment
  expectPunct ","
  let first ← association rule {}
  let state ← repeatStep first fun state => do
    if ← acceptPunct "," then return .inl (← association rule state) else return .inr state
  expectPunct ")"
  return .generic () control state.associations state.locations

/-- The items between braces, at least one, with an optional comma at the end. -/
def braced {β : Type} (empty : Cause) (item : Parse β) : Parse (List β) := do
  expectPunct "\x7b"
  if ← atPunct "\x7d" then fail empty
  let first ← item
  let more ← whileTrue (do if ← acceptPunct "," then return !(← atPunct "\x7d") else return false) item
  expectPunct "\x7d"
  return first :: more

/-- The designators in front of an item of an initializer list. -/
def designators (rule : Rules) : Parse (List (Designator Unit)) :=
  repeatStep ([] : List (Designator Unit)) fun found => do
    if ← acceptPunct "." then
      let name ← expectIdentifier
      return .inl (found ++ [.member name])
    else if ← acceptPunct "[" then
      let low ← rule .conditional
      if ← acceptPunct "..." then
        let high ← rule .conditional
        expectPunct "]"
        return .inl (found ++ [.range low high])
      else
        expectPunct "]"
        return .inl (found ++ [.index low])
    else return .inr found

def initItem (rule : Rules) : Parse (InitItem Unit) := do
  let found ← designators rule
  if !found.isEmpty then expectPunct "="
  let value ← rule .initializer
  return ⟨found, value⟩

def initializerList (rule : Rules) : Parse (List (InitItem Unit)) :=
  braced .expectedInitializer (initItem rule)

def initializer (rule : Rules) : Parse (Initializer Unit) := do
  if ← atPunct "\x7b" then return .list (← initializerList rule)
  else return .expr (← rule .assignment)

/-- The statements of a block, in a scope that starts with the given names. -/
def block (rule : Rules) (scope : NameScope) : Parse (List (Stmt Unit)) := do
  expectPunct "\x7b"
  inScope scope do
    let items ← whileTrue (return !(← atPunct "\x7d")) (rule .statement)
    expectPunct "\x7d"
    return items

def offsetof (rule : Rules) : Parse (Expr Unit) := do
  discard advance
  expectPunct "("
  let type ← typeName rule
  expectPunct ","
  let member (missing : Cause) : Parse String := do
    let token ← current
    if token.kind = .identifier then return (← advance).lexeme else failAt token missing
  let first ← member .expectedMemberName
  let more ← whileTrue (acceptPunct ".") (member .expectedMemberNameAfterDot)
  expectPunct ")"
  return .offsetof () type (".".intercalate (first :: more))

def parenthesized (rule : Rules) : Parse (Expr Unit) := do
  if ← nextIsPunct "\x7b" then
    if !(← isGnu) then fail (.gnuExtension "Statement expression")
    expectPunct "("
    let body ← block rule {}
    expectPunct ")"
    return .statements () body
  else
    expectPunct "("
    let e ← rule .expression
    expectPunct ")"
    return e

def primary (rule : Rules) : Parse (Expr Unit) := do
  let token ← current
  match token.kind with
  | .floatConst => return .float () (← advance).lexeme
  | .intConst => return .int () (← advance).lexeme
  | .charConst => return .char () (← advance).lexeme
  | .stringLiteral => return .string () (← stringLiteral)
  | .identifier =>
    if token.lexeme = "__builtin_offsetof" then offsetof rule
    else return .ident () (← advance).lexeme
  | _ =>
    if token.isKeyword "_Generic" then genericSelection rule
    else if token.isPunct "(" then parenthesized rule
    else failAt token (.noOperand token)

def atCompoundLiteral (rule : Rules) : Parse Bool := do
  if ← atParenthesizedTypeName then
    let found ← speculate do
      discard (parenthesizedTypeName rule)
      atPunct "\x7b"
    return found.getD false
  else return false

def arguments (rule : Rules) : Parse (List (Expr Unit)) := do
  if ← atPunct ")" then return [] else separated (rule .assignment)

def postfixStep (rule : Rules) (e : Expr Unit) : Parse (Expr Unit ⊕ Expr Unit) := do
  if ← acceptPunct "(" then
    let args ← arguments rule
    expectPunct ")"
    return .inl (.call () e args)
  else if ← acceptPunct "[" then
    let index ← rule .expression
    expectPunct "]"
    return .inl (.subscript () e index)
  else if ← acceptPunct "." then
    return .inl (.member () e (← expectIdentifier) false)
  else if ← acceptPunct "->" then
    return .inl (.member () e (← expectIdentifier) true)
  else if ← atPuncts ["++", "--"] then
    return .inl (.update () (UpdateOp.ofText (← advance).lexeme) e true)
  else return .inr e

def postfixOperators (rule : Rules) (operand : Expr Unit) : Parse (Expr Unit) :=
  repeatStep operand (postfixStep rule)

def postfixExpression (rule : Rules) : Parse (Expr Unit) := do
  if ← atCompoundLiteral rule then
    let type ← parenthesizedTypeName rule
    let items ← initializerList rule
    postfixOperators rule (.compoundLiteral () type items)
  else postfixOperators rule (← primary rule)

def sizeofExpression (rule : Rules) : Parse (Expr Unit) := do
  discard advance
  if ← atParenthesizedTypeName then return .sizeofType () (← parenthesizedTypeName rule)
  else return .sizeofExpr () (← rule .unary)

/-- The alignment of a type or, in the GNU mode, of an expression. -/
def alignofExpression (rule : Rules) : Parse (Expr Unit) := do
  let token ← advance
  if ← atParenthesizedTypeName then return .alignofType () (← parenthesizedTypeName rule)
  else if ← isGnu then return .alignofExpr () (← rule .unary)
  else failAt token .invalidAlignofOperand

/-- What a unary expression is when it begins with no keyword and no type. -/
def operatorExpression (rule : Rules) (token : Token) : Parse (Expr Unit) := do
  if ["++", "--"].any token.isPunct then
    discard advance
    return .update () (UpdateOp.ofText token.lexeme) (← rule .unary) false
  else if token.isPunct "&&" then
    if !(← isGnu) then failAt token (.gnuExtension "Label address")
    discard advance
    return .labelAddress () (← expectIdentifier)
  else if ["+", "-", "!", "~", "&", "*"].any token.isPunct then
    discard advance
    return .unary () (UnaryOp.ofText token.lexeme) (← rule .unary)
  else postfixExpression rule

def unary (rule : Rules) : Parse (Expr Unit) := do
  let token ← current
  if token.isKeyword "__extension__" then
    discard advance
    rule .unary
  else if token.isKeyword "sizeof" then sizeofExpression rule
  else if token.isKeyword "_Alignof" || token.isKeyword "__alignof__" then alignofExpression rule
  else if (← atParenthesizedTypeName) && !(← atCompoundLiteral rule) then
    let type ← parenthesizedTypeName rule
    return .cast () type (← rule .unary)
  else operatorExpression rule token

end CCompiler.Grammar
