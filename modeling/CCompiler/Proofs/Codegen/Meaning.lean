import CCompiler.Syntax.Basic
import Mathlib

/-!
# The meaning of C over `int`

What expressions and statements compute when every object and every value is an `int` of 32 bits.
Operands are evaluated from left to right, and arithmetic wraps around. What C leaves undefined has no
meaning here: a division by zero, a shift by a count that is not between 0 and 31, and the value of a local
that has none yet.

Statements are run with a bound on how deep the run nests, so that a run is a computation; a statement that
ends its run at all ends it within some bound.
-/
namespace CCompiler.Meaning

variable {α : Type}

/-- A value of type `int`. -/
abbrev IntValue := BitVec 32

/-- The value of a digit of a base up to sixteen. -/
def digit? (c : Char) : Option Nat :=
  if '0' ≤ c ∧ c ≤ '9' then some (c.toNat - '0'.toNat)
  else if 'a' ≤ c ∧ c ≤ 'f' then some (c.toNat - 'a'.toNat + 10)
  else if 'A' ≤ c ∧ c ≤ 'F' then some (c.toNat - 'A'.toNat + 10)
  else none

/-- The value of digits that follow a value already read. -/
def digits? (base : Nat) : Nat → List Char → Option Nat
  | value, [] => some value
  | value, c :: cs => do
    let d ← digit? c
    if d < base then digits? base (value * base + d) cs else none

/-- The value of an integer constant without a suffix: hexadecimal after `0x`, octal after `0`, and decimal
    otherwise. -/
def constant? : List Char → Option Nat
  | '0' :: 'x' :: c :: cs => digits? 16 0 (c :: cs)
  | '0' :: 'X' :: c :: cs => digits? 16 0 (c :: cs)
  | '0' :: cs => digits? 8 0 ('0' :: cs)
  | c :: cs => digits? 10 0 (c :: cs)
  | [] => none

/-- The value of a literal of type `int`. -/
def literal? (text : String) : Option IntValue := do
  let n ← constant? text.toList
  if n < 2 ^ 31 then some (BitVec.ofNat 32 n) else none

/-- The locals of a block with their values, the last declared first. A local has no value before one is
    stored in it. -/
abbrev Scope := List (String × Option IntValue)

/-- The blocks around a place, the innermost first. -/
abbrev Env := List Scope

/-- The value of a local. -/
def read (env : Env) (name : String) : Option IntValue := (env.findSome? (·.lookup name)).join

/-- A block with a new value of its last local of a name. -/
def storeIn (name : String) (v : IntValue) : Scope → Scope
  | [] => []
  | (n, old) :: rest => if name == n then (n, some v) :: rest else (n, old) :: storeIn name v rest

/-- The blocks with a new value of a local. -/
def store (name : String) (v : IntValue) : Env → Option Env
  | [] => none
  | scope :: outer =>
    if (scope.lookup name).isSome then some (storeIn name v scope :: outer)
    else (store name v outer).map (scope :: ·)

/-- The blocks with one more local in the innermost. -/
def declare (name : String) : Env → Env
  | [] => [[(name, none)]]
  | scope :: outer => ((name, none) :: scope) :: outer

/-- The value that stands for a truth. -/
def truth (b : Bool) : IntValue := if b then 1 else 0

/-- The value of an operator on two values. -/
def arith? (left right : IntValue) : ArithOp → Option IntValue
  | .add => some (left + right)
  | .sub => some (left - right)
  | .mul => some (left * right)
  | .div => if right = 0 then none else some (left.sdiv right)
  | .rem => if right = 0 then none else some (left.srem right)
  | .bitAnd => some (left &&& right)
  | .bitXor => some (left ^^^ right)
  | .bitOr => some (left ||| right)
  | .shl => if right.toNat < 32 then some (left <<< right.toNat) else none
  | .shr => if right.toNat < 32 then some (left.sshiftRight right.toNat) else none

/-- Whether a comparison holds of two values. -/
def relates (left right : IntValue) : Relation → Bool
  | .lt => left.slt right
  | .le => left.sle right
  | .gt => right.slt left
  | .ge => right.sle left
  | .eq => left == right
  | .ne => left != right

/-- The value of a unary operator. -/
def unary? (v : IntValue) : UnaryOp → Option IntValue
  | .plus => some v
  | .minus => some (-v)
  | .complement => some (~~~v)
  | .logicalNot => some (truth (v == 0))
  | _ => none

/-- The value of `++` and `--`. -/
def update? (v : IntValue) : UpdateOp → Option IntValue
  | .increment => some (v + 1)
  | .decrement => some (v - 1)
  | .other _ => none

/-- The value of an expression, and the locals behind it. -/
def eval : Expr α → Env → Option (IntValue × Env)
  | .int _ text, env => do return (← literal? text, env)
  | .ident _ name, env => do return (← read env name, env)
  | .unary _ op operand, env => do
    let (v, env) ← eval operand env
    return (← unary? v op, env)
  | .binary _ op left right, env => do
    let (l, env) ← eval left env
    match op with
    | .logicalAnd =>
      if l = 0 then return (0, env)
      let (r, env) ← eval right env
      return (truth (r != 0), env)
    | .logicalOr =>
      if l ≠ 0 then return (1, env)
      let (r, env) ← eval right env
      return (truth (r != 0), env)
    | .arith op =>
      let (r, env) ← eval right env
      return (← arith? l r op, env)
    | .relation relation =>
      let (r, env) ← eval right env
      return (truth (relates l r relation), env)
    | .other _ => none
  | .assign _ op (.ident _ name) value, env => do
    match op with
    | .plain =>
      let (v, env) ← eval value env
      return (v, ← store name v env)
    | .compound op =>
      let old ← read env name
      let (v, env) ← eval value env
      let new ← arith? old v op
      return (new, ← store name new env)
    | .other _ => none
  | .update _ op (.ident _ name) isPostfix, env => do
    let old ← read env name
    let new ← update? old op
    return (if isPostfix then old else new, ← store name new env)
  | .comma _ left right, env => do
    let (_, env) ← eval left env
    eval right env
  | .conditional _ condition thenExpr elseExpr, env => do
    let (c, env) ← eval condition env
    if c ≠ 0 then eval thenExpr env else eval elseExpr env
  | _, _ => none

/-- The value of an expression that may be left out. -/
def evalOr (v : IntValue) : Option (Expr α) → Env → Option (IntValue × Env)
  | none, env => some (v, env)
  | some e, env => eval e env

/-- How a statement ends. -/
inductive Outcome where
  | normal
  | break_
  | continue_
  | return_ (v : IntValue)
deriving Repr, DecidableEq

mutual

/-- Runs a statement: how it ends, and the locals behind it. -/
def exec : Nat → Stmt α → Env → Option (Outcome × Env)
  | 0, _, _ => none
  | n + 1, s, env =>
    match s with
    | .group declarations => execItems n declarations env
    | .declaration _ (some name) none _ _ _ => some (.normal, declare name env)
    | .declaration _ (some name) (some (.expr value)) _ _ _ => do
      -- the name stands for the new local in its own initializer already
      let (v, env) ← eval value (declare name env)
      return (.normal, ← store name v env)
    | .expr value => do return (.normal, (← eval value env).2)
    | .null => some (.normal, env)
    | .compound items => do
      let (o, env) ← execItems n items ([] :: env)
      return (o, env.tail)
    | .ifElse condition thenBody elseBody => do
      let (c, env) ← eval condition env
      if c ≠ 0 then exec n thenBody env
      else
        match elseBody with
        | none => return (.normal, env)
        | some elseBody => exec n elseBody env
    | .while_ condition body => do
      let (c, env) ← eval condition env
      if c = 0 then return (.normal, env)
      match ← exec n body env with
      | (.normal, env) | (.continue_, env) => exec n (.while_ condition body) env
      | (.break_, env) => return (.normal, env)
      | (.return_ v, env) => return (.return_ v, env)
    | .doWhile body condition => do
      match ← exec n body env with
      | (.normal, env) | (.continue_, env) =>
        let (c, env) ← eval condition env
        if c = 0 then return (.normal, env) else exec n (.doWhile body condition) env
      | (.break_, env) => return (.normal, env)
      | (.return_ v, env) => return (.return_ v, env)
    | .for_ none condition post body => do
      let (o, env) ← execLoop n condition post body ([] :: env)
      return (o, env.tail)
    | .for_ (some init) condition post body => do
      let (_, env) ← exec n init ([] :: env)
      let (o, env) ← execLoop n condition post body env
      return (o, env.tail)
    | .break_ => some (.break_, env)
    | .continue_ => some (.continue_, env)
    | .return_ (some value) => do
      let (v, env) ← eval value env
      return (.return_ v, env)
    | _ => none

/-- Runs statements, one after the other, as long as they end normally. -/
def execItems : Nat → List (Stmt α) → Env → Option (Outcome × Env)
  | 0, _, _ => none
  | _ + 1, [], env => some (.normal, env)
  | n + 1, s :: rest, env => do
    match ← exec n s env with
    | (.normal, env) => execItems n rest env
    | (o, env) => return (o, env)

/-- Runs a `for` loop behind its first clause. -/
def execLoop : Nat → Option (Expr α) → Option (Expr α) → Stmt α → Env → Option (Outcome × Env)
  | 0, _, _, _, _ => none
  | n + 1, condition, post, body, env => do
    let (c, env) ← evalOr 1 condition env
    if c = 0 then return (.normal, env)
    match ← exec n body env with
    | (.normal, env) | (.continue_, env) =>
      let (_, env) ← evalOr 0 post env
      execLoop n condition post body env
    | (.break_, env) => return (.normal, env)
    | (.return_ v, env) => return (.return_ v, env)

end

/-- The blocks around the body of a function that is called with arguments. -/
def callEnv (params : List (Param α)) (args : List IntValue) : Env :=
  [(params.filterMap (·.name)).zip (args.map some)]

/-- The body of a function returns a value when it is called with arguments. -/
def Returns (f : FunctionDef α) (body : List (Stmt α)) (args : List IntValue) (v : IntValue) : Prop :=
  ∃ n env, exec n (.compound body) (callEnv f.params args) = some (.return_ v, env)

end CCompiler.Meaning
