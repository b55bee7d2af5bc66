/-!
# Instructions of the target

The instructions of a 64-bit ARM machine that the generator uses, and their texts. A register is used as
a word of 32 bits or of 64 bits.
-/
namespace CCompiler.Machine

/-- The width of a register or of an object in memory. -/
inductive Width where
  | word
  | long
deriving Repr, DecidableEq, Inhabited

def Width.bytes : Width → Nat
  | .word => 4
  | .long => 8

def Width.bits (w : Width) : Nat := 8 * w.bytes

structure Reg where
  index : Nat
  width : Width
deriving Repr, DecidableEq, Inhabited

def Reg.text (r : Reg) : String :=
  match r.width with
  | .word => s!"w{r.index}"
  | .long => s!"x{r.index}"

/-- A label of the generator, unique by its number. -/
structure Label where
  purpose : String
  number : Nat
deriving Repr, DecidableEq, Inhabited

def Label.text (l : Label) : String := s!"L_xcc_{l.purpose}_{l.number}"

def symbolText (name : String) : String := s!"_{name}"

/-- What an address names: a symbol of C or a label. -/
inductive Target where
  | symbol (name : String)
  | label (l : Label)
deriving Repr, DecidableEq

def Target.text : Target → String
  | .symbol name => symbolText name
  | .label l => l.text

inductive Condition where
  | lt
  | le
  | gt
  | ge
  | eq
  | ne
deriving Repr, DecidableEq, Inhabited

def Condition.text : Condition → String
  | .lt => "lt"
  | .le => "le"
  | .gt => "gt"
  | .ge => "ge"
  | .eq => "eq"
  | .ne => "ne"

inductive Operation where
  | add
  | sub
  | mul
  | sdiv
  | and
  | eor
  | orr
  | lsl
  | asr
deriving Repr, DecidableEq, Inhabited

def Operation.text : Operation → String
  | .add => "add"
  | .sub => "sub"
  | .mul => "mul"
  | .sdiv => "sdiv"
  | .and => "and"
  | .eor => "eor"
  | .orr => "orr"
  | .lsl => "lsl"
  | .asr => "asr"

/-- Instructions. Slots are cells below the frame pointer; the top of the stack is the cell at the stack
    pointer. -/
inductive Instr where
  | enter
  | setFrame
  | leave
  | ret
  | growStack (bytes : Nat)
  | shrinkStack (bytes : Nat)
  | storeSlot (r : Reg) (offset : Nat)
  | loadSlot (r : Reg) (offset : Nat)
  | storeTop
  | loadTop (index : Nat)
  | loadStack (r : Reg) (offset : Nat)
  | storeAt (r : Reg) (base : Nat)
  | loadAt (r : Reg) (base : Nat)
  | page (index : Nat) (target : Target)
  | pageOffset (index : Nat) (target : Target)
  | moveZero (r : Reg) (chunk shift : Nat)
  | moveKeep (r : Reg) (chunk shift : Nat)
  | moveBit (value : Nat)
  | truncate
  | extend
  | negate (r : Reg)
  | complement (r : Reg)
  | operate (op : Operation) (dest left right : Reg)
  | multiplySub (dest left right minuend : Reg)
  | addOne (r : Reg)
  | subOne (r : Reg)
  | compare (left right : Reg)
  | compareZero (r : Reg)
  | setIf (condition : Condition)
  | branch (l : Label)
  | branchZero (r : Reg) (l : Label)
  | branchNonzero (r : Reg) (l : Label)
  | call (name : String)
deriving Repr, DecidableEq

def Instr.text : Instr → String
  | .enter => "stp x29, x30, [sp, #-16]!"
  | .setFrame => "mov x29, sp"
  | .leave => "ldp x29, x30, [sp], #16"
  | .ret => "ret"
  | .growStack bytes => s!"sub sp, sp, #{bytes}"
  | .shrinkStack bytes => s!"add sp, sp, #{bytes}"
  | .storeSlot r offset => s!"stur {r.text}, [x29, #-{offset}]"
  | .loadSlot r offset => s!"ldur {r.text}, [x29, #-{offset}]"
  | .storeTop => "str x0, [sp]"
  | .loadTop index => s!"ldr x{index}, [sp]"
  | .loadStack r offset => s!"ldr {r.text}, [sp, #{offset}]"
  | .storeAt r base => s!"str {r.text}, [x{base}]"
  | .loadAt r base => s!"ldr {r.text}, [x{base}]"
  | .page index target => s!"adrp x{index}, {target.text}@PAGE"
  | .pageOffset index target => s!"add x{index}, x{index}, {target.text}@PAGEOFF"
  | .moveZero r chunk shift => s!"movz {r.text}, #{chunk}, lsl #{shift}"
  | .moveKeep r chunk shift => s!"movk {r.text}, #{chunk}, lsl #{shift}"
  | .moveBit value => s!"mov w0, #{value}"
  | .truncate => "mov w0, w0"
  | .extend => "sxtw x0, w0"
  | .negate r => s!"neg {r.text}, {r.text}"
  | .complement r => s!"mvn {r.text}, {r.text}"
  | .operate op dest left right => s!"{op.text} {dest.text}, {left.text}, {right.text}"
  | .multiplySub dest left right minuend =>
    s!"msub {dest.text}, {left.text}, {right.text}, {minuend.text}"
  | .addOne r => s!"add {r.text}, {r.text}, #1"
  | .subOne r => s!"sub {r.text}, {r.text}, #1"
  | .compare left right => s!"cmp {left.text}, {right.text}"
  | .compareZero r => s!"cmp {r.text}, #0"
  | .setIf condition => s!"cset w0, {condition.text}"
  | .branch l => s!"b {l.text}"
  | .branchZero r l => s!"cbz {r.text}, {l.text}"
  | .branchNonzero r l => s!"cbnz {r.text}, {l.text}"
  | .call name => s!"bl {symbolText name}"

/-- Lines of assembly: instructions, labels and the directives for objects, functions and strings. -/
inductive Line where
  | instr (i : Instr)
  | label (l : Label)
  | symbol (name : String)
  | global (name : String)
  | align (exponent : Nat)
  | data
  | text
  | strings
  | zero (bytes : Nat)
  | value (width : Width) (n : Int)
  | asciz (quoted : String)
deriving Repr, DecidableEq

def Line.render : Line → String
  | .instr i => i.text
  | .label l => s!"{l.text}:"
  | .symbol name => s!"{symbolText name}:"
  | .global name => s!".globl {symbolText name}"
  | .align exponent => s!".p2align {exponent}"
  | .data => ".data"
  | .text => ".text"
  | .strings => ".section __TEXT,__cstring,cstring_literals"
  | .zero bytes => s!".zero {bytes}"
  | .value .word n => s!".long {n}"
  | .value .long n => s!".quad {n}"
  | .asciz quoted => s!".asciz {quoted}"

def render (lines : List Line) : String := "\n".intercalate (lines.map Line.render) ++ "\n"

end CCompiler.Machine
