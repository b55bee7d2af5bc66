import CCompiler.Number.Double
import CCompiler.Number.Fault

/-!
# JSON

Values of JSON: texts, numbers, truth values, arrays, and objects whose fields keep their order.

Texts are written in ASCII: other characters become escapes, above U+FFFF in pairs. A layout says what
stands between the items and whether each stands on a line of its own.
-/
namespace CCompiler

/-- A value. A number with a point or an exponent keeps its spelling. -/
inductive Json where
  | null
  | bool (b : Bool)
  | int (n : Int)
  | decimal (text : String)
  | string (s : String)
  | array (items : List Json)
  | object (fields : List (String × Json))
deriving Repr, BEq, Inhabited

namespace Json

def fields : Json → List (String × Json)
  | .object fields => fields
  | _ => []

def items : Json → List Json
  | .array items => items
  | _ => []

def get? (j : Json) (name : String) : Option Json := j.fields.lookup name

def field (j : Json) (name : String) : Json := (j.get? name).getD .null

def string? : Json → Option String
  | .string s => some s
  | _ => none

def bool? : Json → Option Bool
  | .bool b => some b
  | _ => none

def isNull : Json → Bool
  | .null => true
  | _ => false

def textField (j : Json) (name : String) (default : String) : String :=
  ((j.field name).string?).getD default

def flagField (j : Json) (name : String) (default : Bool) : Bool :=
  ((j.field name).bool?).getD default

def itemsField (j : Json) (name : String) : List Json := (j.field name).items

mutual

def values : Json → List Json
  | .array items => .array items :: valuesOfItems items
  | .object fields => .object fields :: valuesOfFields fields
  | j => [j]

def valuesOfItems : List Json → List Json
  | [] => []
  | item :: rest => item.values ++ valuesOfItems rest

def valuesOfFields : List (String × Json) → List Json
  | [] => []
  | (_, value) :: rest => value.values ++ valuesOfFields rest

end

def ofList {α : Type} (f : α → Json) (items : List α) : Json := .array (items.map f)

def ofOption {α : Type} (f : α → Json) : Option α → Json
  | none => .null
  | some x => f x

def ofTexts (texts : List String) : Json := ofList .string texts

/-- The fields with a field of a name, in the place of the one before. -/
def putField (name : String) (value : Json) : List (String × Json) → List (String × Json)
  | [] => [(name, value)]
  | (n, v) :: rest => if n = name then (name, value) :: rest else (n, v) :: putField name value rest

end Json

end CCompiler

namespace CCompiler.Json

def hexDigit (n : Nat) : Char := "0123456789abcdef".toList.getD n '0'

def unitEscape (n : Nat) : List Char :=
  ['\\', 'u', hexDigit (n / 4096 % 16), hexDigit (n / 256 % 16), hexDigit (n / 16 % 16), hexDigit (n % 16)]

def charEscape (c : Char) : List Char :=
  match c with
  | '"' => ['\\', '"']
  | '\\' => ['\\', '\\']
  | '\n' => ['\\', 'n']
  | '\r' => ['\\', 'r']
  | '\t' => ['\\', 't']
  | '\x08' => ['\\', 'b']
  | '\x0c' => ['\\', 'f']
  | c =>
    let n := c.toNat
    if 0x20 ≤ n && n < 0x7F then [c]
    else if n < 0x10000 then unitEscape n
    else unitEscape (0xD800 + (n - 0x10000) / 0x400) ++ unitEscape (0xDC00 + (n - 0x10000) % 0x400)

def quote (s : String) : String := "\"" ++ String.ofList (s.toList.flatMap charEscape) ++ "\""

/-- A number that is no integer, with the fewest digits that read back as the same number. -/
def number (text : String) : String :=
  match Double.ofText? text.toList with
  | some (.infinite isNegative) => if isNegative then "-Infinity" else "Infinity"
  | some .nan => "NaN"
  | some d => d.text
  | none => text

/-- How values are laid out: what stands behind an item and between a name and its value, and by how much
    items are indented on lines of their own. -/
structure Layout where
  itemEnd : String
  nameEnd : String
  indent : Option Nat
deriving Repr, DecidableEq

def Layout.tight : Layout := ⟨",", ":", none⟩

def Layout.line : Layout := ⟨", ", ": ", none⟩

def Layout.tree : Layout := ⟨",", ": ", some 2⟩

def Layout.break_ (layout : Layout) (depth : Nat) : String :=
  match layout.indent with
  | none => ""
  | some width => "\n" ++ String.ofList (List.replicate (width * depth) ' ')

def Layout.enclose (layout : Layout) (first last : String) (depth : Nat) (items : List String) : String :=
  if items.isEmpty then first ++ last
  else
    first ++ layout.break_ (depth + 1)
      ++ (layout.itemEnd ++ layout.break_ (depth + 1)).intercalate items ++ layout.break_ depth ++ last

mutual

def renderAt (layout : Layout) (depth : Nat) : Json → String
  | .null => "null"
  | .bool b => if b then "true" else "false"
  | .int n => toString n
  | .decimal text => number text
  | .string s => quote s
  | .array items => layout.enclose "[" "]" depth (renderItems layout (depth + 1) items)
  | .object fields => layout.enclose "\x7b" "\x7d" depth (renderFields layout (depth + 1) fields)

def renderItems (layout : Layout) (depth : Nat) : List Json → List String
  | [] => []
  | item :: rest => renderAt layout depth item :: renderItems layout depth rest

def renderFields (layout : Layout) (depth : Nat) : List (String × Json) → List String
  | [] => []
  | (name, value) :: rest =>
    (quote name ++ layout.nameEnd ++ renderAt layout depth value) :: renderFields layout depth rest

end

def render (layout : Layout) (j : Json) : String := renderAt layout 0 j

mutual

def isWritable : Json → Bool
  | .int n => Number.isWritable n
  | .array items => itemsAreWritable items
  | .object fields => fieldsAreWritable fields
  | _ => true

def itemsAreWritable : List Json → Bool
  | [] => true
  | item :: rest => item.isWritable && itemsAreWritable rest

def fieldsAreWritable : List (String × Json) → Bool
  | [] => true
  | (_, value) :: rest => value.isWritable && fieldsAreWritable rest

end

/-! ## Values in messages

How a value of JSON is named and spelled in a message, and values with the fields of objects in order.
-/

def kindName : Json → String
  | .null => "NoneType"
  | .bool _ => "bool"
  | .int _ => "int"
  | .decimal _ => "float"
  | .string _ => "str"
  | .array _ => "list"
  | .object _ => "dict"

def shownNumber (text : String) : String := ((Double.ofText? text.toList).map Double.text).getD text

mutual

/-- The spelling of a value among others. -/
def shownInside : Json → String
  | .null => "None"
  | .bool b => if b then "True" else "False"
  | .int n => toString n
  | .decimal text => shownNumber text
  | .string s => Text.quoted s
  | .array items => "[" ++ ", ".intercalate (shownItems items) ++ "]"
  | .object fields => "\x7b" ++ ", ".intercalate (shownFields fields) ++ "\x7d"

def shownItems : List Json → List String
  | [] => []
  | item :: rest => shownInside item :: shownItems rest

def shownFields : List (String × Json) → List String
  | [] => []
  | (name, value) :: rest => (Text.quoted name ++ ": " ++ shownInside value) :: shownFields rest

end

/-- The spelling of a value on its own: a text stands for itself. -/
def shown : Json → String
  | .string s => s
  | j => shownInside j

mutual

/-- A value with the fields of all objects in the order of their names. -/
def sorted : Json → Json
  | .array items => .array (sortedItems items)
  | .object fields => .object ((sortedFields fields).mergeSort fun a b => a.1 ≤ b.1)
  | j => j

def sortedItems : List Json → List Json
  | [] => []
  | item :: rest => sorted item :: sortedItems rest

def sortedFields : List (String × Json) → List (String × Json)
  | [] => []
  | (name, value) :: rest => (name, sorted value) :: sortedFields rest

end

/-- Whether a value is a number equal to one; the truth value counts as one. -/
def isOne : Json → Bool
  | .bool b => b
  | .int n => n = 1
  | .decimal text => Double.ofText? text.toList == some (.finite false Double.hiddenBit (-52))
  | _ => false

end CCompiler.Json
