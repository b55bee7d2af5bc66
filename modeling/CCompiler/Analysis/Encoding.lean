import CCompiler.Analysis.SourceUnit
import CCompiler.Syntax.Listing

/-!
# Analyses as JSON

What an analysis found out: functions with their locals, the names of the file, records with their
layout, and the type of every expression.
-/
namespace CCompiler

/-- A type as its text. A length that cannot be written stands for the whole type. -/
def CType.json (t : CType) : Json :=
  match t.lengths.find? fun n => !Number.isWritable n with
  | some n => .int n
  | none => .string t.text

def TypeOp.json : TypeOp → Json
  | .pointer => .array [.string "ptr", .int 0]
  | .array n => .array [.string "arr", .int n]
  | .unprototyped isVariadic => .array [.string "fn", .array [.null, .bool isVariadic]]
  | .function params isVariadic =>
    .array [.string "fn", .array [.ofList CType.json params, .bool isVariadic]]

def CType.parts (t : CType) : Json :=
  .object [("str", t.json), ("name", .string t.name), ("ops", .ofList TypeOp.json t.ops),
    ("quals", .ofTexts t.qualifiers)]

def Analysis.Symbol.json : Analysis.Symbol → Json
  | .object name type alignment isExtern =>
    .object [("var", .string name), ("type", type.json), ("alignment", .ofOption .int alignment),
      ("extern", .bool isExtern)]
  | .enumerator name value =>
    .object [("enum", .string name), ("value", .int value), ("type", CType.int.json)]

def paramsJson (params : Option (List CType)) : Json := .ofOption (.ofList CType.json) params

def RecordTable.recordJson (table : RecordTable) (entry : String × List RecordMember) : Json :=
  let type := CType.ofName entry.1
  let known (r : Except Cyclic (Option Int)) : Json := .ofOption .int (r.toOption.getD none)
  let member (m : RecordMember) : Json := .array [.ofOption .string m.name, m.type.json,
    .ofOption .int m.alignment, .ofOption .int m.bitWidth]
  .object [("record", .string entry.1), ("size", known (table.size? type none)),
    ("align", known (table.align? type)), ("members", .ofList member entry.2)]

/-- The analysis of a unit as data. Signatures that are built in are left out. -/
def Analysis.State.json (s : Analysis.State) (unit : SourceUnit NodeId) : Json :=
  let scope (id : Nat) : Analysis.Scope := s.scopes[id]?.getD {}
  let symbols (id : Nat) : Json := .ofList (fun (_, symbol) => symbol.json) (scope id).symbols
  let shape (f : Signature) : List Json := [f.returnType.json, paramsJson f.params, .bool f.isVariadic]
  .object [
    ("functions", .ofList (fun (name, info) => .object [("name", .string name),
      ("returns", info.returnType.json), ("locals", symbols info.scope)]) s.functions),
    ("globals", symbols 0),
    ("typedefs", .ofList (fun (name, t) => .array [.string name, t.json]) (scope 0).typedefs),
    ("signatures", .ofList (fun (name, f) => .array (.string name :: shape f))
      (s.signatures.filter fun (name, _) => !name.startsWith "__builtin_")),
    ("overloads", .ofList (fun (name, fs) => .array [.string name, .ofList (fun f => .array (shape f)) fs])
      s.overloads),
    ("records", .ofList s.records.recordJson s.records),
    ("types", .ofList (fun (kind, note) => .array [.string kind,
      .ofOption CType.json (note.bind fun id => s.types[id]?)]) unit.listing)]

end CCompiler
