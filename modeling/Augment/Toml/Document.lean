import Augment.Number.Binary64

/-!
# Configuration documents

A TOML document as a tree of tables, each entry remembering where its key and its value stand in
the text, so that errors can point at them.

A table remembers how it came to be: opened by a `[header]`, created on the way to a deeper
header, created by a dotted key, or written inline. These decide which later definitions may
extend it. An array remembers whether `[[headers]]` built it.
-/

namespace Augment.Toml

open Augment.Number

/-- A stretch of the text, as character offsets: from `start` up to, not including, `stop`. -/
structure Span where
  /-- The offset of the first character. -/
  start : Nat
  /-- The offset after the last character. -/
  stop : Nat
  deriving DecidableEq, Repr, Inhabited

/-- The empty stretch at an offset. -/
def Span.at (n : Nat) : Span := ⟨n, n⟩

/-- The empty stretch where a span starts. -/
def Span.before (s : Span) : Span := ⟨s.start, s.start⟩

/-- The empty stretch where a span stops. -/
def Span.after (s : Span) : Span := ⟨s.stop, s.stop⟩

/-- How a table came to be. -/
inductive TableKind where
  /-- The document itself. -/
  | root
  /-- Opened by a `[header]` or a `[[header]]`. -/
  | header
  /-- Created on the way to a deeper header, not yet opened itself. -/
  | implicit
  /-- Created by a dotted key. -/
  | dotted
  /-- Written inline, `{ ... }`; closed once written. -/
  | inline
  deriving DecidableEq, Repr, Inhabited

/-- A value of a document. -/
inductive Value where
  /-- A string. -/
  | string (s : String)
  /-- An integer; none when its digits are empty, as in `0x`. -/
  | integer (n : Option Int)
  /-- A float; none when its decimal is too large for a double. -/
  | float (x : Option Binary64)
  /-- A boolean. -/
  | boolean (b : Bool)
  /-- A date, a time or both, as written. -/
  | datetime (text : String)
  /-- An array; `ofTables` for an array of tables built by `[[headers]]`. -/
  | array (ofTables : Bool) (items : List (Value × Span))
  /-- A table: its entries, each a key, the key's span, the value and the value's span. -/
  | table (kind : TableKind) (entries : List (String × Span × Value × Span))
  deriving Repr, Inhabited

/-- The name of a value's type in messages about extending it. -/
def Value.typeName : Value → String
  | .string _ => "string"
  | .integer _ => "integer"
  | .float _ => "float"
  | .boolean _ => "boolean"
  | .datetime _ => "datetime"
  | .array _ _ => "array"
  | .table .inline _ => "inline table"
  | .table _ _ => "table"

/-- The entry of a table. -/
def Value.get? (v : Value) (key : String) : Option Value :=
  match v with
  | .table _ entries => (entries.find? (·.1 == key)).map (·.2.2.1)
  | _ => none

end Augment.Toml
