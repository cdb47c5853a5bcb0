import Augment.Toml.Read
import Augment.Text.Quoted

/-!
# Decoding documents into records

A document's tables are decoded into records field by field, in the order of their keys (by
code point, whatever order they were written in); the first entry that does not fit stops the
decoding. An entry fails when its key names no field of the record, or when its value has the
wrong type for its field. Fields without an entry keep their defaults. An array decodes into a
record too, its items taken as the fields in their declared order; missing items leave defaults
and extra items are ignored.

The messages say what was found and what was expected:

* `unknown field `x`, expected one of `a`, `b`, `c`` (`expected `a``, `expected `a` or `b``, or
  `there are no fields` for shorter lists), pointing at the key;
* `invalid type: integer `1`, expected a boolean`, pointing at the value. A value is described as
  a string (quoted, with escapes), an integer (`as i128` or `as u128` past 64 bits), a floating
  point number, a boolean, a sequence for an array, and a map for a table or a date;
* `unknown variant `x`, expected ...` for a string that names no choice of an enumeration.

A date reads as a map with one hidden key, which no record has a field for.

An integer too large for 128 bits and a float too large for a double cannot be read as anything:
`integer number overflowed` and `floating-point number overflowed`.
-/

namespace Augment.Toml

open Augment.Text
open Augment.Number

/-! ### Describing values -/

/-- Whether an integer fits in a signed width of bits. -/
def fitsSigned (bits : Nat) (i : Int) : Bool :=
  -Int.pow 2 (bits - 1) ≤ i && i < Int.pow 2 (bits - 1)

/-- Whether an integer fits in an unsigned width of bits. -/
def fitsUnsigned (bits : Nat) (i : Int) : Bool :=
  0 ≤ i && i < Int.pow 2 bits

/-- The widths an integer is read in, narrowest first. -/
inductive IntegerWidth where
  /-- Signed 64 bits. -/
  | i64
  /-- Unsigned 64 bits. -/
  | u64
  /-- Signed 128 bits. -/
  | i128
  /-- Unsigned 128 bits. -/
  | u128
  deriving DecidableEq, Repr

/-- The narrowest width an integer fits in, if any. -/
def IntegerWidth.of? (i : Int) : Option IntegerWidth :=
  if fitsSigned 64 i then some .i64
  else if fitsUnsigned 64 i then some .u64
  else if fitsSigned 128 i then some .i128
  else if fitsUnsigned 128 i then some .u128
  else none

/-- The message of an integer too large to read. -/
def integerOverflow : String := "integer number overflowed"

/-- The message of a float too large to read. -/
def floatOverflow : String := "floating-point number overflowed"

/-- How a float is shown in a type error: its decimal text, with `.0` when it has no point. -/
def floatText (x : Binary64) : String :=
  let s := x.display
  if x.isFinite && !s.contains '.' then s ++ ".0" else s

/-- What a value is, in the words of type errors; a number too large to read is an error. -/
def Value.unexpected (v : Value) (vs : Span) : Except TomlError String :=
  match v with
  | .string s => .ok ("string " ++ debugQuoted s)
  | .integer n =>
    match n, n.bind IntegerWidth.of? with
    | some i, some .i128 => .ok ("integer `" ++ toString i ++ "` as i128")
    | some i, some .u128 => .ok ("integer `" ++ toString i ++ "` as u128")
    | some i, some _ => .ok ("integer `" ++ toString i ++ "`")
    | _, _ => .error { message := integerOverflow, span := some vs }
  | .float (some x) => .ok ("floating point `" ++ floatText x ++ "`")
  | .float none => .error { message := floatOverflow, span := some vs }
  | .boolean b => .ok ("boolean `" ++ (if b then "true" else "false") ++ "`")
  | .datetime _ => .ok "map"
  | .array _ _ => .ok "sequence"
  | .table _ _ => .ok "map"

/-- The name of a value's type where an enumeration's choice needs a table. -/
def Value.kindName : Value → String
  | .string _ => "string"
  | .integer _ => "integer"
  | .float _ => "float"
  | .boolean _ => "boolean"
  | .datetime _ => "datetime"
  | .array _ _ => "array"
  | .table _ _ => "table"

/-! ### Messages -/

/-- A list of names as `one of `a`, `b`, `c``, `a` or `b`, or `a`. -/
def oneOf (names : List String) : String :=
  let q := fun (n : String) => "`" ++ n ++ "`"
  match names with
  | [a] => q a
  | [a, b] => q a ++ " or " ++ q b
  | _ => "one of " ++ ", ".intercalate (names.map q)

/-- The message of an entry whose key names no field. -/
def unknownField (name : String) (fields : List String) : String :=
  "unknown field `" ++ name ++ "`, " ++
    (if fields.isEmpty then "there are no fields" else "expected " ++ oneOf fields)

/-- The message of a string that names no choice. -/
def unknownVariant (name : String) (variants : List String) : String :=
  "unknown variant `" ++ name ++ "`, " ++
    (if variants.isEmpty then "there are no variants" else "expected " ++ oneOf variants)

/-- The message of an enumeration written as something other than a string or a table. -/
def notAnEnum : String := "wanted string or table"

/-- The hidden key a date reads with as a map. -/
def datetimeKey : String := "$__toml_private_datetime"

/-- The error of a value of the wrong type. -/
def invalidType {α : Type} (v : Value) (vs : Span) (expected : String) : Except TomlError α := do
  let found ← v.unexpected vs
  .error { message := "invalid type: " ++ found ++ ", expected " ++ expected, span := some vs }

/-- A table's entries in the order they are decoded: by key. -/
def decodingOrder (es : List (String × Span × Value × Span)) :
    List (String × Span × Value × Span) :=
  es.mergeSort fun a b => a.1 ≤ b.1

/-! ### Decoders -/

/-- A string value. -/
def decodeString (expected : String) (v : Value) (vs : Span) : Except TomlError String :=
  match v with
  | .string s => .ok s
  | _ => invalidType v vs expected

/-- A boolean value. -/
def decodeBool (v : Value) (vs : Span) : Except TomlError Bool :=
  match v with
  | .boolean b => .ok b
  | _ => invalidType v vs "a boolean"

/-- A choice of an enumeration without data: its name as a string, or a table of one entry whose
key is the name and whose value is an empty table or array. -/
def decodeChoice {α : Type} (choices : List (String × α)) (v : Value) (vs : Span) :
    Except TomlError α :=
  let named := fun (s : String) (span : Span) => match choices.lookup s with
    | some a => Except.ok a
    | none => .error { message := unknownVariant s (choices.map (·.1)), span := some span }
  match v with
  | .string s => named s vs
  | .table _ [(k, ks, inner, innerSpan)] => do
    let a ← named k ks
    match inner with
    | .table _ [] | .array _ [] => return a
    | .table _ _ => .error { message := "expected empty table", span := some innerSpan }
    | .array _ _ => .error { message := "expected empty array", span := some innerSpan }
    | other =>
      .error { message := "expected table, found " ++ other.kindName, span := some innerSpan }
  | .table _ [] =>
    .error { message := "wanted exactly 1 element, found 0 elements", span := some vs }
  | .table _ _ =>
    .error { message := "wanted exactly 1 element, more than 1 element", span := some vs }
  | _ => .error { message := notAnEnum, span := some vs }

/-- Decodes a table's entries, by key, as the fields of a record named `name`, or an array's
items as its fields in order: a key that names no field fails, and `step` reads each value
into the record. -/
def decodeRecord {α : Type} (name : String) (fields : List String) (init : α)
    (step : α → String → Value → Span → Except TomlError α) (v : Value) (vs : Span) :
    Except TomlError α :=
  match v with
  | .table _ entries =>
    (decodingOrder entries).foldlM (fun acc (k, ks, val, valSpan) =>
      if fields.contains k then step acc k val valSpan
      else .error { message := unknownField k fields, span := some ks }) init
  | .array _ items =>
    (items.zip fields).foldlM (fun acc ((val, valSpan), f) => step acc f val valSpan) init
  | .datetime _ => .error { message := unknownField datetimeKey fields, span := some vs }
  | _ => invalidType v vs ("struct " ++ name)

/-! ### Any value -/

/-- What any value is expected to be, in type errors. -/
def anyValue : String := "any valid TOML value"

/-- The first failure of checks made per key, in decoding order. -/
def firstByKey (results : List (String × Except TomlError Unit)) : Except TomlError Unit :=
  match ((results.mergeSort fun a b => a.1 ≤ b.1).find? fun r => !r.2.toBool) with
  | some (_, e) => e
  | none => .ok ()

mutual

/-- Checks that a value reads as a value of the format itself: integers within 64 bits, floats
within doubles, everything inside arrays and tables. -/
def checkAny : Value → Span → Except TomlError Unit
  | .integer n, vs =>
    match n, n.bind IntegerWidth.of? with
    | _, some .i64 => .ok ()
    | _, some .u64 => .error { message := "u64 value was too large", span := some vs }
    | _, none => .error { message := integerOverflow, span := some vs }
    | _, some _ => invalidType (.integer n) vs anyValue
  | .float none, vs => .error { message := floatOverflow, span := some vs }
  | .array _ items, _ => checkItems items
  | .table _ es, _ => firstByKey (checkEntries es)
  | _, _ => .ok ()

/-- Checks the items of an array. -/
def checkItems : List (Value × Span) → Except TomlError Unit
  | [] => .ok ()
  | (v, vs) :: rest => do checkAny v vs; checkItems rest

/-- Checks the values of a table's entries, each under its key. -/
def checkEntries : List (String × Span × Value × Span) → List (String × Except TomlError Unit)
  | [] => []
  | (k, _, v, vs) :: rest => (k, checkAny v vs) :: checkEntries rest

end

end Augment.Toml
