import Augment.Expand.Error
import Augment.Rust.Syntax.File

/-!
# The change-notification derive at compile time

The derive marks a struct with named fields and no generic parameters; it expands to nothing,
since the members it stands for are generated separately. Its helper attribute
`#[notify_changed]` on a field takes one option, `generate_event`, a flag written alone, as
`= true`/`= false`, or as a string holding one of those.

The checks run in order and report every error they find:

1. the input must read as a derive input;
2. it must be a struct with named fields, else one shape error;
3. every field's helper attributes are read, each option in order: an unknown option, an option
   given twice, a value of the wrong type or form, and a helper written as `= value` are errors;
4. with no errors so far, generic parameters are one more.

The field reader also gives each field its `generate_event` flag (`fieldFlag`): the options of all
of a field's helper attributes are read as one list, and the first `generate_event` among them sets
the flag. The derive generates nothing from it; the build reads the flag again, from the field's
markers.
-/

namespace Augment.Expand

open Augment.Rust

/-- The option a field's helper attribute takes. -/
def notifyOptionNames : List String := ["generate_event"]

/-- How option errors name the type of a literal; C strings have no name of their own. -/
def litTypeName : LitKind → String
  | .str => "string"
  | .byteStr => "byte string"
  | .cStr => "unknown"
  | .byte => "byte"
  | .char => "char"
  | .int => "int"
  | .float => "float"
  | .bool => "bool"
  | .other => "verbatim"

/-- How option errors name the kind of an expression; raw address-of expressions have no name of
their own. -/
def exprTypeName : ExprKind → String
  | .array => "array" | .assign => "assign" | .async => "async" | .await => "await"
  | .binary _ => "binary" | .block => "block" | .breakExpr => "break" | .call => "call"
  | .cast => "cast" | .closure => "closure" | .constBlock => "const"
  | .continueExpr => "continue" | .field => "field" | .forLoop => "for_loop" | .ifExpr => "if"
  | .index => "index" | .infer => "infer" | .letExpr => "let" | .lit _ => "lit"
  | .loopExpr => "loop" | .macroCall _ => "macro" | .matchExpr => "match"
  | .methodCall => "method_call" | .paren => "paren" | .path => "path" | .range => "range"
  | .rawAddr => "unknown" | .reference => "reference" | .repeatExpr => "repeat"
  | .returnExpr => "return" | .struct => "struct" | .tryExpr => "try" | .tryBlock => "try_block"
  | .tuple => "tuple" | .unary => "unary" | .unsafeBlock => "unsafe" | .verbatim => "verbatim"
  | .whileLoop => "while" | .yieldExpr => "yield"

/-- Why a value is no flag: a boolean, or a string that spells one, is. -/
def flagValueError (v : Expr) : Option MarkerError :=
  match v.kind with
  | .lit l => match l.kind with
    | .bool => none
    | .str =>
      let s := l.strValue
      if s == "true" || s == "false" then none else some (.unknownValue s)
    | k => some (.unexpectedType (litTypeName k))
  | k => some (.unexpectedType (exprTypeName k))

/-- Why an option's contents are no flag. -/
def flagError (m : Meta) : Option MarkerError :=
  match m with
  | .bare _ => none
  | .list _ _ tokens closePos =>
    match parseNestedMetaList tokens closePos with
    | .error e => some (.custom e.message)
    | .ok _ => some (.unexpectedFormat "list")
  | .nameValue _ v => flagValueError v

/-- The name of an option: its path's segments joined by `::`. -/
def optionName (p : Path) : String :=
  "::".intercalate (p.segments.map (·.ident))

/-- Reads one option, given whether `generate_event` was seen; answers whether it is seen now,
and the errors. -/
def readOption (seen : Bool) : NestedMeta → Bool × List MarkerError
  | .lit _ => (seen, [.unexpectedFormat "literal"])
  | .contents m =>
    let name := optionName m.path
    if name == "generate_event" then
      if seen then (seen, [.duplicateField name])
      else (true, (flagError m).toList)
    else (seen, [.unknownField name notifyOptionNames])

/-- Reads one attribute of a field: only helper attributes count. -/
def readFieldAttr (seen : Bool) (a : Attribute) : Bool × List MarkerError :=
  if a.content.path.isIdent "notify_changed" then
    match a.content with
    | .bare _ => (seen, [])
    | .nameValue _ _ =>
      (seen, [.custom "Name-value arguments are not supported. Use #[notify_changed(...)]"])
    | .list _ _ tokens closePos =>
      match parseNestedMetaList tokens closePos with
      | .error e => (seen, [.custom e.message])
      | .ok items => items.foldl (fun (seen, errs) item =>
          let (seen, more) := readOption seen item
          (seen, errs ++ more)) (seen, [])
  else (seen, [])

/-- The errors of one field's helper attributes, in order. -/
def fieldErrors (f : Field) : List MarkerError :=
  (f.attrs.foldl (fun (seen, errs) a =>
    let (seen, more) := readFieldAttr seen a
    (seen, errs ++ more)) (false, [])).2

/-- The options a helper attribute holds, in written order: none when it is written alone, or when
it is not a helper or its list does not read. -/
def helperOptions (a : Attribute) : List NestedMeta :=
  if a.content.path.isIdent "notify_changed" then
    match a.content with
    | .list _ _ tokens closePos =>
      match parseNestedMetaList tokens closePos with
      | .ok items => items
      | .error _ => []
    | _ => []
  else []

/-- The option named `generate_event`, if this element of an option list is one. -/
def generateEventOption? : NestedMeta → Option Meta
  | .contents m => if optionName m.path == "generate_event" then some m else none
  | .lit _ => none

/-- The flag a `generate_event` option sets: written alone it is `true`, `= b` gives the boolean
`b`, and a string gives the boolean it spells. -/
def optionFlag : Meta → Bool
  | .bare _ => true
  | .nameValue _ v =>
    match v.kind with
    | .lit l => match l.kind with
      | .bool => l.boolValue
      | .str => l.strValue == "true"
      | _ => false
    | _ => false
  | .list .. => false

/-- The flag an option list sets: that of its first `generate_event` option, `false` without
one. -/
def optionsFlag (items : List NestedMeta) : Bool :=
  match items.findSome? generateEventOption? with
  | some m => optionFlag m
  | none => false

/-- The `generate_event` flag the field reader gives a field: the options of all its helper
attributes are read as one list. -/
def fieldFlag (f : Field) : Bool :=
  optionsFlag (f.attrs.flatMap helperOptions)

/-- The shape error of a declaration, if it is not a struct with named fields. -/
def shapeError (d : TypeDecl) : Option MarkerError :=
  match d.kind, d.fields with
  | .enum, _ => some (.unsupportedShape "enum" "struct with named fields")
  | .union, _ => some (.unsupportedShape "union" "struct with named fields")
  | .struct, .named _ => none
  | .struct, .unit => some (.unsupportedShape "no fields" "named fields")
  | .struct, .unnamed [_] => some (.unsupportedShape "one unnamed field" "named fields")
  | .struct, .unnamed _ => some (.unsupportedShape "unnamed fields" "named fields")

/-- The errors of a derive input. -/
def notifyErrors (d : TypeDecl) : List MarkerError :=
  match shapeError d with
  | some e => [e]
  | none =>
    match d.fields.toList.flatMap fieldErrors with
    | [] =>
      if d.generics.params.isEmpty then []
      else [.custom ("NotifyChanged cannot be derived for generic type `" ++ d.ident ++ "`")]
    | errs => errs

/-- What the change-notification derive expands to. -/
def expandNotify (input : TokenStream) : TokenStream :=
  match parseDeriveInput input with
  | .error e => compileErrorTokens e.message
  | .ok d => compileErrors ((notifyErrors d).map MarkerError.message)

end Augment.Expand
