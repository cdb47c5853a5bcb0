import Augment.Toml.Scalar

/-!
# Reading documents

A document is read in two steps: its text into statements (`Statement.read`), which checks the
shape, then the statements into a tree of tables, which decodes keys and scalars and checks that
no key is defined twice. The first error of the first step wins over any of the second.

Statements are built in order. A key-value pair decodes its key, then its value, then goes into
the table the last header opened, through the tables its dotted key names. A header closes the
table before it, decodes its key and opens its own:

* `[a.b]` opens a new table `b`, or takes over a table `b` that a deeper header created on its
  way; any other `b` is a duplicate key. Its key and its span are then the header's.
* `[[a.b]]` starts a new table, which its closing puts at the end of the array of tables `b`,
  creating the array; a `b` that is no array of tables is a duplicate key then.

On the way to a table, missing tables are created; the way may go through the last table of an
array of tables, but never into an inline table or a value that is no table. Dotted keys may
extend the tables that dotted keys created, and the tables that headers created on their way,
which then count as created by dotted keys; a pair with a dotted key goes into a table that
dotted keys created, and a pair with a plain key into one that they did not. Inside an inline
table, dotted keys go only through the tables that its own dotted keys created.

A key of more than `maxKeyParts` parts is refused before it is built, with an error that points
nowhere.
-/

namespace Augment.Toml

open Augment.Number

/-- A decoded key part and where it stands. -/
abbrev Key := String × Span

/-- A table's entries: key, key span, value, value span. -/
abbrev Entries := List (String × Span × Value × Span)

namespace Entries

/-- The entry of a key. -/
def lookup (es : Entries) (k : String) : Option (Span × Value × Span) :=
  (es.find? (·.1 == k)).map (·.2)

/-- The entries with a key's value replaced. -/
def replace (es : Entries) (k : String) (v : Value) : Entries :=
  es.map fun e => if e.1 == k then (e.1, e.2.1, v, e.2.2.2) else e

/-- The entries without a key. -/
def erase (es : Entries) (k : String) : Entries :=
  es.filter (·.1 != k)

end Entries

/-- Fails with a message at a span. -/
def failAt {α : Type} (message : String) (span : Span) : Except TomlError α :=
  .error { message, span := some span }

/-- The message of a key defined twice. -/
def duplicateKey : String := "duplicate key"

/-- The message of a dotted key or header that goes through a value that is no table. -/
def cannotExtend (v : Value) : String :=
  "cannot extend value of type " ++ v.typeName ++ " with a dotted key"

/-- How a path of keys goes through the tables of a document: the kind of the tables it creates,
and what it does at a table already there, by the table's kind: go in, the table taking a kind,
or stop with a message. -/
structure Route where
  /-- The kind of the tables it creates. -/
  fresh : TableKind
  /-- What it does at a table already there. -/
  enter : TableKind → Except String TableKind

/-- The route of a header's key: it goes through any table but an inline one. -/
def Route.header : Route where
  fresh := .implicit
  enter kind := if kind == .inline then .error (cannotExtend (.table .inline [])) else .ok kind

/-- The route of a dotted key in a document's table: it goes through the tables that dotted keys
created and those that headers created on their way, which count as created by dotted keys from
then on. -/
def Route.dotted : Route where
  fresh := .dotted
  enter
    | .inline => .error (cannotExtend (.table .inline []))
    | .implicit | .dotted => .ok .dotted
    | _ => .error duplicateKey

/-- The route of a dotted key inside an inline table: it goes only through the tables that the
inline table's own dotted keys created. -/
def Route.inline : Route where
  fresh := .dotted
  enter kind := if kind == .dotted then .ok .dotted else .error duplicateKey

/-- Goes down a path of keys from a table along a route, creating the tables that are missing,
and changes the table at its end by `f`, which also answers a result. -/
def descend {α : Type} (route : Route)
    (f : TableKind → Entries → Except TomlError (Value × α)) :
    Value → List Key → Except TomlError (Value × α)
  | .table kind es, [] => f kind es
  | .table kind es, (k, ks) :: rest =>
    match Entries.lookup es k with
    | none => do
      let (v, a) ← descend route f (.table route.fresh []) rest
      return (.table kind (es ++ [(k, ks, v, ks)]), a)
    | some (_, .array true items, _) =>
      match items.getLast? with
      | some (last, ls) => do
        let (v, a) ← descend route f last rest
        return (.table kind (Entries.replace es k (.array true (items.dropLast ++ [(v, ls)]))), a)
      | none => failAt (cannotExtend (.array true [])) ks
    | some (_, .table inner ies, _) =>
      match route.enter inner with
      | .error message => failAt message ks
      | .ok inner => do
        let (v, a) ← descend route f (.table inner ies) rest
        return (.table kind (Entries.replace es k v), a)
    | some (_, v, _) => failAt (cannotExtend v) ks
  | v, _ => failAt (cannotExtend v) (Span.at 0)

/-- The path and the last key of a non-empty key. -/
def splitKey (key : List Key) : List Key × Key :=
  (key.dropLast, key.getLast?.getD ("", Span.at 0))

/-- A table with a pair inserted by its dotted key. The table at the end of the path must have
been made by dotted keys exactly when the key is dotted, and must not hold the last key yet. -/
def insertPair (t : Value) (key : List Key) (v : Value) (vs : Span) : Except TomlError Value := do
  let (path, (leaf, ls)) := splitKey key
  let (t, _) ← descend Route.dotted (fun kind es =>
    if (kind == .dotted) == path.isEmpty || (Entries.lookup es leaf).isSome then
      failAt duplicateKey ls
    else .ok (.table kind (es ++ [(leaf, ls, v, vs)]), ())) t path
  return t

/-- An inline table with a pair inserted by its dotted key, which must not be there yet. -/
def insertInline (t : Value) (key : List Key) (v : Value) (vs : Span) :
    Except TomlError Value := do
  let (path, (leaf, ls)) := splitKey key
  let (t, _) ← descend Route.inline (fun kind es =>
    if (Entries.lookup es leaf).isSome then failAt duplicateKey ls
    else .ok (.table kind (es ++ [(leaf, ls, v, vs)]), ())) t path
  return t

/-- The most parts a key may have. -/
def maxKeyParts : Nat := 80

/-- Decodes the parts of a key, which may have at most `maxKeyParts` of them. -/
def decodeKey (parts : List KeyPart) : Except TomlError (List Key) := do
  let key ← parts.mapM fun p => do return (← Scalar.key p, p.span)
  if maxKeyParts < key.length then .error { message := "recursion limit", span := none }
  return key

/-! ### Values -/

/-- The integer written by digits in a base, a decimal one with an optional sign; none for no
digits or for a character that is no digit of the base. -/
def integerValue (digits : List Char) (radix : Nat) : Option Int :=
  let (negative, ds) := match digits with
    | '-' :: rest => (true, rest)
    | '+' :: rest => (false, rest)
    | _ => (false, digits)
  if ds.isEmpty || !ds.all (Scalar.isDigitOf radix) then none
  else
    let n := ds.foldl (fun acc c => acc * radix + (Scalar.hexDigit? c).getD 0) 0
    some (if negative then -(n : Int) else n)

/-- The document value of a decoded scalar. -/
def Scalar.toValue : Scalar → Value
  | .string s => .string s
  | .integer ds radix => .integer (integerValue ds radix)
  | .float text =>
    let x := (Binary64.ofText? text).getD .nan
    .float (if x.isFinite || text.contains 'i' || text.contains 'n' then some x else none)
  | .boolean b => .boolean b
  | .datetime text => .datetime (String.ofList text)

mutual

/-- Builds a value as written. -/
def buildValue : ValueSyntax → Except TomlError (Value × Span)
  | .scalar text span quoting => do
    return ((← Scalar.ofSyntax text span quoting).toValue, span)
  | .array items span => do
    return (.array false (← buildItems items), span)
  | .inline entries span => do
    return (← buildInline entries (.table .inline []), span)

/-- Builds the items of an array. -/
def buildItems : List ValueSyntax → Except TomlError (List (Value × Span))
  | [] => .ok []
  | v :: rest => do
    let item ← buildValue v
    return item :: (← buildItems rest)

/-- Builds the pairs of an inline table into it. -/
def buildInline : List (List KeyPart × ValueSyntax) → Value → Except TomlError Value
  | [], t => .ok t
  | (key, v) :: rest, t => do
    let key ← decodeKey key
    let (value, vs) ← buildValue v
    buildInline rest (← insertInline t key value vs)

end

/-! ### Statements -/

/-- The header a table was opened by: whether it is an array table, its key and its span. -/
structure OpenHeader where
  /-- Whether it is a `[[header]]`. -/
  isArray : Bool
  /-- Its key. -/
  key : List Key
  /-- Its span. -/
  span : Span

/-- A document being built: the root table, the table being filled, and the header that opened
it (none for the root itself). -/
structure Builder where
  /-- The root table. -/
  root : Value
  /-- The table being filled. -/
  current : Value
  /-- The header that opened it. -/
  header : Option OpenHeader

namespace Builder

/-- The document once the table being filled is put in its place. -/
def close (b : Builder) : Except TomlError Value :=
  match b.header with
  | none => .ok b.current
  | some h => do
    let (path, (leaf, ls)) := splitKey h.key
    let (root, _) ← descend Route.header (fun kind es =>
      if h.isArray then
        match Entries.lookup es leaf with
        | some (_, .array true items, _) =>
          let items := items ++ [(b.current, h.span)]
          .ok (.table kind (Entries.replace es leaf (.array true items)), ())
        | none => .ok (.table kind (es ++ [(leaf, ls, .array true [(b.current, h.span)], ls)]), ())
        | some _ => failAt duplicateKey ls
      else
        match Entries.lookup es leaf with
        | none => .ok (.table kind (es ++ [(leaf, ls, b.current, h.span)]), ())
        | some _ => failAt duplicateKey ls) b.root path
    return root

/-- Opens a header's table: a new one, or the implicit table it takes over. A table of an array
of tables is always new; where it goes is settled when it closes. -/
def openHeader (root : Value) (h : OpenHeader) : Except TomlError Builder := do
  if h.isArray then return { root, current := .table .header [], header := some h }
  let (path, (leaf, ls)) := splitKey h.key
  let (root, taken) ← descend Route.header (fun kind es =>
    match Entries.lookup es leaf with
    | none => .ok (.table kind es, [])
    | some (_, .table .implicit children, _) =>
      .ok (.table kind (Entries.erase es leaf), children)
    | some _ => failAt duplicateKey ls) root path
  return { root, current := .table .header taken, header := some h }

/-- Builds one statement. -/
def step (b : Builder) : Statement → Except TomlError Builder
  | .header isArray key span => do
    let root ← b.close
    let key ← decodeKey key
    openHeader root { isArray, key, span }
  | .keyValue key v => do
    let key ← decodeKey key
    let (value, vs) ← buildValue v
    let current ← insertPair b.current key value vs
    return { b with current }

end Builder

/-- Reads a document: its root table, or the first error. -/
def readDocument (text : String) : Except TomlError Value := do
  let statements ← Statement.read text
  let empty := Value.table .root []
  let b ← statements.foldlM Builder.step { root := empty, current := empty, header := none }
  b.close

end Augment.Toml
