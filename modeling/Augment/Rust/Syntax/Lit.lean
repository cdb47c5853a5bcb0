import Augment.Rust.Token
import Augment.Text.CharTable
import Augment.Text.Property.Identifier

/-!
# Literals

A literal token is classified by how it starts: a quote or `r` begins a string, `b` a byte or
byte string, `c` a C string, an apostrophe a character, a digit or a minus sign a number, and
the identifiers `true` and `false` are boolean literals.

A number is an integer when its digits, read in the base its prefix names (`0x`, `0o`, `0b`,
else ten), end in nothing or in a suffix spelled like an identifier (`1e5x` is the integer 1
with the suffix `e5x`); a dot or an exponent makes it a float. The value
of an integer is read exactly, at any size. The value of a string literal undoes its escapes; a
raw string is taken as written.
-/

namespace Augment.Rust

open Augment.Text

/-- The kinds of literal. -/
inductive LitKind where
  | str
  | byteStr
  | cStr
  | byte
  | char
  | int
  | float
  | bool
  | other
  deriving DecidableEq, Repr, Inhabited

/-- A literal: its kind and its text as written (with a leading `-` for a negative number). -/
structure Lit where
  /-- The kind of the literal. -/
  kind : LitKind
  /-- The text of the literal. -/
  text : String
  /-- Where the literal starts. -/
  pos : Pos
  deriving Repr, Inhabited

/-! ### Integers -/

/-- The value of a digit in the given base, if it is one. -/
def digitIn (base : Nat) (c : Char) : Option Nat :=
  match hexDigitValue c with
  | some d => if d < base then some d else none
  | none => none

/-- Whether a text can be a literal's suffix: an identifier's start character, then continue
characters. -/
def isSuffix : List Char → Bool
  | c :: rest => isIdentStart c && rest.all isIdentContinue
  | [] => false

/-- Whether an exponent follows an `e`: a sign, or at least one digit among underscores, then
nothing or a suffix. Otherwise the `e` begins the suffix of an integer. -/
def exponentFollows : List Char → Bool → Bool
  | [], seen => seen
  | '_' :: rest, seen => exponentFollows rest seen
  | c :: rest, seen =>
    if c.isDigit then exponentFollows rest true
    else if c == '-' || c == '+' then true
    else seen && isSuffix (c :: rest)

/-- Reads the digits of an integer in `base`, skipping underscores; answers the value, whether a
digit was seen, and the rest, or `none` when the text is a float. -/
def intDigits (base : Nat) : List Char → Nat → Bool → Option (Nat × Bool × List Char)
  | [], acc, seen => some (acc, seen, [])
  | '_' :: rest, acc, seen => intDigits base rest acc seen
  | c :: rest, acc, seen =>
    if c == '.' && base == 10 then none
    else if (c == 'e' || c == 'E') && base == 10 then
      if exponentFollows rest false then none else some (acc, seen, c :: rest)
    else match digitIn (if base > 10 then base else 10) c with
      | some d => if d < base then intDigits base rest (acc * base + d) true else none
      | none => some (acc, seen, c :: rest)

/-- The value and suffix of an integer literal's text without its sign, or `none` when it is
not one: it starts with a digit, has a digit in its base, and ends in nothing or a suffix. -/
def intParts (s : String) : Option (Nat × List Char) :=
  let cs := s.toList
  let (base, digits) := match cs with
    | '0' :: 'x' :: rest => (16, rest)
    | '0' :: 'o' :: rest => (8, rest)
    | '0' :: 'b' :: rest => (2, rest)
    | cs => (10, cs)
  match cs with
  | c :: _ =>
    if !c.isDigit then none
    else match intDigits base digits 0 false with
      | some (v, true, suffix) =>
        if suffix.isEmpty || isSuffix suffix then some (v, suffix) else none
      | _ => none
  | [] => none

/-- The value of an integer literal, with its sign, or `none` when the text is not one. -/
def intLitValue (s : String) : Option Int :=
  match s.toList with
  | '-' :: rest => (intParts (String.ofList rest)).map fun (v, _) => -(v : Int)
  | _ => (intParts s).map fun (v, _) => (v : Int)

/-- The tuple index an integer literal names, or why it names none: it must be an integer
without a suffix and without a minus sign that fits in 32 bits. The index is then written in
decimal. -/
def tupleIndex (text : String) : Except String Nat :=
  let (negative, body) := match text.toList with
    | '-' :: rest => (true, String.ofList rest)
    | _ => (false, text)
  match intParts body with
  | none => .error "expected integer literal"
  | some (v, suffix) =>
    if !suffix.isEmpty then .error "expected unsuffixed integer"
    else if negative then .error "invalid digit found in string"
    else if v ≥ Nat.pow 2 32 then .error "number too large to fit in target type"
    else .ok v

/-! ### Classification -/

/-- The kind of a literal token's text. -/
def LitKind.ofText (s : String) : LitKind :=
  match s.toList with
  | '"' :: _ | 'r' :: _ => .str
  | 'b' :: '"' :: _ | 'b' :: 'r' :: _ => .byteStr
  | 'b' :: '\'' :: _ => .byte
  | 'c' :: _ => .cStr
  | '\'' :: _ => .char
  | c :: _ =>
    if c.isDigit || c == '-' then
      if (intLitValue s).isSome then .int else .float
    else if s == "true" || s == "false" then .bool
    else .other
  | [] => .other

/-- The literal of a literal token. -/
def Lit.ofToken (text : String) (pos : Pos) : Lit :=
  { kind := LitKind.ofText text, text := text, pos := pos }

/-- The tokens a literal prints as: an identifier for a boolean, else one literal token. -/
def Lit.tokens (l : Lit) : TokenStream :=
  if l.kind == .bool then [.ident l.text l.pos] else [.literal l.text l.pos]

/-- The value of a boolean literal. -/
def Lit.boolValue (l : Lit) : Bool := l.text == "true"

/-! ### String values -/

/-- The value of hexadecimal digits and underscores. -/
def hexValue (cs : List Char) : Nat :=
  cs.foldl (fun acc c => match hexDigitValue c with
    | some d => acc * 16 + d
    | none => acc) 0

/-- Whether a character is skipped after a line continuation. -/
def isContinuationBlank (c : Char) : Bool :=
  c == ' ' || c == '\t' || c == '\n' || c == '\r'

theorem length_dropWhile_le (p : Char → Bool) (l : List Char) :
    (l.dropWhile p).length ≤ l.length :=
  (List.dropWhile_suffix p).length_le

theorem length_drop_dropWhile_le (p : Char → Bool) (l : List Char) :
    ((l.dropWhile p).drop 1).length ≤ l.length := by
  simp only [List.length_drop]
  have h := length_dropWhile_le p l
  omega

/-- Undoes the escapes of a quoted string body up to its closing quote. -/
def unescapeFrom : List Char → List Char
  | [] => []
  | '"' :: _ => []
  | '\\' :: c :: rest =>
    match c with
    | 'n' => '\n' :: unescapeFrom rest
    | 'r' => '\r' :: unescapeFrom rest
    | 't' => '\t' :: unescapeFrom rest
    | '0' => Char.ofNat 0 :: unescapeFrom rest
    | 'x' => match rest with
      | a :: b :: more =>
        Char.ofNat ((hexDigitValue a).getD 0 * 16 + (hexDigitValue b).getD 0) :: unescapeFrom more
      | _ => []
    | 'u' =>
      let body := rest.drop 1
      Char.ofNat (hexValue (body.takeWhile (· != '}'))) ::
        unescapeFrom ((body.dropWhile (· != '}')).drop 1)
    | '\n' | '\r' => unescapeFrom (rest.dropWhile isContinuationBlank)
    | other => other :: unescapeFrom rest
  | '\r' :: '\n' :: rest => '\n' :: unescapeFrom rest
  | c :: rest => c :: unescapeFrom rest
termination_by cs => cs.length
decreasing_by
  all_goals simp only [List.length_cons]
  all_goals grind [length_dropWhile_le, length_drop_dropWhile_le, List.length_drop]

/-- The value of a string literal: the escapes undone, or a raw string's text as written; a
suffix after the closing quote is no part of it. -/
def strLitValue (s : String) : String :=
  match s.toList with
  | '"' :: body => String.ofList (unescapeFrom body)
  | 'r' :: rest =>
    let hashes := (rest.takeWhile (· == '#')).length
    let body := rest.drop (hashes + 1)
    -- the closing quote is the last one: a suffix holds none
    let afterClose := (body.reverse.takeWhile (· != '"')).length
    String.ofList (body.take (body.length - afterClose - 1))
  | _ => ""

/-- The value of a string literal token. -/
def Lit.strValue (l : Lit) : String := strLitValue l.text

end Augment.Rust
