import Augment.Toml.Document

/-!
# Document errors

A document that cannot be read or decoded gives a `TomlError`: a message and the stretch of text
it points at, if any; a key too deep to be built points nowhere. Reading errors say what is wrong and, often, what was expected instead:
`invalid basic string, expected non-double-quote visible characters, `\``. An empty list of
expectations reads `expected nothing`; a literal is quoted in backticks, and a line break is
called `newline`.

Only the first error of a document is reported, so every stage stops at its first one.
-/

namespace Augment.Toml

/-- Why a document could not be read or decoded, and where. -/
structure TomlError where
  /-- What is wrong. -/
  message : String
  /-- The stretch of text it points at, if any. -/
  span : Option Span
  deriving DecidableEq, Repr, Inhabited

/-- What a reading error expected instead. -/
inductive Expected where
  /-- Exactly this text. -/
  | literal (text : String)
  /-- Something of this description. -/
  | description (text : String)
  deriving DecidableEq, Repr

/-- How an expectation is named: a literal in backticks (`newline` for a line break), a
description as it is. -/
def Expected.render : Expected → String
  | .literal "\n" => "newline"
  | .literal s => "`" ++ s ++ "`"
  | .description s => s

/-- A reading error: what is wrong, what was expected if the reader knows, and where. -/
def TomlError.reading (what : String) (expected : Option (List Expected)) (span : Span) :
    TomlError :=
  let tail := match expected with
    | none => ""
    | some [] => ", expected nothing"
    | some es => ", expected " ++ ", ".intercalate (es.map Expected.render)
  { message := what ++ tail, span := some span }

/-- The error moved by an offset: spans found inside a piece of text, placed in the document. -/
def TomlError.shift (e : TomlError) (offset : Nat) : TomlError :=
  { e with span := e.span.map fun s => ⟨s.start + offset, s.stop + offset⟩ }

end Augment.Toml
