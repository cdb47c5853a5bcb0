import Augment.Toml.Error

/-!
# Reporting document errors

An error is reported with the line it points at:

```text
TOML parse error at line 2, column 8
  |
2 | init = "Once"
  |        ^^^^^^
unknown variant `Once`, expected `check-then-create` or `once`
```

Positions are computed on the text's UTF-8 bytes. The line is found from the first byte of the
span (a span past the end points at the last byte, shifted by the overshoot); the column counts
the characters from the start of the line to that byte, or its bytes when the character there
takes more than one. The marks cover the span's bytes, at least one and at most to the end of the
line. An error that points nowhere is reported by its message alone.
-/

namespace Augment.Toml

/-- The byte offset of a character offset in a text. -/
def byteOffset (text : String) (n : Nat) : Nat :=
  (String.ofList (text.toList.take n)).utf8ByteSize

/-- The line (from 0) and column (from 0) of a byte offset in a text's bytes. -/
def linePosition (bytes : ByteArray) (index : Nat) : Nat × Nat :=
  if bytes.size == 0 then (0, index)
  else
    let safe := min index (bytes.size - 1)
    let overshoot := index - safe
    let before := (bytes.extract 0 safe).toList
    let lineStart := match before.reverse.findIdx? (· == 10) with
      | some k => safe - k
      | none => 0
    let line := ((bytes.extract 0 lineStart).toList.filter (· == 10)).length
    let column := match String.fromUTF8? (bytes.extract lineStart (safe + 1)) with
      | some s => s.length - 1
      | none => safe - lineStart
    (line, column + overshoot)

/-- The report of an error at a stretch of a text. -/
def reportAt (message : String) (span : Span) (text : String) : String :=
  let bytes := text.toUTF8
  let start := byteOffset text span.start
  let stop := byteOffset text span.stop
  let (line, column) := linePosition bytes start
  let lineNo := toString (line + 1)
  let gutter := String.ofList (List.replicate (lineNo.length + 1) ' ')
  let content := ((text.splitOn "\n")[line]?).getD ""
  let marks := min (stop - start) (content.utf8ByteSize - column)
  "TOML parse error at line " ++ lineNo ++ ", column " ++ toString (column + 1) ++ "\n" ++
    gutter ++ "|\n" ++
    lineNo ++ " | " ++ content ++ "\n" ++
    gutter ++ "|" ++ String.ofList (List.replicate (column + 1) ' ') ++
      String.ofList (List.replicate (max 1 marks) '^') ++ "\n" ++
    message ++ "\n"

/-- The full report of an error in a text. -/
def TomlError.report (e : TomlError) (text : String) : String :=
  match e.span with
  | some span => reportAt e.message span text
  | none => e.message ++ "\n"

end Augment.Toml
