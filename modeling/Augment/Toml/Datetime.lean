/-!
# Dates and times

A date is `YYYY-MM-DD`, a time `HH:MM` with optional `:SS` and fraction, and a date-time joins
them with `T`, `t` or a space and may end with an offset: `Z` or `±HH:MM`. Checking cuts the
text into runs of digits and single marks, then reads the parts in order; the first thing wrong
is the error:

* a part missing or of the wrong kind, `invalid date, expected month`;
* a part of the wrong width, `invalid time, expected a two-digit hour (HH)`;
* a number out of range, `invalid date, expected day between 01 and 28`, with the days of a month
  counting leap years;
* anything left over, `invalid datetime`.
-/

namespace Augment.Toml

/-- The pieces a date or time text is cut into. -/
inductive DatePiece where
  /-- A run of digits. -/
  | digits (ds : List Char)
  /-- `-` -/
  | dash
  /-- `:` -/
  | colon
  /-- `.` -/
  | dot
  /-- `T` or `t`. -/
  | t
  /-- A space. -/
  | space
  /-- `Z` or `z`. -/
  | z
  /-- `+` -/
  | plus
  /-- Anything else, with the rest of the text. -/
  | unknown
  deriving DecidableEq, Repr

namespace DatePiece

/-- Cuts a text into pieces; an unknown character takes the rest of the text with it. -/
def scan (cs : List Char) : List DatePiece :=
  match cs with
  | [] => []
  | c :: rest =>
    if c.isDigit then
      let run := rest.takeWhile Char.isDigit
      .digits (c :: run) :: scan (rest.drop run.length)
    else
      let mark : Option DatePiece := match c with
        | '-' => some .dash
        | ':' => some .colon
        | '.' => some .dot
        | 'T' | 't' => some .t
        | ' ' => some .space
        | 'Z' | 'z' => some .z
        | '+' => some .plus
        | _ => none
      match mark with
      | some p => p :: scan rest
      | none => [.unknown]
termination_by cs.length
decreasing_by all_goals (simp only [List.length_drop, List.length_cons]; omega)

end DatePiece

/-- The message of a date or time error: what part is invalid, and what was expected. -/
def datetimeMessage (what expected : Option String) : String :=
  match what, expected with
  | some w, some e => "invalid " ++ w ++ ", expected " ++ e
  | some w, none => "invalid " ++ w
  | none, some e => "invalid datetime, expected " ++ e
  | none, none => "invalid datetime"

/-- Checking a date or time: the pieces still to read, failing with a message. -/
abbrev DateReader := StateT (List DatePiece) (Except String)

namespace DateReader

/-- Fails with what part is invalid and what was expected. -/
def fail {α : Type} (what expected : Option String) : DateReader α :=
  throw (datetimeMessage what expected)

/-- Takes the next piece, if any. -/
def next : DateReader (Option DatePiece) := do
  match ← get with
  | p :: rest => set rest; return some p
  | [] => return none

/-- Takes a run of digits, or fails with what was expected. -/
def digits (what : Option String) (expected : String) : DateReader (List Char) := do
  match ← next with
  | some (.digits ds) => return ds
  | _ => fail what (some expected)

/-- Takes a mark, or fails with what was expected. -/
def mark (p : DatePiece) (what : Option String) (expected : String) : DateReader Unit := do
  if (← next) != some p then fail what (some expected)

/-- The number written by decimal digits. -/
def value (ds : List Char) : Nat :=
  ds.foldl (fun acc c => acc * 10 + (c.toNat - '0'.toNat)) 0

/-- Fails unless a condition holds. -/
def ensure (ok : Bool) (what expected : String) : DateReader Unit :=
  if ok then pure () else fail (some what) (some expected)

/-- The days of a month, and how the range is named. -/
def monthDays (year month : Nat) : Nat × String :=
  let leap := year % 4 == 0 && (year % 100 != 0 || year % 400 == 0)
  if month == 2 then
    if leap then (29, "day between 01 and 29") else (28, "day between 01 and 28")
  else if month == 4 || month == 6 || month == 9 || month == 11 then (30, "day between 01 and 30")
  else (31, "day between 01 and 31")

/-- Reads the date after its year. -/
def date (year : List Char) : DateReader Unit := do
  let month ← digits (some "date") "month"
  mark .dash (some "date") "`-` (MM-DD)"
  let day ← digits (some "date") "day"
  ensure (year.length == 4) "date" "a four-digit year (YYYY)"
  ensure (month.length == 2) "date" "a two-digit month (MM)"
  ensure (day.length == 2) "date" "a two-digit day (DD)"
  let m := value month
  ensure (1 ≤ m && m ≤ 12) "date" "month between 01 and 12"
  let (days, range) := monthDays (value year) m
  ensure (1 ≤ value day && value day ≤ days) "date" range

/-- Reads a time. -/
def time : DateReader Unit := do
  let hour ← digits (some "time") "hour"
  mark .colon (some "time") "`:` (HH:MM)"
  let minute ← digits (some "time") "minute"
  let second ← if (← get).head? == some .colon then do
      discard next
      some <$> digits (some "time") "second"
    else pure none
  if second.isSome && (← get).head? == some .dot then
    discard next
    discard (digits (some "time") "nanosecond")
  ensure (hour.length == 2) "time" "a two-digit hour (HH)"
  ensure (minute.length == 2) "time" "a two-digit minute (MM)"
  match second with
  | some s => ensure (s.length == 2) "time" "a two-digit second (SS)"
  | none => pure ()
  ensure (value hour ≤ 23) "time" "hour between 00 and 23"
  ensure (value minute ≤ 59) "time" "minute between 00 and 59"
  ensure ((second.map value).getD 0 ≤ 60) "time" "second between 00 and 60"

/-- Reads the offset of a date-time, if one comes. -/
def offset : DateReader Unit := do
  match ← next with
  | none | some .z => pure ()
  | some .plus | some .dash =>
    let hours ← digits (some "offset") "hour"
    mark .colon (some "offset") "`:` (HH:MM)"
    let minutes ← digits (some "offset") "minute"
    ensure (hours.length == 2) "offset" "a two-digit hour (HH)"
    ensure (minutes.length == 2) "offset" "a two-digit minute (MM)"
    ensure (value hours ≤ 23) "offset" "hours between 00 and 23"
    ensure (value minutes ≤ 59) "offset" "minutes between 00 and 59"
  | some _ => fail (some "offset") (some "`Z`, +OFFSET, -OFFSET")

/-- Reads a whole date, time or date-time. -/
def datetime : DateReader Unit := do
  let start ← get
  let first ← digits none "year or hour"
  match ← next with
  | some .dash =>
    date first
    match ← next with
    | none => pure ()
    | some .t | some .space =>
      time
      offset
    | some _ => fail (some "date-time") (some "`T` between date and time")
  | some .colon =>
    set start
    time
  | _ => fail none (some "`-` (YYYY-MM) or `:` (HH:MM)")
  if !(← get).isEmpty then fail none none

end DateReader

/-- Checks a date, time or date-time text: the message of its first error, if any. -/
def checkDatetime (cs : List Char) : Except String Unit :=
  DateReader.datetime.run' (DatePiece.scan cs)

end Augment.Toml
