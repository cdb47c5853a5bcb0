/-!
# Command arguments

A command takes options, each with one value: `--name value`, `--name=value`, and for an option
with a short name also `-n value`, `-nvalue` and `-n=value`. `-h` and `--help` ask for help. The
command takes no positional arguments, and after `--` every argument is positional.

The arguments are read left to right and the first fault decides:

* an argument that names no option, or a positional argument, is an unknown argument; this wins
  over a fault of the option still waiting for its value;
* an option whose value is missing (the arguments end, or the next one is another option) has an
  invalid value;
* an option given twice conflicts with itself;
* a value outside the option's choices, or an empty path, is an invalid value.

An option's value is checked when the next option starts or the arguments end, so a fault of an
earlier option wins over a later request for help.
-/

namespace Augment.Cli

/-- Why arguments were rejected. -/
inductive ArgError where
  /-- An argument names no option, or is positional. -/
  | unknownArgument
  /-- A value is missing or not accepted. -/
  | invalidValue
  /-- An option was given twice. -/
  | argumentConflict
  /-- A value was given to the help flag. -/
  | tooManyValues
  /-- Help was asked for. -/
  | displayHelp
  deriving DecidableEq, Repr

/-- The name of a kind of rejection. -/
def ArgError.kind : ArgError → String
  | .unknownArgument => "UnknownArgument"
  | .invalidValue => "InvalidValue"
  | .argumentConflict => "ArgumentConflict"
  | .tooManyValues => "TooManyValues"
  | .displayHelp => "DisplayHelp"

/-- What values an option accepts. -/
inductive ValueKind where
  /-- Any text. -/
  | text
  /-- A path, which must not be empty. -/
  | path
  /-- One of the named choices. -/
  | choice (names : List String)
  deriving DecidableEq, Repr

/-- An option of a command. -/
structure OptionSpec where
  /-- Its long name, after `--`. -/
  long : String
  /-- Its short name, after `-`. -/
  short : Option Char := none
  /-- What values it accepts. -/
  kind : ValueKind
  deriving DecidableEq, Repr

/-- The options given so far, by long name, with their values. -/
abbrev Given := List (String × String)

/-- Where reading the arguments stands. -/
structure ArgState where
  /-- The options read. -/
  given : Given := []
  /-- The option waiting for its value, with the value once read. -/
  pending : Option (OptionSpec × Option String) := none
  /-- Whether `--` was read. -/
  trailing : Bool := false

/-- Whether a value is accepted by an option. -/
def ValueKind.accepts : ValueKind → String → Bool
  | .text, _ => true
  | .path, v => !v.isEmpty
  | .choice names, v => names.contains v

/-- Takes an option with its values; it needs one. -/
def accept (given : Given) (spec : OptionSpec) (values : List String) : Except ArgError Given :=
  match values with
  | [] => .error .invalidValue
  | v :: _ =>
    if given.any (·.1 == spec.long) then .error .argumentConflict
    else if spec.kind.accepts v then .ok (given ++ [(spec.long, v)])
    else .error .invalidValue

/-- Takes the option waiting for its value, if any. -/
def ArgState.settle (st : ArgState) : Except ArgError ArgState :=
  match st.pending with
  | none => .ok st
  | some (spec, v) => do return { st with given := ← accept st.given spec v.toList, pending := none }

/-- Starts an option: its attached value, or wait for one. -/
def ArgState.start (st : ArgState) (spec : OptionSpec) (attached : Option String) :
    Except ArgError ArgState := do
  let st ← st.settle
  match attached with
  | some v => return { st with given := ← accept st.given spec [v] }
  | none => return { st with pending := some (spec, none) }

/-- A long option's name and its value after `=`, if any. -/
def splitLong (body : List Char) : String × Option String :=
  match body.span (· != '=') with
  | (name, '=' :: v) => (String.ofList name, some (String.ofList v))
  | (name, _) => (String.ofList name, none)

/-- Reads arguments. -/
def readArgs (specs : List OptionSpec) : List String → ArgState → Except ArgError Given
  | [], st => return (← st.settle).given
  | a :: rest, st =>
    if st.trailing then .error .unknownArgument
    else if a == "--" then readArgs specs rest { st with trailing := true }
    else match a.toList with
      | '-' :: '-' :: body =>
        let (name, attached) := splitLong body
        if name == "help" then
          if attached.isSome then .error .tooManyValues
          else do let _ ← st.settle; throw .displayHelp
        else match specs.find? (·.long == name) with
          | none => .error .unknownArgument
          | some spec => do readArgs specs rest (← st.start spec attached)
      | '-' :: c :: more =>
        if c == 'h' then do let _ ← st.settle; throw .displayHelp
        else match specs.find? (·.short == some c) with
          | none => .error .unknownArgument
          | some spec =>
            let attached := match more with
              | [] => none
              | '=' :: v => some (String.ofList v)
              | v => some (String.ofList v)
            do readArgs specs rest (← st.start spec attached)
      | _ => match st.pending with
        | some (spec, none) => readArgs specs rest { st with pending := some (spec, some a) }
        | _ => .error .unknownArgument

/-- Reads a command's arguments into its options' values. -/
def parseArgs (specs : List OptionSpec) (args : List String) : Except ArgError Given :=
  readArgs specs args {}

end Augment.Cli
