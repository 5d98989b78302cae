import Backplane.Text.Numeral

/-!
# Options of the monitor

The words after the name of the program are options. An option with a value
takes it from the next word, or from behind an equals sign; `-c` also takes what
follows at once. A next word that begins with a dash is no value, a dash alone
excepted. Nothing else may stand among the options, and only commands may be
given more than once.
-/

namespace Backplane

/-- What the monitor is told to do. -/
structure Options where
  /-- The file of the profile; without one, the demonstration machine. -/
  profile : Option String := none
  /-- The capacity of the trace; zero turns it off. -/
  traceCapacity : Nat := 256
  /-- The commands to carry out; without any, they are read from the input. -/
  commands : List String := []
  /-- Whether only the profile is to be printed. -/
  printProfile : Bool := false
  deriving DecidableEq, Repr

namespace Options

/-- An option that takes a value. -/
inductive Key where
  /-- The file of the profile. -/
  | profile
  /-- The capacity of the trace. -/
  | traceCapacity
  /-- A command. -/
  | command
  deriving DecidableEq, Repr

/-- What an option says. -/
inductive Setting where
  /-- The file of the profile. -/
  | profile (path : String)
  /-- The capacity of the trace. -/
  | traceCapacity (records : Nat)
  /-- A command to carry out. -/
  | command (line : String)
  /-- Only the profile is to be printed. -/
  | printProfile
  deriving DecidableEq, Repr

/-- What a word is. -/
inductive Word where
  /-- An option whose value is the next word. -/
  | bare (key : Key)
  /-- An option with its value. -/
  | attached (key : Key) (value : List Char)
  /-- The option to print the profile, which takes no value. -/
  | printProfile
  /-- The end of the options. -/
  | stop
  deriving DecidableEq, Repr

/-- The option with this long name. -/
def Key.ofLong? (name : List Char) : Option Key :=
  if name = "profile".toList then some .profile
  else if name = "trace-capacity".toList then some .traceCapacity
  else if name = "command".toList then some .command
  else none

/-- What a word is, if it may stand where an option may. -/
def Word.ofChars? : List Char → Option Word
  | ['-', '-'] => some .stop
  | '-' :: '-' :: long =>
    if long = "print-profile".toList then some .printProfile
    else match long.span (· ≠ '=') with
      | (name, []) => (Key.ofLong? name).map .bare
      | (name, _ :: value) => (Key.ofLong? name).map fun key => .attached key value
  | ['-', 'c'] => some (.bare .command)
  | '-' :: 'c' :: '=' :: value => some (.attached .command value)
  | '-' :: 'c' :: value => some (.attached .command value)
  | _ => none

/-- Whether a word may be the value of the option before it. -/
def mayBeValue : List Char → Bool
  | ['-'] => true
  | '-' :: _ => false
  | _ => true

/-- What an option with this value says. The name of a file is not empty, and a
capacity is a decimal number of 64 bits. -/
def Setting.of? (key : Key) (value : List Char) : Option Setting :=
  match key with
  | .profile => if value = [] then none else some (.profile (String.ofList value))
  | .traceCapacity => (Numeral.readUnsigned 10 UInt64.size value).map .traceCapacity
  | .command => some (.command (String.ofList value))

/-- What all words say, in order. -/
def settings? : List (List Char) → Option (List Setting)
  | [] => some []
  | word :: words => do
    match ← Word.ofChars? word with
    | .stop => if words = [] then some [] else none
    | .printProfile => return .printProfile :: (← settings? words)
    | .attached key value => return (← Setting.of? key value) :: (← settings? words)
    | .bare key =>
      match words with
      | [] => none
      | value :: words =>
        if mayBeValue value then return (← Setting.of? key value) :: (← settings? words)
        else none

/-- A setting that may be given once. -/
def single? {α : Type} : List α → Option (Option α)
  | [] => some none
  | [value] => some (some value)
  | _ => none

/-- The options that settings make up. -/
def ofSettings? (settings : List Setting) : Option Options := do
  let profile ← single? (settings.filterMap fun
    | .profile path => some path
    | _ => none)
  let capacity ← single? (settings.filterMap fun
    | .traceCapacity records => some records
    | _ => none)
  let print ← single? (settings.filter (· = .printProfile))
  return {
    profile := profile
    traceCapacity := capacity.getD 256
    commands := settings.filterMap fun
      | .command line => some line
      | _ => none
    printProfile := print.isSome }

/-- The options that words write. -/
def parse? (words : List String) : Option Options := do
  ofSettings? (← settings? (words.map String.toList))

/-- The capacity of the trace, if there is one. -/
def trace? (o : Options) : Option Nat := if o.traceCapacity = 0 then none else some o.traceCapacity

end Options
end Backplane
