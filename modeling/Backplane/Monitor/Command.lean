import Backplane.Text.Blank
import Backplane.Text.Numeral

/-!
# Monitor commands

A command is one line of words between blanks. Addresses, lengths and bytes are
hexadecimal numbers, bare or after `$`, `0x` or `0X`; widths and counts of
records are decimal. Verbs may be written in letters of either case.
-/

namespace Backplane

/-- What a monitor can be told to do. -/
inductive Command where
  /-- Show a range of memory without side effects. -/
  | dump (start length : UInt32)
  /-- Read a byte without side effects. -/
  | peek (address : UInt32)
  /-- Write bytes without side effects. -/
  | poke (address : UInt32) (bytes : List UInt8)
  /-- Read as the processor does. -/
  | read (address : UInt32) (bits : UInt8)
  /-- Write as the processor does. -/
  | write (address value : UInt32) (bits : UInt8)
  /-- List the live page table. -/
  | regions
  /-- List the layers. -/
  | layers
  /-- Show or hide a layer. -/
  | layer (name : String) (on : Bool)
  /-- Show the newest trace records. -/
  | trace (count : Nat)
  /-- Take out the notices of devices. -/
  | events
  /-- List the devices. -/
  | devices
  /-- Show a summary of the commands. -/
  | help
  deriving DecidableEq, Repr

/-- Why a line is no command. -/
inductive CommandError where
  /-- The line holds no word. -/
  | empty
  /-- No command has this verb. -/
  | unknownCommand (verb : String)
  /-- A command lacks an argument. -/
  | missingArgument (command argument : String)
  /-- A word is not a number that fits. -/
  | invalidNumber (word : String)
  /-- A command has too many arguments. -/
  | tooManyArguments (command : String)
  /-- A layer was to be neither shown nor hidden. -/
  | invalidToggle (word : String)
  deriving DecidableEq, Repr

/-- The text of an error. -/
def CommandError.message : CommandError → String
  | empty => "empty command"
  | unknownCommand verb => "unknown command `" ++ verb ++ "`"
  | missingArgument command argument => "`" ++ command ++ "` needs " ++ argument
  | invalidNumber word => "invalid number `" ++ word ++ "`"
  | tooManyArguments command => "`" ++ command ++ "` takes fewer arguments"
  | invalidToggle word => "expected `on` or `off`, got `" ++ word ++ "`"

namespace Command

/-- How many bytes a dump shows if no length is given. -/
def standardLength : UInt32 := 0x40

/-- How many records a trace shows if no count is given. -/
def standardCount : Nat := 16

/-- A summary of the commands. -/
def helpText : String :=
  "commands:\n" ++
  "  dump <addr> [len]          side-effect-free hex dump (len defaults to 40)\n" ++
  "  peek <addr>                side-effect-free byte read\n" ++
  "  poke <addr> <byte>...      side-effect-free writes, ROM included\n" ++
  "  read <addr> [bits]         CPU data read (8, 16 or 32 bits)\n" ++
  "  write <addr> <value> [bits] CPU data write\n" ++
  "  regions                    coalesced page table listing\n" ++
  "  layers                     overlay layers and their state\n" ++
  "  layer <name> on|off        activate or deactivate a layer\n" ++
  "  trace [count]              newest trace records\n" ++
  "  events                     drain device notifications\n" ++
  "  devices                    registered devices\n" ++
  "  help                       this text\n" ++
  "numbers are hex ($C000, 0xC000 or C000); trace counts are decimal"

/-! ## Numbers -/

/-- The digits of a hexadecimal number without what marks it as one. -/
def hexDigitsOf : List Char → List Char
  | '$' :: digits => digits
  | '0' :: 'x' :: digits => digits
  | '0' :: 'X' :: digits => digits
  | digits => digits

/-- A hexadecimal number below `bound`. -/
def hexBelow (bound : Nat) (word : String) : Except CommandError Nat :=
  match Numeral.readUnsigned 16 bound (hexDigitsOf word.toList) with
  | some n => .ok n
  | none => .error (.invalidNumber word)

/-- A hexadecimal number of 32 bits. -/
def parseHex (word : String) : Except CommandError UInt32 :=
  (hexBelow UInt32.size word).map Nat.toUInt32

/-- A hexadecimal number of 8 bits. -/
def parseByte (word : String) : Except CommandError UInt8 :=
  (hexBelow UInt8.size word).map Nat.toUInt8

/-- A decimal number of 64 bits. -/
def parseCount (word : String) : Except CommandError Nat :=
  match Numeral.readUnsigned 10 UInt64.size word.toList with
  | some n => .ok n
  | none => .error (.invalidNumber word)

/-- The width of an access: 8, 16 or 32, in decimal. -/
def parseBits (word : String) : Except CommandError UInt8 :=
  match Numeral.readUnsigned 10 256 word.toList with
  | some 8 => .ok 8
  | some 16 => .ok 16
  | some 32 => .ok 32
  | _ => .error (.invalidNumber word)

/-! ## Arguments -/

/-- Fails if a command has more than `most` arguments. -/
def atMost (command : String) (most : Nat) (args : List String) : Except CommandError Unit :=
  if most < args.length then .error (.tooManyArguments command) else .ok ()

/-- An argument that must be there. -/
def required {α : Type} (command argument : String) (parse : String → Except CommandError α) :
    Option String → Except CommandError α
  | none => .error (.missingArgument command argument)
  | some word => parse word

/-- An argument that stands for `default` if it is not there. -/
def orElse {α : Type} (default : α) (parse : String → Except CommandError α) :
    Option String → Except CommandError α
  | none => .ok default
  | some word => parse word

/-- A command without arguments. -/
def alone (command : String) (c : Command) (args : List String) : Except CommandError Command := do
  atMost command 0 args
  return c

/-- A word with its capital letters, as far as they are ASCII, made small. -/
def folded (word : String) : String := String.ofList (word.toList.map Char.toLower)

/-! ## Commands -/

/-- The dump command with these arguments. -/
def parseDump (args : List String) : Except CommandError Command := do
  atMost "dump" 2 args
  let start ← required "dump" "an address" parseHex args[0]?
  let length ← orElse standardLength parseHex args[1]?
  return .dump start length

/-- The peek command with these arguments. -/
def parsePeek (args : List String) : Except CommandError Command := do
  atMost "peek" 1 args
  let address ← required "peek" "an address" parseHex args[0]?
  return .peek address

/-- The poke command with these arguments. -/
def parsePoke (args : List String) : Except CommandError Command := do
  let address ← required "poke" "an address" parseHex args[0]?
  match args.drop 1 with
  | [] => .error (.missingArgument "poke" "at least one byte")
  | words => return .poke address (← words.mapM parseByte)

/-- The read command with these arguments. -/
def parseRead (args : List String) : Except CommandError Command := do
  atMost "read" 2 args
  let address ← required "read" "an address" parseHex args[0]?
  let bits ← orElse 8 parseBits args[1]?
  return .read address bits

/-- The write command with these arguments. -/
def parseWrite (args : List String) : Except CommandError Command := do
  atMost "write" 3 args
  let address ← required "write" "an address" parseHex args[0]?
  let value ← required "write" "a value" parseHex args[1]?
  let bits ← orElse 8 parseBits args[2]?
  return .write address value bits

/-- Whether a layer is to be shown or hidden. -/
def parseToggle (word : String) : Except CommandError Bool :=
  match folded word with
  | "on" => .ok true
  | "off" => .ok false
  | _ => .error (.invalidToggle word)

/-- The layer command with these arguments. -/
def parseLayer (args : List String) : Except CommandError Command := do
  atMost "layer" 2 args
  let name ← required "layer" "a layer name" .ok args[0]?
  let on ← required "layer" "`on` or `off`" parseToggle args[1]?
  return .layer name on

/-- The trace command with these arguments. -/
def parseTrace (args : List String) : Except CommandError Command := do
  atMost "trace" 1 args
  let count ← orElse standardCount parseCount args[0]?
  return .trace count

/-- The command with this verb and these arguments. -/
def ofWords (verb : String) (args : List String) : Except CommandError Command :=
  match folded verb with
  | "dump" | "d" => parseDump args
  | "peek" => parsePeek args
  | "poke" => parsePoke args
  | "read" => parseRead args
  | "write" => parseWrite args
  | "regions" => alone "regions" .regions args
  | "layers" => alone "layers" .layers args
  | "layer" => parseLayer args
  | "trace" => parseTrace args
  | "events" => alone "events" .events args
  | "devices" => alone "devices" .devices args
  | "help" | "?" => .ok .help
  | _ => .error (.unknownCommand verb)

/-- The command that a line tells. -/
def parse (line : String) : Except CommandError Command :=
  match Blank.words line with
  | [] => .error .empty
  | verb :: args => ofWords verb args

end Command
end Backplane
