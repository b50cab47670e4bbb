import Ebpf.Program.Listing

/-!
# Arguments

The command line is `dbpf [OPTIONS] FILE [SECTION]`. Arguments are read from left to right.

* An argument that starts with two dashes is a long option, perhaps with a value after `=`; one
  that starts with a single dash is a row of short options, the last of which may have its value
  right behind it. A dash alone is no option.
* `--type` takes the next argument as its value if none is attached; `--bytes` and `--number` take
  an attached value only; the other options take none.
* Two dashes alone end the options.

Every option can be given once. The first fault ends the reading, and so does a request for the
version or for help: what stands behind it is not looked at.
-/

namespace Ebpf
namespace CommandLine

/-! ## What the arguments ask for -/

/-- The format of the input. -/
inductive InputFormat where
  /-- An ELF file, one section of which is the program. -/
  | elf
  /-- A dump in hexadecimal. -/
  | ascii
  deriving DecidableEq, Repr

/-- What to do with which input. -/
structure Options where
  /-- The file to read. -/
  file : String
  /-- The section with the program. -/
  sectionName : Option String
  /-- The format of the file. -/
  format : InputFormat
  /-- What the lines of a listing hold. -/
  style : ListingStyle
  /-- Run the program instead of listing it. -/
  execute : Bool
  /-- Report what has been loaded. -/
  verbose : Bool
  deriving DecidableEq, Repr

/-- What the arguments ask for. -/
inductive Request where
  /-- Work on a program. -/
  | run (options : Options)
  /-- Print the version. -/
  | version
  /-- Print the help text. -/
  | help
  deriving DecidableEq, Repr

/-- Why arguments ask for nothing. -/
inductive UsageFault where
  | missingFile
  | emptyFile
  | unexpectedArgument (argument : String)
  | repeatedOption (option : String)
  | missingValue (option : String)
  | invalidValue (option value : String)
  | unneededValue (option value : String)
  deriving DecidableEq, Repr

/-- What is reported for arguments that ask for nothing. -/
def UsageFault.message : UsageFault → String
  | .missingFile => "the following required arguments were not provided:\n  <FILE>"
  | .emptyFile => "a value is required for '<FILE>' but none was supplied"
  | .unexpectedArgument a => "unexpected argument '" ++ a ++ "' found"
  | .repeatedOption o => "the argument '" ++ o ++ "' cannot be used multiple times"
  | .missingValue o => "a value is required for '" ++ o ++ "' but none was supplied"
  | .invalidValue o v => "invalid value '" ++ v ++ "' for '" ++ o ++ "'"
  | .unneededValue o v => "unexpected value '" ++ v ++ "' for '" ++ o ++ "' found"

/-! ## What has been read so far -/

/-- What the arguments so far have set. -/
structure Settings where
  file : Option String := none
  sectionName : Option String := none
  format : Option InputFormat := none
  bytes : Option Bool := none
  number : Option Bool := none
  strict : Bool := false
  execute : Bool := false
  verbose : Bool := false
  deriving DecidableEq, Repr

namespace Settings

/-- Takes an argument that is no option. -/
def positional (s : Settings) (a : String) : Except UsageFault Settings :=
  match s.file, s.sectionName with
  | none, _ => if a = "" then .error .emptyFile else .ok { s with file := some a }
  | some _, none => .ok { s with sectionName := some a }
  | some _, some _ => .error (.unexpectedArgument a)

/-- Takes all arguments as no options. -/
def positionals (s : Settings) : List String → Except UsageFault Settings
  | [] => .ok s
  | a :: rest => s.positional a >>= fun t => t.positionals rest

/-- Sets the format of the input. -/
def setFormat (s : Settings) (value : String) : Except UsageFault Settings :=
  if s.format.isSome then .error (.repeatedOption "--type <FORMAT>")
  else if value = "elf" then .ok { s with format := some .elf }
  else if value = "ascii" then .ok { s with format := some .ascii }
  else .error (.invalidValue "--type <FORMAT>" value)

/-- The value of an option that can be switched on and off; without a value it is on. -/
def switchValue (option : String) : Option String → Except UsageFault Bool
  | none => .ok true
  | some "true" => .ok true
  | some "false" => .ok false
  | some v => .error (.invalidValue option v)

/-- Sets whether raw words are shown. -/
def setBytes (s : Settings) (value : Option String) : Except UsageFault Settings := do
  if s.bytes.isSome then .error (.repeatedOption "--bytes[=<BYTES>]")
  else return { s with bytes := some (← switchValue "--bytes[=<BYTES>]" value) }

/-- Sets whether slot numbers are shown. -/
def setNumber (s : Settings) (value : Option String) : Except UsageFault Settings := do
  if s.number.isSome then .error (.repeatedOption "--number[=<NUMBER>]")
  else return { s with number := some (← switchValue "--number[=<NUMBER>]" value) }

/-- Ends the listing at encodings that have no text. -/
def setStrict (s : Settings) : Except UsageFault Settings :=
  if s.strict then .error (.repeatedOption "--strict") else .ok { s with strict := true }

/-- Runs the program instead of listing it. -/
def setExecute (s : Settings) : Except UsageFault Settings :=
  if s.execute then .error (.repeatedOption "--execute") else .ok { s with execute := true }

/-- Reports what has been loaded. -/
def setVerbose (s : Settings) : Except UsageFault Settings :=
  if s.verbose then .error (.repeatedOption "--verbose") else .ok { s with verbose := true }

/-- The options that the settings amount to. -/
def options (s : Settings) : Except UsageFault Options :=
  match s.file with
  | none => .error .missingFile
  | some file => .ok {
      file := file
      sectionName := s.sectionName
      format := s.format.getD .elf
      style := {
        numbers := s.number.getD true
        rawWords := s.bytes.getD true
        gaps := if s.strict then .stop else .describe
      }
      execute := s.execute
      verbose := s.verbose
    }

end Settings

/-! ## Reading -/

/-- An argument by its form. -/
inductive Argument where
  /-- No option. -/
  | plain
  /-- The end of the options. -/
  | endOfOptions
  /-- A long option and perhaps a value. -/
  | long (name : String) (value : Option String)
  /-- A row of short options. -/
  | short (row : List Char)
  deriving DecidableEq, Repr

/-- The form of an argument. -/
def Argument.ofString (a : String) : Argument :=
  match a.toList with
  | ['-', '-'] => .endOfOptions
  | '-' :: '-' :: cs =>
    match cs.dropWhile (· ≠ '=') with
    | [] => .long (String.ofList cs) none
    | _ :: value => .long (String.ofList (cs.takeWhile (· ≠ '='))) (some (String.ofList value))
  | ['-'] => .plain
  | '-' :: cs => .short cs
  | _ => .plain

/-- What an argument does to the reading. -/
inductive Effect where
  /-- The reading goes on. -/
  | next (s : Settings)
  /-- The next argument is the format of the input. -/
  | wantsFormat (s : Settings)
  /-- No further argument is an option. -/
  | onlyPlain (s : Settings)
  /-- The reading ends. -/
  | request (r : Request)

/-- An option without a value. -/
def withoutValue (name : String) (value : Option String) (r : Except UsageFault Effect) :
    Except UsageFault Effect :=
  match value with
  | none => r
  | some v => .error (.unneededValue name v)

/-- Takes a long option. -/
def long (s : Settings) (name : String) (value : Option String) : Except UsageFault Effect :=
  match name with
  | "type" =>
    match value with
    | none => .ok (.wantsFormat s)
    | some v => (s.setFormat v).map .next
  | "bytes" => (s.setBytes value).map .next
  | "number" => (s.setNumber value).map .next
  | "strict" => withoutValue "--strict" value (s.setStrict.map .next)
  | "execute" => withoutValue "--execute" value (s.setExecute.map .next)
  | "verbose" => withoutValue "--verbose" value (s.setVerbose.map .next)
  | "version" => withoutValue "--version" value (.ok (.request .version))
  | "help" => withoutValue "--help" value (.ok (.request .help))
  | _ => .error (.unexpectedArgument ("--" ++ name))

/-- Takes a row of short options. What follows the one for the format is its value; an equals sign
may stand between them. -/
def short (s : Settings) : List Char → Except UsageFault Effect
  | [] => .ok (.next s)
  | 'e' :: rest => s.setExecute >>= fun t => short t rest
  | 'v' :: rest => s.setVerbose >>= fun t => short t rest
  | 'V' :: _ => .ok (.request .version)
  | 'h' :: _ => .ok (.request .help)
  | ['t'] => .ok (.wantsFormat s)
  | 't' :: '=' :: value => (s.setFormat (String.ofList value)).map .next
  | 't' :: value => (s.setFormat (String.ofList value)).map .next
  | c :: _ => .error (.unexpectedArgument ("-" ++ String.singleton c))

/-- Takes an argument. -/
def take (s : Settings) (a : String) : Except UsageFault Effect :=
  match Argument.ofString a with
  | .plain => (s.positional a).map .next
  | .endOfOptions => .ok (.onlyPlain s)
  | .long name value => long s name value
  | .short row => short s row

/-- Takes an argument as the format of the input; an option is none. -/
def takeFormat (s : Settings) (a : String) : Except UsageFault Settings :=
  match Argument.ofString a with
  | .plain => s.setFormat a
  | _ => .error (.missingValue "--type <FORMAT>")

/-- Reads arguments on top of settings. -/
def read (s : Settings) : List String → Except UsageFault Request
  | [] => s.options.map .run
  | a :: rest =>
    match take s a, rest with
    | .error e, _ => .error e
    | .ok (.request r), _ => .ok r
    | .ok (.onlyPlain t), rest => (t.positionals rest >>= Settings.options).map .run
    | .ok (.next t), rest => read t rest
    | .ok (.wantsFormat _), [] => .error (.missingValue "--type <FORMAT>")
    | .ok (.wantsFormat t), v :: rest =>
      match takeFormat t v with
      | .error e => .error e
      | .ok u => read u rest

/-- What a list of arguments asks for. -/
def parse (args : List String) : Except UsageFault Request := read {} args

/-! ## Texts -/

/-- The name and version of the program. -/
def versionText : String := "dbpf 0.1.0"

/-- How the program is called. -/
def usageText : String := "Usage: dbpf [OPTIONS] <FILE> [SECTION]"

/-- The help text. -/
def helpText : String :=
  String.intercalate "\n" [
    "Disassemble eBPF bytecode",
    "",
    usageText,
    "",
    "Arguments:",
    "  <FILE>     ELF object or ASCII hex dump",
    "  [SECTION]  ELF section holding the program",
    "",
    "Options:",
    "  -t, --type <FORMAT>      Input format [default: elf] [possible values: elf, ascii]",
    "      --bytes[=<BYTES>]    Print the raw instruction words [default: true]",
    "      --number[=<NUMBER>]  Print slot numbers [default: true]",
    "      --strict             Stop at the first unsupported instruction",
    "  -e, --execute            Step through the program, dumping registers",
    "  -v, --verbose            Enable verbose output",
    "  -h, --help               Print help",
    "  -V, --version            Print version"]

end CommandLine
end Ebpf
