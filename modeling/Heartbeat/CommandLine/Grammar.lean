/-!
# Command lines

A `Grammar` lists the options and the positional arguments of a program. `Grammar.parse` reads a
command line: long options with two hyphens, the value after an equals sign or as the next
argument; short options with one, several flags in one argument, the value directly after the
letter, after an equals sign or as the next argument; everything after two hyphens alone is
positional. An option may be given once.

A positional argument may be declared to start with a hyphen. While it is the next one to come, an
argument that is not an option of the program is taken as a value: of the option that waits for
one, or of that positional argument.

`Grammar.help` is the text that the option for help shows.
-/

set_option autoImplicit false
set_option relaxedAutoImplicit false

namespace Heartbeat.CommandLine

/-! ### Grammars -/

/-- The value of an option: its name in the help, its default there, and the values it accepts. -/
structure ValueSpec where
  placeholder : String
  fallback : String
  accepts : String → Bool

/-- An option, with a value or without. -/
structure OptionSpec where
  long : String
  short : Option Char
  value : Option ValueSpec
  about : String

/-- A positional argument. -/
structure PositionalSpec where
  placeholder : String
  about : String
  mayStartWithHyphen : Bool

/-- The command line of a program. -/
structure Grammar where
  program : String
  about : String
  positionals : List PositionalSpec
  options : List OptionSpec

/-- The option that every program has. -/
def helpOption : OptionSpec := ⟨"help", some 'h', none, "Print help"⟩

namespace Grammar

/-- All options of a program. -/
def allOptions (grammar : Grammar) : List OptionSpec :=
  grammar.options ++ [helpOption]

/-- The option with a long name. -/
def long? (grammar : Grammar) (name : String) : Option OptionSpec :=
  grammar.allOptions.find? fun option ↦ option.long == name

/-- The option with a letter. -/
def short? (grammar : Grammar) (letter : Char) : Option OptionSpec :=
  grammar.allOptions.find? fun option ↦ option.short == some letter

end Grammar

/-! ### Reading a command line -/

/-- Why reading stops before the end: the command line is not of the grammar, or help is wanted. -/
inductive Stop
  | usage
  | help
deriving DecidableEq

/-- What a command line says: the flags and the values of options by long name, and the positional
arguments in order. -/
structure Arguments where
  flags : List String
  values : List (String × String)
  positionals : List String
deriving DecidableEq

namespace Arguments

/-- Whether a flag was given. -/
def hasFlag (arguments : Arguments) (name : String) : Bool :=
  arguments.flags.contains name

/-- The value of an option, if it was given. -/
def value? (arguments : Arguments) (name : String) : Option String :=
  arguments.values.lookup name

end Arguments

/-- The reading of a command line: what it says so far, the option that waits for its value, and
whether only positional arguments follow. -/
structure Reading where
  arguments : Arguments
  pending : Option OptionSpec
  onlyPositional : Bool

namespace Reading

/-- Nothing has been read. -/
def start : Reading := ⟨⟨[], [], []⟩, none, false⟩

/-- The option was given before. -/
def isRepeated (reading : Reading) (option : OptionSpec) : Bool :=
  reading.arguments.hasFlag option.long || (reading.arguments.value? option.long).isSome

/-- Takes a flag. A flag does not end the wait for a value. -/
def takeFlag (reading : Reading) (option : OptionSpec) : Except Stop Reading :=
  if reading.pending.isSome then .error .usage
  else if option.long = helpOption.long then .error .help
  else if reading.isRepeated option then .error .usage
  else .ok { reading with
    arguments := { reading.arguments with flags := reading.arguments.flags ++ [option.long] } }

/-- Takes the value of an option. -/
def takeValue (reading : Reading) (option : OptionSpec) (value : String) : Except Stop Reading :=
  if reading.isRepeated option then .error .usage
  else match option.value with
    | none => .error .usage
    | some spec =>
      if spec.accepts value then .ok { reading with
        arguments := { reading.arguments with
          values := reading.arguments.values ++ [(option.long, value)] }
        pending := none }
      else .error .usage

/-- Takes an option with the value attached to it, if there is one. -/
def takeOption (reading : Reading) (option : OptionSpec) (attached : Option String) :
    Except Stop Reading :=
  match option.value, attached with
  | none, none => reading.takeFlag option
  | none, some _ => .error .usage
  | some _, some value =>
    if reading.pending.isSome then .error .usage else reading.takeValue option value
  | some _, none =>
    if reading.pending.isSome then .error .usage else .ok { reading with pending := some option }

/-- Takes a positional argument, if there is one to come. -/
def takePositional (reading : Reading) (grammar : Grammar) (text : String) : Except Stop Reading :=
  if reading.arguments.positionals.length < grammar.positionals.length then .ok { reading with
    arguments := { reading.arguments with
      positionals := reading.arguments.positionals ++ [text] } }
  else .error .usage

/-- Takes an argument that is no option: the value that an option waits for, or a positional
argument. -/
def takeText (reading : Reading) (grammar : Grammar) (text : String) : Except Stop Reading :=
  match reading.pending with
  | some option => reading.takeValue option text
  | none => reading.takePositional grammar text

/-- The next positional argument may start with a hyphen. -/
def allowsHyphen (reading : Reading) (grammar : Grammar) : Bool :=
  (grammar.positionals[reading.arguments.positionals.length]?.map
    PositionalSpec.mayStartWithHyphen).getD false

/-- Takes the letters after one hyphen. A letter with a value takes the rest, without an equals sign
before it; if there is no rest, it waits. -/
def takeLetters (grammar : Grammar) : Reading → List Char → Except Stop Reading
  | reading, [] => .ok reading
  | reading, letter :: rest =>
    match grammar.short? letter with
    | none => .error .usage
    | some option =>
      if option.value.isNone then
        (reading.takeFlag option).bind fun reading ↦ takeLetters grammar reading rest
      else match rest with
        | [] => reading.takeOption option none
        | '=' :: value => reading.takeOption option (some (String.ofList value))
        | value => reading.takeOption option (some (String.ofList value))

/-- The text before the first equals sign and, if there is one, the text after it. -/
def splitValue (text : List Char) : String × Option String :=
  let name := String.ofList (text.takeWhile (· != '='))
  match text.dropWhile (· != '=') with
  | [] => (name, none)
  | _ :: value => (name, some (String.ofList value))

/-- Takes one argument. -/
def take (grammar : Grammar) (reading : Reading) (argument : String) : Except Stop Reading :=
  if reading.onlyPositional then reading.takePositional grammar argument
  else match argument.toList with
    | ['-', '-'] =>
      if reading.pending.isSome then .error .usage else .ok { reading with onlyPositional := true }
    | '-' :: '-' :: text =>
      let (name, attached) := splitValue text
      match grammar.long? name with
      | some option => reading.takeOption option attached
      | none =>
        if reading.allowsHyphen grammar then reading.takeText grammar argument else .error .usage
    | '-' :: letter :: letters =>
      let unknown := (letter :: letters).any fun letter ↦ (grammar.short? letter).isNone
      if reading.allowsHyphen grammar && unknown then reading.takeText grammar argument
      else takeLetters grammar reading (letter :: letters)
    | _ => reading.takeText grammar argument

end Reading

namespace Grammar

/-- What a command line says. -/
def parse (grammar : Grammar) (arguments : List String) : Except Stop Arguments :=
  (arguments.foldlM (Reading.take grammar) Reading.start).bind fun reading ↦
    if reading.pending.isSome then .error .usage else .ok reading.arguments

/-! ### Help -/

/-- A text with blanks after it up to a width. -/
def padded (width : Nat) (text : String) : String :=
  text ++ String.ofList (List.replicate (width - text.length) ' ')

/-- A list of terms and their explanations under a title. -/
def helpSection (title : String) (lines : List (String × String)) : List String :=
  let width := (lines.map fun line ↦ line.1.length).foldl max 0
  title :: lines.map fun line ↦ "  " ++ padded width line.1 ++ "  " ++ line.2

/-- An option in the help: its letter, its name and the name of its value. -/
def optionTerm (option : OptionSpec) : String :=
  let letter := match option.short with
    | some letter => "-" ++ String.ofList [letter] ++ ", "
    | none => "    "
  let value := match option.value with
    | some spec => " <" ++ spec.placeholder ++ ">"
    | none => ""
  letter ++ "--" ++ option.long ++ value

/-- The explanation of an option, with its default. -/
def optionAbout (option : OptionSpec) : String :=
  match option.value with
  | some spec => option.about ++ " [default: " ++ spec.fallback ++ "]"
  | none => option.about

/-- The line that shows how the program is called. -/
def usageLine (grammar : Grammar) : String :=
  "Usage: " ++ grammar.program ++ " [OPTIONS]"
    ++ String.join (grammar.positionals.map fun positional ↦ " [" ++ positional.placeholder ++ "]")

/-- The help of a program. -/
def help (grammar : Grammar) : String :=
  let positionals := grammar.positionals.map fun positional ↦
    ("[" ++ positional.placeholder ++ "]", positional.about)
  let options := grammar.allOptions.map fun option ↦ (optionTerm option, optionAbout option)
  let lines := [grammar.about, "", grammar.usageLine, ""]
    ++ (if positionals = [] then [] else helpSection "Arguments:" positionals ++ [""])
    ++ helpSection "Options:" options
  String.join (lines.map (· ++ "\n"))

end Grammar

end Heartbeat.CommandLine
