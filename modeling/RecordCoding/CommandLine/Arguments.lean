/-!
# Command line arguments

A command line consists of switches and the name of a command, behind which the switches of that
command follow. A switch is written as a letter behind one dash, where letters may be put together,
or as a word behind two. A value is attached to its switch or is the next argument. What asks for
help or for the version is answered as soon as it is met, if nothing before it was wrong.
-/

namespace RecordCoding.CommandLine

/-- The switches. -/
inductive Switch where
  | help
  | version
  | verbose
  | input
  | config
  | type
  | format
  deriving Repr, DecidableEq

namespace Switch

/-- The letter of a switch. -/
def letter : Switch → Char
  | help => 'h'
  | version => 'V'
  | verbose => 'v'
  | input => 'i'
  | config => 'c'
  | type => 't'
  | format => 'f'

/-- The word of a switch. -/
def word : Switch → String
  | help => "help"
  | version => "version"
  | verbose => "verbose"
  | input => "input"
  | config => "config"
  | type => "type"
  | format => "format"

/-- Whether a value belongs to the switch. -/
def takesValue : Switch → Bool
  | help | version | verbose => false
  | input | config | type | format => true

end Switch

/-- Why no command is run. -/
inductive Interruption where
  /-- The arguments make no sense. -/
  | usage
  | help
  | version
  deriving Repr, DecidableEq

/-- The forms in which keys are listed. -/
inductive Format where
  | text
  | json
  deriving Repr, DecidableEq

/-- The form a word names. -/
def Format.ofText? : String → Option Format
  | "text" => some text
  | "json" => some json
  | _ => none

/-- What was given by switches. -/
structure Given where
  verbosity : Nat
  values : List (Switch × String)
  deriving Repr, DecidableEq

namespace Given

/-- Nothing was given. -/
def nothing : Given := ⟨0, []⟩

/-- The value of a switch. -/
def value? (given : Given) (switch : Switch) : Option String :=
  (given.values.find? (·.1 == switch)).map (·.2)

/-- Takes a value. Every value is given once, and that of the format is one of its words. -/
def withValue (given : Given) (switch : Switch) (value : String) : Except Interruption Given :=
  if (given.value? switch).isSome then .error .usage
  else if switch = .format ∧ (Format.ofText? value).isNone then .error .usage
  else .ok { given with values := given.values ++ [(switch, value)] }

/-- Takes a switch that has no value. -/
def withFlag (given : Given) : Switch → Except Interruption Given
  | .help => .error .help
  | .version => .error .version
  | .verbose => .ok { given with verbosity := given.verbosity + 1 }
  | .input | .config | .type | .format => .ok given

end Given

/-- Switches that were read, and the last of them if its value is still missing. -/
abbrev Reading := Except Interruption (Given × Option Switch)

/-- Reads letters. Behind that of a switch with a value, the rest is the value. -/
def readLetters (admitted : List Switch) : List Char → Given → Reading
  | [], given => .ok (given, none)
  | c :: rest, given =>
    match admitted.find? (·.letter == c) with
    | none => .error .usage
    | some switch =>
      if switch.takesValue then
        match rest with
        | [] => .ok (given, some switch)
        | '=' :: value => (given.withValue switch (String.ofList value)).map (·, none)
        | value => (given.withValue switch (String.ofList value)).map (·, none)
      else (given.withFlag switch).bind (readLetters admitted rest)

/-- Reads a word, with the value behind an equals sign if there is one. -/
def readWord (admitted : List Switch) (chars : List Char) (given : Given) : Reading :=
  let name := chars.takeWhile (· != '=')
  let attached := (chars.dropWhile (· != '=')).tail?
  match admitted.find? (·.word.toList == name) with
  | none => .error .usage
  | some switch =>
    match switch.takesValue, attached with
    | true, none => .ok (given, some switch)
    | true, some value => (given.withValue switch (String.ofList value)).map (·, none)
    | false, none => (given.withFlag switch).map (·, none)
    | false, some _ => .error .usage

/-- Reads one argument. -/
def readArgument (admitted : List Switch) (argument : String) (given : Given) : Reading :=
  match argument.toList with
  | '-' :: '-' :: name => readWord admitted name given
  | '-' :: c :: rest => readLetters admitted (c :: rest) given
  | _ => .error .usage

/-- Whether an argument is no value: it has more than a dash behind which nothing stands. -/
def isSwitchLike (argument : String) : Bool :=
  match argument.toList with
  | '-' :: _ :: _ => true
  | _ => false

/-- The argument behind which there are no more switches. -/
def lastMark : String := "--"

/-- Reads the switches of a command; nothing else may stand among them. -/
def readSwitches (admitted : List Switch) : List String → Given → Except Interruption Given
  | [], given => .ok given
  | argument :: rest, given =>
    if argument = lastMark then
      if rest.isEmpty then .ok given else .error .usage
    else
      match readArgument admitted argument given, rest with
      | .error e, _ => .error e
      | .ok (given, none), rest => readSwitches admitted rest given
      | .ok (_, some _), [] => .error .usage
      | .ok (given, some switch), value :: others =>
        if isSwitchLike value then .error .usage
        else (given.withValue switch value).bind (readSwitches admitted others)

/-! ## Requests -/

/-- What is to be done with a file. -/
inductive Action where
  | check
  | expand (wanted : Option String)
  | keys (format : Format)
  deriving Repr, DecidableEq

/-- A command line that makes sense. -/
structure Request where
  verbosity : Nat
  configPath : Option String
  input : String
  action : Action
  deriving Repr, DecidableEq

/-- The switches in front of the command. -/
def commonSwitches : List Switch := [.verbose, .help, .version]

/-- The switches of the command of a name. -/
def switchesOf? : String → Option (List Switch)
  | "check" => some [.verbose, .help, .input, .config]
  | "expand" => some [.verbose, .help, .input, .config, .type]
  | "keys" => some [.verbose, .help, .input, .config, .format]
  | _ => none

/-- The action of the command of a name. -/
def actionOf (command : String) (given : Given) : Action :=
  match command with
  | "expand" => .expand (given.value? .type)
  | "keys" => .keys (((given.value? .format).bind Format.ofText?).getD .text)
  | _ => .check

/-- The request for a command; the input is required. -/
def requestOf (command : String) (before given : Given) : Except Interruption Request :=
  match given.value? .input with
  | none => .error .usage
  | some input =>
    .ok
      { verbosity := if given.verbosity = 0 then before.verbosity else given.verbosity
        configPath := given.value? .config
        input := input
        action := actionOf command given }

/-- What a command that asks for help, on itself or on another command, comes to. -/
def helpOn : List String → Interruption
  | [] => .help
  | [command] => if command = "help" || (switchesOf? command).isSome then .help else .usage
  | _ => .usage

/-- Reads a command line, behind what was given before. -/
def readCommandLine : List String → Given → Except Interruption Request
  | [], _ => .error .usage
  | argument :: rest, before =>
    if isSwitchLike argument then
      match readArgument commonSwitches argument before with
      | .error e => .error e
      | .ok (before, _) => readCommandLine rest before
    else if argument = "help" then .error (helpOn rest)
    else
      match switchesOf? argument with
      | none => .error .usage
      | some admitted =>
        (readSwitches admitted rest .nothing).bind (requestOf argument before)

/-- The request of a command line. -/
def requestOfArguments (arguments : List String) : Except Interruption Request :=
  readCommandLine arguments .nothing

end RecordCoding.CommandLine
