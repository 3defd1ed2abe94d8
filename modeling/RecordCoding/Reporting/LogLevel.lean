/-!
# Log levels

From the most talkative to silence. A level is named by a word, in any mixture of capitals, or
chosen by counting how often more output was asked for.
-/

namespace RecordCoding

/-- The least important events that are still shown. -/
inductive LogLevel where
  | trace
  | debug
  | info
  | warn
  | error
  | off
  deriving Repr, DecidableEq

namespace LogLevel

/-- The level that applies where none is chosen. -/
def standard : LogLevel := .warn

/-- The word for a level. -/
def text : LogLevel → String
  | trace => "trace"
  | debug => "debug"
  | info => "info"
  | warn => "warn"
  | error => "error"
  | off => "off"

/-- The position of a level, counted from the most talkative. -/
def rank : LogLevel → Nat
  | trace => 0
  | debug => 1
  | info => 2
  | warn => 3
  | error => 4
  | off => 5

/-- A word in small letters; only the letters of ASCII are affected. -/
def smallLetters (word : String) : String := word.map Char.toLower

/-- The level a word names. -/
def ofText? (word : String) : Option LogLevel :=
  match smallLetters word with
  | "trace" => some trace
  | "debug" => some debug
  | "info" => some info
  | "warn" | "warning" => some warn
  | "error" => some error
  | "off" => some off
  | _ => none

/-- What is said about a word that names no level. -/
def unknownMessage (word : String) : String := "unknown log level `" ++ smallLetters word ++ "`"

/-- The level for a number of requests for more output. -/
def ofVerbosity : Nat → LogLevel
  | 0 => warn
  | 1 => info
  | 2 => debug
  | _ => trace

end LogLevel

end RecordCoding
