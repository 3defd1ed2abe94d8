import RecordCoding.Configuration
import RecordCoding.Toml.Parser

/-!
# Configuration files

A configuration is read from a settings file. Every setting may be left out; a setting that is
not known, or whose value is of the wrong kind, makes the file unusable.
-/

namespace RecordCoding

/-- Why a configuration could not be obtained. -/
inductive ConfigurationError where
  /-- The file cannot be read. -/
  | unreadable
  /-- The file is malformed or does not fit the settings. -/
  | malformed
  | flawed (flaw : Configuration.Flaw)
  deriving Repr, DecidableEq

/-- The words for a flaw found in a file. -/
def ConfigurationError.flawMessage (flaw : Configuration.Flaw) : String :=
  "invalid configuration value: " ++ flaw.message

/-- What is found under the path of a file. -/
inductive FileEntry where
  | missing
  | directory
  /-- A file whose content is no text. -/
  | unreadable
  | file (content : String)
  deriving Repr, DecidableEq

namespace Configuration

/-- The severity a value names: a word, or a table with that word as its only key over nothing. -/
def severity? : Toml.Value → Option Severity
  | .text word => Severity.ofText? word
  | .table _ [(word, .table _ [])] => Severity.ofText? word
  | .table _ [(word, .array [])] => Severity.ofText? word
  | _ => none

/-- Takes over one setting. -/
def withSetting (config : Configuration) (setting : String × Toml.Value) :
    Option Configuration :=
  match setting with
  | ("key_table_suffix", .text suffix) => some { config with tableSuffix := suffix }
  | ("advisory_severity", value) =>
    (severity? value).map fun severity => { config with advisorySeverity := severity }
  | ("serde_bridge", .boolean bridge) => some { config with serdeBridge := bridge }
  | _ => none

/-- The configuration with the settings of a file. -/
def ofEntries? (entries : Toml.Entries) : Option Configuration :=
  entries.foldlM withSetting standard

/-- The configuration written in a text. -/
def ofText (text : String) : Except ConfigurationError Configuration :=
  match (Toml.parse? text).bind ofEntries? with
  | none => .error .malformed
  | some config =>
    match config.flaw? with
    | none => .ok config
    | some flaw => .error (.flawed flaw)

/-- The configuration in a file that has to exist. -/
def load : FileEntry → Except ConfigurationError Configuration
  | .file content => ofText content
  | .missing | .directory | .unreadable => .error .unreadable

/-- The configuration in a file, or the standard one where there is no such file. -/
def discover : FileEntry → Except ConfigurationError Configuration
  | .file content => ofText content
  | .unreadable => .error .unreadable
  | .missing | .directory => .ok standard

/-- A configuration read from a text has no flaw. -/
theorem flaw?_of_ofText {text : String} {config : Configuration} (h : ofText text = .ok config) :
    config.flaw? = none := by
  unfold ofText at h
  split at h
  · cases h
  · split at h
    · cases h; assumption
    · cases h

end Configuration

end RecordCoding
