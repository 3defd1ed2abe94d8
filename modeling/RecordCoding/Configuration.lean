import RecordCoding.Diagnostic
import RecordCoding.Text.Alphanumeric

/-!
# Configuration

The settings shared by every type: the suffix of key table names, the severity of advisories and
whether the bridge to the serialization framework is written.
-/

namespace RecordCoding

/-- The settings of a generation run. -/
structure Configuration where
  /-- A key table is named after its type followed by this. -/
  tableSuffix : String
  /-- The severity of a literal key that shadows a case style. -/
  advisorySeverity : Severity
  serdeBridge : Bool
  deriving Repr, DecidableEq

namespace Configuration

/-- The settings that apply where nothing is configured. -/
def standard : Configuration := ⟨"CodingKeys", .warning, true⟩

/-- The file in which settings are looked for. -/
def fileName : String := "codify.toml"

/-- The name reserved for the key table of a type. -/
def tableName (config : Configuration) (typeName : String) : String :=
  typeName ++ config.tableSuffix

/-- Why a suffix is not accepted. -/
inductive Flaw where
  | emptySuffix
  | strangeSuffix (suffix : String)
  deriving Repr, DecidableEq

/-- The words for a flaw. -/
def Flaw.message : Flaw → String
  | emptySuffix => "key_table_suffix must not be empty"
  | strangeSuffix suffix =>
    "key_table_suffix `" ++ suffix ++ "` must only contain letters, digits and underscores"

/-- The characters allowed in a suffix. -/
def isSuffixChar (c : Char) : Bool := Text.isAlphanumeric c || c == '_'

/-- The flaw of the configured suffix, if it has one. -/
def flaw? (config : Configuration) : Option Flaw :=
  if config.tableSuffix.isEmpty then some .emptySuffix
  else if config.tableSuffix.toList.all isSuffixChar then none
  else some (.strangeSuffix config.tableSuffix)

/-- A configuration has no flaw exactly when its suffix is a nonempty run of suffix characters. -/
theorem flaw?_eq_none_iff (config : Configuration) :
    config.flaw? = none ↔
      config.tableSuffix.isEmpty = false ∧ config.tableSuffix.toList.all isSuffixChar = true := by
  unfold flaw?
  cases config.tableSuffix.isEmpty <;> cases config.tableSuffix.toList.all isSuffixChar <;> simp

example : standard.flaw? = none := by decide

end Configuration

end RecordCoding
