import RecordCoding.CaseStyle

/-!
# Diagnostics

What can be wrong with a declaration, where, and how badly. Every diagnostic has a stable code
and is written in two languages, `[code] EN: … | ZH: … | HINT: …`, the hint only where there is
one. This is one line if the texts in it are lines.
-/

namespace RecordCoding

/-- How a diagnostic affects generation. -/
inductive Severity where
  | warning
  | error
  deriving Repr, DecidableEq

/-- The word for a severity, in reports and in configuration files. -/
def Severity.text : Severity → String
  | .warning => "warning"
  | .error => "error"

/-- The severity a word names. -/
def Severity.ofText? : String → Option Severity
  | "warning" => some .warning
  | "error" => some .error
  | _ => none

/-- The node a diagnostic is about. -/
inductive Target where
  | type
  | field (name : String)
  /-- An attribute of a field, or of the type when no field is given. -/
  | directive (field : Option String) (name : String)
  deriving Repr, DecidableEq

namespace Target

/-- An attribute of a field. -/
abbrev onField (field name : String) : Target := .directive (some field) name

/-- An attribute of the type. -/
abbrev onType (name : String) : Target := .directive none name

/-- The field a target lies on, if any. -/
def fieldName : Target → Option String
  | .type => none
  | .field name => some name
  | .directive owner _ => owner

/-- The words for a target. -/
def text : Target → String
  | .type => "type"
  | .field name => "field `" ++ name ++ "`"
  | .directive (some owner) name => "`" ++ name ++ "` on field `" ++ owner ++ "`"
  | .directive none name => "`" ++ name ++ "` on type"

end Target

/-- What went wrong. -/
inductive Cause where
  | mustBeStringLiteral (attr : String)
  /-- A case attribute whose tag names no style. -/
  | unknownCaseStyle (tag : String)
  | valueRequired (attr : String)
  | emptyCustomKey
  | keyTableExists (name : String)
  | fieldOnly (attr : String)
  | structOnly (attr : String)
  | fieldOrStructOnly (attr : String)
  | notAFlatRecord
  | missingDefaultValue (field : String)
  | requiresDerive (attr : String)
  | notAStruct
  | multipleKeyAttributes (attr : String)
  | customKeyShadowsCase
  | keyOnComputedField
  | internal (detail : String)
  deriving Repr, DecidableEq

namespace Cause

/-- The stable code of a cause. -/
def code : Cause → String
  | mustBeStringLiteral _ | unknownCaseStyle _ => "E001"
  | valueRequired _ => "E002"
  | emptyCustomKey => "E003"
  | keyTableExists _ => "E004"
  | fieldOnly _ => "E005"
  | structOnly _ => "E006"
  | fieldOrStructOnly _ => "E007"
  | notAFlatRecord => "E008"
  | missingDefaultValue _ => "E009"
  | requiresDerive _ => "E010"
  | notAStruct => "D001"
  | multipleKeyAttributes _ => "K001"
  | customKeyShadowsCase => "K002"
  | keyOnComputedField => "K003"
  | internal _ => "E099"

/-- The severity before any configuration: only a shadowed case style is a warning. -/
def severity : Cause → Severity
  | customKeyShadowsCase => .warning
  | _ => .error

/-- The English text. -/
def english : Cause → String
  | mustBeStringLiteral attr => "`" ++ attr ++ "` must be a string literal"
  | unknownCaseStyle tag => "`" ++ tag ++ "` is not a known case style"
  | valueRequired attr => "`" ++ attr ++ "` requires a non-empty value"
  | emptyCustomKey => "custom key value cannot be empty"
  | keyTableExists name => "remove `" ++ name ++ "` to use #[derive(Codify)]"
  | fieldOnly attr => "`" ++ attr ++ "` can only be attached to fields"
  | structOnly attr => "`" ++ attr ++ "` can only be attached to structs"
  | fieldOrStructOnly attr => "`" ++ attr ++ "` can only be attached to fields and structs"
  | notAFlatRecord => "Codify can only be derived for structs with named fields"
  | missingDefaultValue field =>
    "field '" ++ field ++ "' annotated with `default` requires a default value argument, " ++
      "e.g., #[codify(default = \"\")]"
  | requiresDerive attr => "#[derive(Codify)] is required to use `" ++ attr ++ "`"
  | notAStruct => "Codify can only be applied to a struct"
  | multipleKeyAttributes attr => "multiple `" ++ attr ++ "` attributes found"
  | customKeyShadowsCase => "multiple key attributes found, defaulting to `rename`"
  | keyOnComputedField => "key attributes cannot be attached to skipped fields"
  | internal detail => detail

/-- The Chinese text. -/
def chinese : Cause → String
  | mustBeStringLiteral attr => "`" ++ attr ++ "` 必须是字符串字面量"
  | unknownCaseStyle tag => "`" ++ tag ++ "` 不是有效的大小写风格"
  | valueRequired _ => "必须提供非空字符串"
  | emptyCustomKey => "自定义键值不能为空"
  | keyTableExists name => "使用 #[derive(Codify)] 前需移除已有 " ++ name
  | fieldOnly attr => "`" ++ attr ++ "` 只能应用在字段上"
  | structOnly attr => "`" ++ attr ++ "` 只能应用在结构体上"
  | fieldOrStructOnly attr => "`" ++ attr ++ "` 只能应用在字段或结构体上"
  | notAFlatRecord => "只能应用在具名字段的结构体上"
  | missingDefaultValue field =>
    "字段 '" ++ field ++ "' 使用 default 时必须提供默认值，例如 #[codify(default = \"\")]"
  | requiresDerive attr => "使用 `" ++ attr ++ "` 需要先添加 #[derive(Codify)]"
  | notAStruct => "Codify 只能应用在结构体上"
  | multipleKeyAttributes attr => "发现多个 `" ++ attr ++ "` 属性"
  | customKeyShadowsCase => "发现多个键属性，使用 rename 的值"
  | keyOnComputedField => "键属性不能应用在被跳过的字段上"
  | internal detail => detail

/-- Advice on the repair, where there is some. -/
def hint : Cause → Option String
  | mustBeStringLiteral _ => some "使用 \"value\""
  | unknownCaseStyle _ => some ("可选值: " ++ CaseStyle.tagList)
  | valueRequired _ => some "传入非空字符串"
  | emptyCustomKey => some "传入有效字符串"
  | multipleKeyAttributes attr => some ("只保留一个 `" ++ attr ++ "`")
  | _ => none

end Cause

/-- The one-line form of a bilingual message; an empty hint is dropped. -/
def formatMessage (code english chinese : String) (hint : Option String) : String :=
  "[" ++ code ++ "] EN: " ++ english ++ " | ZH: " ++ chinese ++
    match hint with
    | some text => if text.isEmpty then "" else " | HINT: " ++ text
    | none => ""

/-- A cause at a target, with the severity that applies. -/
structure Diagnostic where
  cause : Cause
  severity : Severity
  target : Target
  deriving Repr, DecidableEq

namespace Diagnostic

/-- A diagnostic of its cause's own severity. -/
def of (cause : Cause) (target : Target) : Diagnostic := ⟨cause, cause.severity, target⟩

/-- A diagnostic about the type as a whole. -/
def onType (cause : Cause) : Diagnostic := of cause .type

/-- The same diagnostic at another severity. -/
def withSeverity (severity : Severity) (d : Diagnostic) : Diagnostic := { d with severity }

/-- The code of the cause. -/
def code (d : Diagnostic) : String := d.cause.code

/-- Whether the diagnostic is an error. -/
def isError (d : Diagnostic) : Bool := d.severity == .error

/-- The line that is shown, without the target. -/
def message (d : Diagnostic) : String :=
  formatMessage d.cause.code d.cause.english d.cause.chinese d.cause.hint

end Diagnostic

end RecordCoding
