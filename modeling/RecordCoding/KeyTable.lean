import RecordCoding.Configuration
import RecordCoding.WireKey

/-!
# Key tables

The ordered assignment of wire keys to the stored fields of a type. A table is generated from
the declaration unless the type declares its own; generation collects every diagnostic before it
decides whether the table stands.
-/

namespace RecordCoding

/-- A field with its wire key. -/
structure KeyEntry where
  field : String
  key : String
  deriving Repr, DecidableEq

/-- The wire keys of a type, in declaration order. -/
structure KeyTable where
  name : String
  entries : List KeyEntry
  deriving Repr, DecidableEq

/-- A generated table with the diagnostics that did not prevent it. -/
structure KeyTableReport where
  table : KeyTable
  diagnostics : List Diagnostic
  deriving Repr, DecidableEq

/-- Why no table was generated. -/
inductive KeyTableFailure where
  /-- The type declares its own table. -/
  | alreadyExists (name : String)
  /-- Some key could not be chosen; everything that was found on the way. -/
  | conflict (diagnostics : List Diagnostic)
  deriving Repr, DecidableEq

namespace KeyTableFailure

/-- The words for a failure. -/
def message : KeyTableFailure → String
  | alreadyExists name => "key table `" ++ name ++ "` already exists"
  | conflict diagnostics =>
    "conflicting key annotations (" ++ toString diagnostics.length ++ " diagnostics)"

/-- The diagnostics to show for a failure. -/
def diagnostics : KeyTableFailure → List Diagnostic
  | alreadyExists name => [.onType (.keyTableExists name)]
  | conflict found => found

end KeyTableFailure

namespace KeyTable

/-- The table assumed for a type that declares its own: its wire keys are not known, so every
stored field stands for itself. -/
def declared (decl : Declaration) (config : Configuration) : KeyTable where
  name := config.tableName decl.name
  entries := decl.storedFields.map fun field => ⟨field.name, field.name⟩

/-- The wire key of a field. -/
def wireKey? (table : KeyTable) (field : String) : Option String :=
  (table.entries.find? (·.field == field)).map (·.key)

/-- What one field contributes to a table. -/
structure Contribution where
  entries : List KeyEntry
  diagnostics : List Diagnostic
  /-- Whether the field prevents the table. -/
  isFatal : Bool
  deriving Repr, DecidableEq

/-- The contribution of one field: an entry for a stored field whose key is found; a diagnostic
for a key that is not, and for naming directives on a computed field. -/
def contribution (config : Configuration) (defaults : KeyDefaults) (field : Field) :
    Contribution :=
  if field.isComputed then
    ⟨[], if field.hasKeyDirective then [.of .keyOnComputedField (.field field.name)] else [], false⟩
  else
    match field.wireKey defaults with
    | .ok found =>
      let advisories := found.advisories.map (·.withSeverity config.advisorySeverity)
      ⟨[⟨field.name, found.key⟩], advisories, advisories.any Diagnostic.isError⟩
    | .error diagnostic => ⟨[], [diagnostic], true⟩

/-- The table of a declaration. -/
def generate (decl : Declaration) (config : Configuration) :
    Except KeyTableFailure KeyTableReport :=
  if decl.handWritten.keyTable then
    .error (.alreadyExists (config.tableName decl.name))
  else if 1 < (decl.directives.filterMap Directive.caseStyle?).length then
    .error (.conflict [.of (.multipleKeyAttributes "case") (.onType "case")])
  else
    let parts := decl.fields.map (contribution config decl.keyDefaults)
    let diagnostics := parts.flatMap (·.diagnostics)
    if parts.any (·.isFatal) then .error (.conflict diagnostics)
    else .ok ⟨⟨config.tableName decl.name, parts.flatMap (·.entries)⟩, diagnostics⟩

/-- The assumed table has one entry per stored field, in order. -/
@[simp] theorem fields_declared (decl : Declaration) (config : Configuration) :
    (declared decl config).entries.map (·.field) = decl.storedFields.map (·.name) := by
  simp [declared, Function.comp_def]

/-- Every generated or assumed table carries the reserved name. -/
theorem name_of_generate {decl : Declaration} {config : Configuration} {report : KeyTableReport}
    (h : generate decl config = .ok report) : report.table.name = config.tableName decl.name := by
  unfold generate at h
  split at h
  · cases h
  · split at h
    · cases h
    · dsimp only at h
      split at h
      · cases h
      · cases h; rfl

end KeyTable

end RecordCoding
