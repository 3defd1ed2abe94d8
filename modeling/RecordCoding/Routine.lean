import RecordCoding.KeyTable
import RecordCoding.ReadPlan

/-!
# Decode and encode routines

A routine lists one statement per entry of the key table. A field whose plan cannot be found has
no decode statement but keeps its encode statement, and its neighbours are unaffected.
-/

namespace RecordCoding

/-- One field of a decode routine. -/
structure DecodeStatement where
  field : String
  plan : ReadPlan
  deriving Repr, DecidableEq

/-- One field of an encode routine. -/
structure EncodeStatement where
  field : String
  rule : WriteRule
  deriving Repr, DecidableEq

/-- A decode routine and the key table it reads through. -/
structure DecodeRoutine where
  keyTable : String
  statements : List DecodeStatement
  deriving Repr, DecidableEq

/-- An encode routine and the key table it writes through. -/
structure EncodeRoutine where
  keyTable : String
  statements : List EncodeStatement
  deriving Repr, DecidableEq

/-- The statement for a field. -/
def DecodeRoutine.statement? (routine : DecodeRoutine) (field : String) : Option DecodeStatement :=
  routine.statements.find? (·.field == field)

/-- The routines of a type; one that is written by hand is absent. -/
structure Assembly where
  decode : Option DecodeRoutine
  encode : Option EncodeRoutine
  diagnostics : List Diagnostic
  deriving Repr, DecidableEq

namespace Assembly

/-- What one table entry contributes. -/
structure Part where
  decode : List DecodeStatement
  encode : List EncodeStatement
  diagnostics : List Diagnostic
  deriving Repr, DecidableEq

/-- The decode side of an entry, unless decoding is written by hand. -/
def decodePart (handWritten : Bool) (field : Field) : List DecodeStatement × List Diagnostic :=
  if handWritten then ([], [])
  else match field.readPlan with
    | .ok plan => ([⟨field.name, plan⟩], [])
    | .error diagnostic => ([], [diagnostic])

/-- The contribution of one table entry. -/
def part (decl : Declaration) (table : KeyTable) (entry : KeyEntry) : Part :=
  match decl.fields.find? (·.name == entry.field) with
  | none => ⟨[], [], [.onType (.internal ("key table `" ++ table.name ++
      "` names unknown field `" ++ entry.field ++ "`"))]⟩
  | some field =>
    let (decode, diagnostics) := decodePart decl.handWritten.decode field
    ⟨decode, [⟨field.name, .ofOptional field.isOptional⟩], diagnostics⟩

/-- The routines over a key table. -/
def build (decl : Declaration) (table : KeyTable) : Assembly :=
  let parts := table.entries.map (part decl table)
  { decode := if decl.handWritten.decode then none
      else some ⟨table.name, parts.flatMap (·.decode)⟩
    encode := if decl.handWritten.encode then none
      else some ⟨table.name, parts.flatMap (·.encode)⟩
    diagnostics := parts.flatMap (·.diagnostics) }

/-- A decode routine is produced exactly when none is written by hand. -/
@[simp] theorem isSome_decode_build (decl : Declaration) (table : KeyTable) :
    (build decl table).decode.isSome = !decl.handWritten.decode := by
  unfold build
  cases decl.handWritten.decode <;> rfl

/-- An encode routine is produced exactly when none is written by hand. -/
@[simp] theorem isSome_encode_build (decl : Declaration) (table : KeyTable) :
    (build decl table).encode.isSome = !decl.handWritten.encode := by
  unfold build
  cases decl.handWritten.encode <;> rfl

end Assembly

end RecordCoding
