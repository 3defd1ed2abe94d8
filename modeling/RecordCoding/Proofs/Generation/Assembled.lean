import RecordCoding.Proofs.Lookup
import RecordCoding.Routine

/-!
# Assembled routines

Assembly looks every entry of the key table up among the fields by its name. Where the table
lists the stored fields and no two fields share a name, the two routines and the diagnostics are
three lists over the stored fields, and the detour through names disappears.
-/

namespace RecordCoding

namespace Field

/-- Whether a default is written without a value. -/
def lacksDefault (field : Field) : Bool := field.directives.contains (.default none)

/-- The complaint about a default without a value. -/
def missingDefault (field : Field) : Diagnostic :=
  .of (.missingDefaultValue field.name) (.onField field.name "default")

/-- The decode statement of a field whose plan is found. -/
def decodeStatement? (field : Field) : Option DecodeStatement :=
  field.readPlan.toOption.map (⟨field.name, ·⟩)

/-- The encode statement of a field. -/
def encodeStatement (field : Field) : EncodeStatement := ⟨field.name, .ofOptional field.isOptional⟩

/-- A plan is refused exactly for a default without a value, and always with the same complaint. -/
theorem readPlan_cases (field : Field) :
    (field.lacksDefault = true ∧ field.readPlan = .error field.missingDefault) ∨
    (field.lacksDefault = false ∧ ∃ plan, field.readPlan = .ok plan) := by
  unfold readPlan lacksDefault
  cases field.directives.contains (.default none) with
  | true => exact .inl ⟨rfl, rfl⟩
  | false =>
    refine .inr ⟨rfl, ?_⟩
    simp only [Bool.false_eq_true, if_false]
    split
    · exact ⟨_, rfl⟩
    · split <;> exact ⟨_, rfl⟩

/-- The decode side of a field, unless decoding is written by hand. -/
theorem decodePart_false (field : Field) :
    Assembly.decodePart false field =
      (field.decodeStatement?.toList,
        if field.lacksDefault then [field.missingDefault] else []) := by
  rcases field.readPlan_cases with ⟨lacks, refused⟩ | ⟨given, plan, found⟩
  · simp [Assembly.decodePart, decodeStatement?, refused, lacks, Except.toOption]
  · simp [Assembly.decodePart, decodeStatement?, found, given, Except.toOption]

end Field

namespace Assembly

/-- The contribution of an entry named like a field is that field's, if names are not shared. -/
theorem part_of_mem {decl : Declaration} (names : (decl.fields.map (·.name)).Nodup)
    (table : KeyTable) {field : Field} (member : field ∈ decl.fields) {entry : KeyEntry}
    (named : entry.field = field.name) :
    part decl table entry =
      ⟨(decodePart decl.handWritten.decode field).1, [field.encodeStatement],
        (decodePart decl.handWritten.decode field).2⟩ := by
  have found := @find?_key _ _ _ _ Field.name _ names _ member
  simp [part, named, found, Field.encodeStatement]

private theorem parts_eq {decl : Declaration} (names : (decl.fields.map (·.name)).Nodup)
    (table : KeyTable) {entries : List KeyEntry} {fields : List Field}
    (within : ∀ field ∈ fields, field ∈ decl.fields)
    (listed : entries.map (·.field) = fields.map (·.name)) :
    entries.map (part decl table) = fields.map fun field =>
      ⟨(decodePart decl.handWritten.decode field).1, [field.encodeStatement],
        (decodePart decl.handWritten.decode field).2⟩ := by
  induction entries generalizing fields with
  | nil => cases fields <;> simp_all
  | cons entry rest ih =>
    cases fields with
    | nil => cases listed
    | cons field others =>
      obtain ⟨named, tail⟩ := List.cons.inj listed
      rw [List.map_cons, List.map_cons, part_of_mem names table (within _ List.mem_cons_self) named,
        ih (fun f member => within f (List.mem_cons_of_mem _ member)) tail]

private theorem missingDefaults_eq_flatMap (fields : List Field) :
    (fields.filter Field.lacksDefault).map Field.missingDefault =
      fields.flatMap fun field => if field.lacksDefault then [field.missingDefault] else [] := by
  induction fields with
  | nil => rfl
  | cons field rest ih =>
    rw [List.filter_cons, List.flatMap_cons, ← ih]
    cases field.lacksDefault <;> rfl

/-- Over the stored fields, the routines have one statement for each field, except that a field
whose default lacks a value is only written; each such field is reported once, in order. -/
theorem build_eq {decl : Declaration} (names : (decl.fields.map (·.name)).Nodup)
    {table : KeyTable} (listed : table.entries.map (·.field) = decl.storedFields.map (·.name)) :
    build decl table =
      { decode := if decl.handWritten.decode then none
          else some ⟨table.name, decl.storedFields.filterMap Field.decodeStatement?⟩
        encode := if decl.handWritten.encode then none
          else some ⟨table.name, decl.storedFields.map Field.encodeStatement⟩
        diagnostics := if decl.handWritten.decode then []
          else (decl.storedFields.filter Field.lacksDefault).map Field.missingDefault } := by
  have within : ∀ field ∈ decl.storedFields, field ∈ decl.fields := fun field member =>
    (Declaration.mem_storedFields.mp member).1
  unfold build
  rw [parts_eq names table within listed]
  generalize decl.storedFields = fields
  have encode := List.map_eq_flatMap (f := Field.encodeStatement) (l := fields)
  cases decl.handWritten.decode with
  | true => simp [List.flatMap_map, decodePart, encode]
  | false =>
    have decode := List.filterMap_eq_flatMap_toList Field.decodeStatement? fields
    have diagnostics := missingDefaults_eq_flatMap fields
    simp [List.flatMap_map, Field.decodePart_false, encode, decode, diagnostics]

/-- Over a table of fields of the declaration, only defaults without a value are reported. -/
theorem exists_of_mem_build {decl : Declaration} {table : KeyTable}
    (listed : table.entries.map (·.field) = decl.storedFields.map (·.name)) {d : Diagnostic}
    (member : d ∈ (build decl table).diagnostics) :
    ∃ field ∈ decl.fields, d = field.missingDefault := by
  obtain ⟨part', within, raised⟩ := List.mem_flatMap.mp member
  obtain ⟨entry, listedEntry, rfl⟩ := List.mem_map.mp within
  have known : entry.field ∈ decl.storedFields.map (·.name) :=
    listed ▸ List.mem_map_of_mem listedEntry
  obtain ⟨named, stored, sameName⟩ := List.mem_map.mp known
  unfold part at raised
  split at raised
  · rename_i missing
    have := List.find?_eq_none.mp missing named (Declaration.mem_storedFields.mp stored).1
    simp [sameName] at this
  · rename_i field found
    cases handWritten : decl.handWritten.decode with
    | true => simp [handWritten, decodePart] at raised
    | false =>
      simp only [handWritten, Field.decodePart_false] at raised
      split at raised
      · exact ⟨field, List.mem_of_find?_eq_some found, List.mem_singleton.mp raised⟩
      · cases raised

/-- They have one cause. -/
theorem cause_of_mem_build {decl : Declaration} {table : KeyTable}
    (listed : table.entries.map (·.field) = decl.storedFields.map (·.name)) {d : Diagnostic}
    (member : d ∈ (build decl table).diagnostics) :
    ∃ name, d.cause = .missingDefaultValue name := by
  obtain ⟨field, -, rfl⟩ := exists_of_mem_build listed member
  exact ⟨field.name, rfl⟩

end Assembly

end RecordCoding
