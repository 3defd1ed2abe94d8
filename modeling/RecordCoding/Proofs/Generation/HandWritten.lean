import RecordCoding.Proofs.Generation.Alignment

/-!
# Members written by hand

Writing a member by hand takes that member out of the outcome, with what was reported while it was
generated, and leaves everything else as it is. Routines come into contact with a key table only
through its name and the names of its fields, and these are the same whether the table is generated
or declared.
-/

namespace RecordCoding

/-- The declaration with other members written by hand. -/
def Declaration.withHandWritten (decl : Declaration) (handWritten : HandWritten) : Declaration :=
  { decl with handWritten }

/-- What a target is refused for has nothing to do with members written by hand. -/
theorem Declaration.targetFlaws_withHandWritten (decl : Declaration) (handWritten : HandWritten) :
    (decl.withHandWritten handWritten).targetFlaws = decl.targetFlaws := rfl

/-- Neither has the key table, as long as it is generated at all. -/
theorem KeyTable.report_withHandWritten {decl : Declaration} {handWritten : HandWritten}
    (config : Configuration) (undeclared : handWritten.keyTable = false)
    (without : decl.handWritten.keyTable = false) :
    generate (decl.withHandWritten handWritten) config = generate decl config := by
  unfold generate
  rw [without]
  change (if handWritten.keyTable = true then _ else _) = _
  rw [undeclared]
  rfl

namespace Assembly

/-- The contribution of an entry depends on the table only through the name of the table and the
name of the field. -/
theorem part_congr (decl : Declaration) {table other : KeyTable} (name : table.name = other.name)
    {entry same : KeyEntry} (field : entry.field = same.field) :
    part decl table entry = part decl other same := by
  unfold part
  rw [name, field]

/-- Tables of one name that list the same fields give the same routines. -/
theorem build_congr (decl : Declaration) {table other : KeyTable} (name : table.name = other.name)
    (fields : table.entries.map (·.field) = other.entries.map (·.field)) :
    build decl table = build decl other := by
  have parts : table.entries.map (part decl table) = other.entries.map (part decl other) := by
    have byField (t : KeyTable) (named : t.name = other.name) : t.entries.map (part decl t) =
        (t.entries.map (·.field)).map fun field => part decl other ⟨field, field⟩ := by
      rw [List.map_map]
      exact List.map_congr_left fun entry _ => part_congr decl named rfl
    rw [byField table name, byField other rfl, fields]
  unfold build
  rw [parts, name]

/-- An entry for a field of the declaration contributes the same whatever is written by hand, but
for the decode side where that is. -/
theorem part_withHandWritten {decl : Declaration} (handWritten : HandWritten) (table : KeyTable)
    (generated : decl.handWritten.decode = false) {entry : KeyEntry}
    (known : entry.field ∈ decl.fields.map (·.name)) :
    part (decl.withHandWritten handWritten) table entry =
      ⟨if handWritten.decode then [] else (part decl table entry).decode,
        (part decl table entry).encode,
        if handWritten.decode then [] else (part decl table entry).diagnostics⟩ := by
  obtain ⟨named, within, name⟩ := List.mem_map.mp known
  unfold part Declaration.withHandWritten
  rw [generated]
  dsimp only
  cases found : decl.fields.find? (·.name == entry.field) with
  | none =>
    have missing := List.find?_eq_none.mp found named within
    simp [name] at missing
  | some field =>
    cases handWritten.decode with
    | true => rfl
    | false => rfl

/-- Over the stored fields, the routines written by hand are left out, what is reported for the
decode routine is left out with it, and nothing else changes. -/
theorem build_withHandWritten {decl : Declaration} (handWritten : HandWritten) {table : KeyTable}
    (without : decl.handWritten = .nothing)
    (listed : table.entries.map (·.field) = decl.storedFields.map (·.name)) :
    build (decl.withHandWritten handWritten) table =
      ⟨if handWritten.decode then none else (build decl table).decode,
        if handWritten.encode then none else (build decl table).encode,
        if handWritten.decode then [] else (build decl table).diagnostics⟩ := by
  have generated : decl.handWritten.decode = false := by rw [without]; rfl
  have writes : decl.handWritten.encode = false := by rw [without]; rfl
  have known : ∀ entry ∈ table.entries, entry.field ∈ decl.fields.map (·.name) := by
    intro entry member
    have stored : entry.field ∈ decl.storedFields.map (·.name) :=
      listed ▸ List.mem_map_of_mem member
    exact (List.filter_sublist.map _).subset stored
  have parts := List.map_congr_left fun entry member =>
    part_withHandWritten handWritten table generated (known entry member)
  unfold build
  rw [parts, generated, writes]
  change Assembly.mk (if handWritten.decode then none else _)
    (if handWritten.encode then none else _) _ = _
  cases handWritten.decode with
  | true => simp [List.flatMap_map]
  | false => simp [List.flatMap_map]

end Assembly

open Generation

/-- A run that ends in `done` with nothing written by hand generated a key table, and reported what
was found about its keys before what was found about the routines. -/
theorem generate_of_done_of_nothing {decl : Declaration} {config : Configuration}
    (without : decl.handWritten = .nothing) (done : (generate decl config).state = .done) :
    decl.targetFlaws = [] ∧ ∃ report, KeyTable.generate decl config = .ok report ∧
      generate decl config = ⟨decl.name, .done, ⟨some report.table,
          (Assembly.build decl report.table).decode, (Assembly.build decl report.table).encode⟩,
        config.tableName decl.name,
        report.diagnostics ++ (Assembly.build decl report.table).diagnostics⟩ := by
  rw [generate_eq] at done ⊢
  rcases result_cases decl config with
    ⟨-, eq⟩ | ⟨-, _, _, -, eq⟩ | ⟨accepted, found, generated, table, step, eq⟩ <;>
    rw [eq] at done ⊢
  · cases done
  · cases done
  · rcases tableStep_some step with ⟨declared, -⟩ | ⟨-, rfl, stands⟩
    · rw [without] at declared
      cases declared
    · exact ⟨accepted, ⟨table, found⟩, stands, rfl⟩

/-- A diagnostic about a default that lacks its value is known by its code. -/
theorem Diagnostic.code_of_missingDefaultValue {d : Diagnostic} {field : String}
    (about : d.cause = .missingDefaultValue field) : d.code = "E009" := by
  rw [code, about]
  rfl

/-- No diagnostic about naming has that code. -/
theorem Diagnostic.IsNaming.code_ne {d : Diagnostic} (naming : d.IsNaming) : d.code ≠ "E009" := by
  unfold Diagnostic.code
  rcases naming with about | about | about | ⟨attr, about⟩ <;> rw [about] <;> simp [Cause.code]

/-- What is reported about keys and what is reported about routines can be told apart. -/
theorem partition_diagnostics {naming missing : List Diagnostic}
    (aboutKeys : ∀ d ∈ naming, d.IsNaming)
    (aboutValues : ∀ d ∈ missing, ∃ field, d.cause = .missingDefaultValue field) :
    (naming ++ missing).filter (·.code != "E009") = naming ∧
      (naming ++ missing).filter (·.code == "E009") = missing := by
  have keys : ∀ d ∈ naming, d.code ≠ "E009" := fun d member => (aboutKeys d member).code_ne
  have values : ∀ d ∈ missing, d.code = "E009" := fun d member =>
    (aboutValues d member).elim fun _ about => Diagnostic.code_of_missingDefaultValue about
  constructor
  · rw [List.filter_append, List.filter_eq_self.mpr (by simpa using keys),
      List.filter_eq_nil_iff.mpr (by simpa using values), List.append_nil]
  · rw [List.filter_append, List.filter_eq_nil_iff.mpr (by simpa using keys),
      List.filter_eq_self.mpr (by simpa using values), List.nil_append]

/-- A run whose target is accepted and that has a key table ends with the routines over it. -/
theorem generate_of_tableStep {decl : Declaration} {config : Configuration}
    {found : List Diagnostic} {generated : Option KeyTable} {table : KeyTable}
    (accepted : decl.targetFlaws = [])
    (step : tableStep decl config = (found, generated, some table)) :
    generate decl config =
      ⟨decl.name, .done,
        ⟨generated, (Assembly.build decl table).decode, (Assembly.build decl table).encode⟩,
        config.tableName decl.name, found ++ (Assembly.build decl table).diagnostics⟩ := by
  have ends : result decl config = ⟨.done, ⟨generated, (Assembly.build decl table).decode,
      (Assembly.build decl table).encode⟩, found ++ (Assembly.build decl table).diagnostics⟩ := by
    unfold result
    rw [accepted, step]
    rfl
  rw [generate_eq, ends]

/-- The run for a declaration with members written by hand, given that there is a key table when
nothing is. -/
theorem generate_withHandWritten_of_report {decl : Declaration} {config : Configuration}
    {report : KeyTableReport} (without : decl.handWritten = .nothing)
    (accepted : decl.targetFlaws = []) (stands : KeyTable.generate decl config = .ok report)
    (handWritten : HandWritten) :
    generate (decl.withHandWritten handWritten) config =
      ⟨decl.name, .done,
        ⟨if handWritten.keyTable then none else some report.table,
          if handWritten.decode then none else (Assembly.build decl report.table).decode,
          if handWritten.encode then none else (Assembly.build decl report.table).encode⟩,
        config.tableName decl.name,
        (if handWritten.keyTable then [] else report.diagnostics) ++
          if handWritten.decode then [] else (Assembly.build decl report.table).diagnostics⟩ := by
  have undeclared : decl.handWritten.keyTable = false := by rw [without]; rfl
  have acceptedToo := (decl.targetFlaws_withHandWritten handWritten).trans accepted
  have listed := KeyTable.fields_of_generate stands
  have assembled := Assembly.build_withHandWritten handWritten without listed
  cases chosen : handWritten.keyTable with
  | true =>
    have step : tableStep (decl.withHandWritten handWritten) config =
        ([], none, some (.declared (decl.withHandWritten handWritten) config)) :=
      if_pos chosen
    -- The declared table and the generated one differ in their keys alone, which nothing reads.
    have declared : Assembly.build (decl.withHandWritten handWritten)
        (.declared (decl.withHandWritten handWritten) config) =
          Assembly.build (decl.withHandWritten handWritten) report.table := by
      refine Assembly.build_congr _ (KeyTable.name_of_generate stands).symm ?_
      rw [KeyTable.fields_declared, listed]
      rfl
    rw [generate_of_tableStep acceptedToo step, declared, assembled]
    rfl
  | false =>
    have again := KeyTable.report_withHandWritten config chosen undeclared
    have generated : (decl.withHandWritten handWritten).handWritten.keyTable ≠ true := by
      rw [Declaration.withHandWritten, chosen]
      decide
    have step : tableStep (decl.withHandWritten handWritten) config =
        (report.diagnostics, some report.table, some report.table) := by
      unfold tableStep
      rw [if_neg generated, again, stands]
    rw [generate_of_tableStep acceptedToo step, assembled]
    rfl

/-- The outcome without the members that are written by hand, and without what was reported while
they were generated: about keys for the key table, about defaults for the decode routine. -/
def Outcome.omitting (outcome : Outcome) (handWritten : HandWritten) : Outcome :=
  { outcome with
    artifacts :=
      { keyTable := if handWritten.keyTable then none else outcome.artifacts.keyTable
        decode := if handWritten.decode then none else outcome.artifacts.decode
        encode := if handWritten.encode then none else outcome.artifacts.encode }
    diagnostics :=
      (if handWritten.keyTable then [] else outcome.diagnostics.filter (·.code != "E009")) ++
        if handWritten.decode then [] else outcome.diagnostics.filter (·.code == "E009") }

/-- Where a run without anything written by hand ends in `done`, a run with any members written by
hand does too, and its outcome is the other one without these members. What is taken away with the
key table is all that was reported while the table was generated. -/
theorem generate_withHandWritten {decl : Declaration} {config : Configuration}
    (done : (generate (decl.withHandWritten .nothing) config).state = .done)
    (handWritten : HandWritten) :
    (generate (decl.withHandWritten handWritten) config).state = .done ∧
    generate (decl.withHandWritten handWritten) config =
      (generate (decl.withHandWritten .nothing) config).omitting handWritten ∧
    ∃ report, KeyTable.generate (decl.withHandWritten .nothing) config = .ok report ∧
      (generate (decl.withHandWritten .nothing) config).artifacts.keyTable = some report.table ∧
      (generate (decl.withHandWritten .nothing) config).artifacts.decode.isSome = true ∧
      (generate (decl.withHandWritten .nothing) config).artifacts.encode.isSome = true ∧
      (generate (decl.withHandWritten .nothing) config).diagnostics.filter (·.code != "E009") =
        report.diagnostics := by
  obtain ⟨accepted, report, stands, whole⟩ := generate_of_done_of_nothing rfl done
  have run := generate_withHandWritten_of_report rfl accepted stands handWritten
  have parts := partition_diagnostics (fun d => KeyTable.isNaming_of_generate stands)
    fun d => Assembly.cause_of_mem_build (KeyTable.fields_of_generate stands)
  have again : (decl.withHandWritten .nothing).withHandWritten handWritten =
    decl.withHandWritten handWritten := rfl
  rw [again] at run
  refine ⟨by rw [run], ?_, report, stands, by rw [whole], ?_, ?_, by rw [whole, parts.1]⟩
  · rw [run, whole]
    unfold Outcome.omitting
    rw [parts.1, parts.2]
  · rw [whole, Assembly.isSome_decode_build]
    rfl
  · rw [whole, Assembly.isSome_encode_build]
    rfl

/-- With a declared key table and its own encode routine, a field of every kind is still read as
before, and the two defaults that lack a value are still reported. -/
theorem generate_withHandWritten_assorted :
    (generate (Declaration.assorted.withHandWritten .nothing) .standard).state = .done ∧
    generate (Declaration.assorted.withHandWritten ⟨true, false, true⟩) .standard =
      (generate (Declaration.assorted.withHandWritten .nothing) .standard).omitting
        ⟨true, false, true⟩ ∧
    (generate (Declaration.assorted.withHandWritten ⟨true, false, true⟩) .standard).diagnostics.map
      (·.code) = ["E009", "E009"] := by
  have done : (generate (Declaration.assorted.withHandWritten .nothing) .standard).state = .done :=
    by decide
  exact ⟨done, (generate_withHandWritten done ⟨true, false, true⟩).2.1, by decide⟩

end RecordCoding
