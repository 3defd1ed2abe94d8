import RecordCoding.Proofs.Coding.ReaderAgreement

/-!
# Records inside records

A record stands inside another one by means of the bridge: its document is handed to the routines
of its own type, and what they complain about is passed on as a text. One level of nesting turns an
error of the inner type into an error about the member that holds the record; following the members
down from the outermost document, the keys gather in front of the innermost error.
-/

namespace RecordCoding

/-- If errors are passed on by their words, the same words are heard on both sides. -/
theorem exists_mapError_iff {α ε δ : Type} {x : Except ε α} {pass : ε → δ} {before : ε → String}
    {behind : δ → String} (same : ∀ error, behind (pass error) = before error) (text : String) :
    (∃ error, x.mapError pass = .error error ∧ behind error = text) ↔
      ∃ error, x = .error error ∧ before error = text := by
  constructor
  · rintro ⟨error, failed, words⟩
    obtain ⟨original, fails, rfl⟩ := mapError_eq_error_iff.mp failed
    exact ⟨original, fails, (same original).symm.trans words⟩
  · rintro ⟨error, failed, words⟩
    exact ⟨pass error, mapError_eq_error_iff.mpr ⟨error, failed, rfl⟩, (same error).trans words⟩

namespace RecordCodec

/-- Reading through the bridge: the value is taken as it is, and handed to the routine. -/
def deserialize (codec : RecordCodec) : Reader Record := fun document => do
  let value ← Reader.any document
  (codec.read value).mapError fun error => .of (.other error.message)

/-- Writing through the bridge: what the routine writes is a value, which is written as it is. -/
def serialize (codec : RecordCodec) (record : Record) : Written := do
  let value ← (codec.write record).mapError fun error => WriteError.other error.message
  Codec.any.write (.json value)

/-- Nothing happens to a document on its way to the routine. -/
theorem deserialize_eq (codec : RecordCodec) (document : Json) :
    codec.deserialize document =
      (codec.read document).mapError fun error => .of (.other error.message) := rfl

/-- Nor to a document on its way back. -/
theorem serialize_eq (codec : RecordCodec) (record : Record) :
    codec.serialize record =
      (codec.write record).mapError fun error => .other error.message := by
  unfold serialize
  cases codec.write record <;> rfl

/-- Records as values of fields are read and written through the bridge. -/
theorem asCodec_eq (codec : RecordCodec) :
    codec.asCodec.read = (fun document => .record <$> codec.deserialize document) ∧
    ∀ record, codec.asCodec.write (.record record) = codec.serialize record :=
  ⟨rfl, fun record => (codec.serialize_eq record).symm⟩

/-- The bridge and the routines of a type agree: on results, and on the words for errors. -/
structure BridgeAgrees (codec : RecordCodec) : Prop where
  read : ∀ document record,
    codec.deserialize document = .ok record ↔ codec.read document = .ok record
  refused : ∀ document text,
    (∃ error, codec.deserialize document = .error error ∧ error.message = text) ↔
      ∃ error, codec.read document = .error error ∧ error.message = text
  write : ∀ record document,
    codec.serialize record = .ok document ↔ codec.write record = .ok document
  unwritable : ∀ record text,
    (∃ error, codec.serialize record = .error error ∧ error.message = text) ↔
      ∃ error, codec.write record = .error error ∧ error.message = text

/-- They agree for every type, however its routines came about. -/
theorem bridgeAgrees (codec : RecordCodec) : codec.BridgeAgrees where
  read document record := by rw [deserialize_eq, mapError_eq_ok_iff]
  refused document text := by
    rw [deserialize_eq]
    exact exists_mapError_iff (fun error : CodingError => ReadError.message_of (.other error.message)) text
  write record document := by rw [serialize_eq, mapError_eq_ok_iff]
  unwritable record text := by
    rw [serialize_eq]
    exact exists_mapError_iff (fun _ => rfl) text

end RecordCodec

namespace CodingError

/-- An error under keys, the outermost first: each key is put in front of the words for what was
found under it. -/
def under : List String → CodingError → CodingError
  | [], error => error
  | key :: keys, error => .typeMismatch key (under keys error).message

/-- What is put in front of the words for an error under a key. -/
def heading (key : String) : String := "type mismatch for key `" ++ key ++ "`: "

/-- The words for a mismatch begin with the key. -/
theorem message_typeMismatch (key detail : String) :
    (typeMismatch key detail).message = heading key ++ detail := rfl

/-- The words for an error under keys name the keys, outermost first, and end in the words for the
error. -/
theorem message_under (keys : List String) (error : CodingError) :
    (under keys error).message = String.join (keys.map heading) ++ error.message := by
  induction keys with
  | nil => exact (String.empty_append ..).symm
  | cons key keys ih =>
    rw [under, message_typeMismatch, ih, List.map_cons, String.join_cons, String.append_assoc]

/-- An error under keys is about the outermost of them. -/
theorem key?_under (keys : List String) (error : CodingError) :
    (under keys error).key? = keys.head?.or error.key? := by
  cases keys <;> rfl

end CodingError

/-- The value inside a value that is found by going through the fields with the given names. -/
def Datum.inside? : Datum → List String → Option Datum
  | value, [] => some value
  | .record fields, name :: names => (fields.lookup name).bind (·.inside? names)
  | _, _ :: _ => none

namespace Container

/-- What the bridge is refused for is what the routine is refused for, under the key. -/
theorem mapError_mismatch_asCodec (codec : RecordCodec) (key : String) (document : Json) :
    (codec.asCodec.read document).mapError (mismatch key) =
      .record <$> (codec.read document).mapError fun error =>
        .typeMismatch key error.message := by
  rw [codec.asCodec_eq.1]
  dsimp only
  rw [codec.deserialize_eq]
  cases codec.read document with
  | ok record => rfl
  | error error =>
    change Except.error (mismatch key (ReadError.of (.other error.message))) = _
    rw [mismatch, ReadError.message_of]
    rfl

/-- What becomes of a member that holds a record: it is missing, or its value is, or it is read by
the routine of its type and an error names the key. -/
theorem decode_record (container : Container) (format : RecordFormat) (key : String) :
    container.decode (RecordCodec.ofFormat format).asCodec.read key =
      match container.member? key with
      | none => .error (.keyNotFound key)
      | some .null => .error (.valueNotFound key)
      | some document => .record <$> (format.read document).mapError fun error =>
          .typeMismatch key error.message := by
  cases here : container.member? key with
  | none => exact decode_of_absent _ here
  | some document =>
    cases document with
    | null =>
      rw [decode_of_null _ here]
      rfl
    | _ =>
      rw [decode_of_present _ here nofun, mapError_mismatch_asCodec]
      rfl

end Container

namespace RecordFormat

variable {format inner target : RecordFormat} {members : List (String × Json)}
  {document reached : Json} {path : List KeyEntry}

/-- A field that holds a record of another type and has to be there is next to be read in an
object: all fields before it could be read. -/
structure Awaits (format : RecordFormat) (members : List (String × Json)) (field : RecordField)
    (inner : RecordFormat) : Prop where
  names : (format.fields.map (·.name)).Nodup
  plan : format.plan? field = some .direct
  bridged : field.format.whole = (RecordCodec.ofFormat inner).asCodec
  earlier : ∃ before after, format.fields = before ++ field :: after ∧
    ∀ other ∈ before, ∃ entry, format.readField ⟨members⟩ other = .ok entry

/-- Going through required fields that hold records, from a document of one type to the value that
is reached, and its type. The path gives the fields with their keys. -/
inductive Reaches : RecordFormat → Json → List KeyEntry → RecordFormat → Json → Prop
  | here (format : RecordFormat) (document : Json) : Reaches format document [] format document
  | into {format inner target : RecordFormat} {members : List (String × Json)}
      {field : RecordField} {member reached : Json} {path : List KeyEntry}
      (awaits : format.Awaits members field inner)
      (found : Json.member? members (format.key field.name) = some member)
      (rest : Reaches inner member path target reached) :
      Reaches format (.object members) (⟨field.name, format.key field.name⟩ :: path) target reached

namespace Awaits

variable {field : RecordField}

/-- The field is one of the type. -/
theorem mem_fields (awaits : format.Awaits members field inner) : field ∈ format.fields := by
  obtain ⟨before, after, split, -⟩ := awaits.earlier
  rw [split]
  exact List.mem_append_right before List.mem_cons_self

/-- The field is read like a member that holds a record. -/
theorem readField_eq (awaits : format.Awaits members field inner) :
    format.readField ⟨members⟩ field = (field.name, ·) <$>
      match Json.member? members (format.key field.name) with
      | none => .error (.keyNotFound (format.key field.name))
      | some .null => .error (.valueNotFound (format.key field.name))
      | some document => .record <$> (inner.read document).mapError fun error =>
          .typeMismatch (format.key field.name) error.message := by
  rw [readField, awaits.plan]
  dsimp only
  rw [readPlanned, awaits.bridged, Container.decode_record]
  rfl

/-- If the field is refused, so is the object, for the same reason. -/
theorem read_eq_error (awaits : format.Awaits members field inner) {error : CodingError}
    (failed : format.readField ⟨members⟩ field = .error error) :
    format.read (.object members) = .error error := by
  obtain ⟨before, after, split, fine⟩ := awaits.earlier
  exact mapM_eq_error_iff.mpr ⟨before, field, after, split, fine, failed⟩

/-- A field without a member is missing. -/
theorem read_of_absent (awaits : format.Awaits members field inner)
    (absent : Json.member? members (format.key field.name) = none) :
    format.read (.object members) = .error (.keyNotFound (format.key field.name)) := by
  apply awaits.read_eq_error
  rw [awaits.readField_eq, absent]
  rfl

/-- A field whose member is null lacks its value. -/
theorem read_of_null (awaits : format.Awaits members field inner)
    (null : Json.member? members (format.key field.name) = some .null) :
    format.read (.object members) = .error (.valueNotFound (format.key field.name)) := by
  apply awaits.read_eq_error
  rw [awaits.readField_eq, null]
  rfl

/-- Any other member is read by the routine of its type. -/
theorem readField_of_member (awaits : format.Awaits members field inner) {member : Json}
    (found : Json.member? members (format.key field.name) = some member)
    (present : member ≠ .null) :
    format.readField ⟨members⟩ field = (fun record => (field.name, .record record)) <$>
      (inner.read member).mapError fun error =>
        .typeMismatch (format.key field.name) error.message := by
  rw [awaits.readField_eq, found]
  cases member with
  | null => exact absurd rfl present
  | _ =>
    dsimp only
    cases inner.read _ <;> rfl

/-- What it is refused for is put under the key. -/
theorem read_of_member (awaits : format.Awaits members field inner) {member : Json}
    (found : Json.member? members (format.key field.name) = some member)
    (present : member ≠ .null) {error : CodingError} (failed : inner.read member = .error error) :
    format.read (.object members) =
      .error (.typeMismatch (format.key field.name) error.message) := by
  apply awaits.read_eq_error
  rw [awaits.readField_of_member found present, failed]
  rfl

end Awaits

namespace Reaches

/-- Nothing is reached from null but null itself. -/
theorem eq_null (reaches : Reaches format .null path target reached) : reached = .null := by
  cases reaches
  rfl

/-- What the value that is reached is refused for is what the outermost document is refused for,
under the keys of the path. -/
theorem read_eq_error (reaches : Reaches format document path target reached)
    (present : path = [] ∨ reached ≠ .null) {error : CodingError}
    (failed : target.read reached = .error error) :
    format.read document = .error (.under (path.map (·.key)) error) := by
  induction reaches with
  | here => exact failed
  | @into format inner target members field member reached path awaits found rest ih =>
    have there : reached ≠ .null := present.resolve_left (List.cons_ne_nil _ _)
    have full : member ≠ .null := by
      rintro rfl
      exact there rest.eq_null
    exact awaits.read_of_member found full (ih (.inr there) failed)

/-- If the outermost document is read, so is the value that is reached, and the record is found
where the path leads. -/
theorem exists_of_read (reaches : Reaches format document path target reached) {record : Record}
    (read : format.read document = .ok record) :
    ∃ inside, target.read reached = .ok inside ∧
      (Datum.record record).inside? (path.map (·.field)) = some (.record inside) := by
  induction reaches generalizing record with
  | here => exact ⟨record, read, by simp [Datum.inside?]⟩
  | @into format inner target members field member reached path awaits found rest ih =>
    obtain ⟨value, rfl, each⟩ := exists_values_of_read read
    have held := each field awaits.mem_fields
    have full : member ≠ .null := by
      rintro rfl
      rw [awaits.read_of_null found] at read
      cases read
    rw [awaits.readField_of_member found full, map_eq_ok_iff] at held
    obtain ⟨below, fine, same⟩ := held
    obtain ⟨inside, reads, at_⟩ := ih (mapError_eq_ok_iff.mp fine)
    refine ⟨inside, reads, ?_⟩
    rw [List.map_cons, Datum.inside?, lookup_map_pair awaits.names awaits.mem_fields,
      ← (Prod.mk.inj same).2]
    exact at_

end Reaches

/-- Records of a type inside other records, at every depth. -/
structure Nests (format : RecordFormat) : Prop where
  /-- The bridge agrees with the routines. -/
  bridge : (RecordCodec.ofFormat format).BridgeAgrees
  /-- As the value of a required member, a record is missing, or is null, or is read like a document
  of its own, an error naming the key and then what the document is refused for. -/
  member : ∀ (container : Container) (key : String),
    container.decode (RecordCodec.ofFormat format).asCodec.read key =
      match container.member? key with
      | none => .error (.keyNotFound key)
      | some .null => .error (.valueNotFound key)
      | some document => .record <$> (format.read document).mapError fun error =>
          .typeMismatch key error.message
  /-- Whatever is inside a record was read by the routine of its own type. -/
  accepted : ∀ document path target reached record, format.Reaches document path target reached →
    format.read document = .ok record → ∃ inside, target.read reached = .ok inside ∧
      (Datum.record record).inside? (path.map (·.field)) = some (.record inside)
  /-- An error inside is reported with all keys, outermost first, and ends in its own words. -/
  refused : ∀ document path target reached error, format.Reaches document path target reached →
    path = [] ∨ reached ≠ .null → target.read reached = .error error →
    ∃ outer, format.read document = .error outer ∧
      outer = .under (path.map (·.key)) error ∧
      outer.message = String.join (path.map (CodingError.heading ·.key)) ++ error.message ∧
      outer.key? = (path.head?.map (·.key)).or error.key?
  /-- A null on the way is a missing value where it is met. -/
  null : ∀ document path target members field inner,
    format.Reaches document path target (.object members) → target.Awaits members field inner →
    Json.member? members (target.key field.name) = some .null →
    format.read document =
      .error (.under (path.map (·.key)) (.valueNotFound (target.key field.name)))
  /-- A member that is not there is missing where it was looked for. -/
  absent : ∀ document path target members field inner,
    format.Reaches document path target (.object members) → target.Awaits members field inner →
    Json.member? members (target.key field.name) = none →
    format.read document =
      .error (.under (path.map (·.key)) (.keyNotFound (target.key field.name)))

/-- Records of every type are nested in this way. -/
theorem nests (format : RecordFormat) : format.Nests where
  bridge := RecordCodec.bridgeAgrees _
  member container key := container.decode_record format key
  accepted _ _ _ _ _ reaches read := reaches.exists_of_read read
  refused _ path _ _ error reaches present failed := by
    refine ⟨_, reaches.read_eq_error present failed, rfl, ?_, ?_⟩
    · rw [CodingError.message_under, List.map_map]
      rfl
    · rw [CodingError.key?_under, List.head?_map]
  null _ _ _ _ _ _ reaches awaits null :=
    reaches.read_eq_error (.inr nofun) (awaits.read_of_null null)
  absent _ _ _ _ _ _ reaches awaits absent :=
    reaches.read_eq_error (.inr nofun) (awaits.read_of_absent absent)

/-- A stored field that is declared with a record type and is to be read as it is waits for its
record as soon as the fields before it are read. -/
theorem Declares.awaits {decl : Declaration} {config : Configuration}
    (declares : format.Declares decl)
    (decodes : (generate decl config).artifacts.decode = some format.decode) {field : RecordField}
    {declared : Field} (same : field.Declares declared) (stored : declared ∈ decl.storedFields)
    (planned : declared.readPlan = .ok .direct)
    (bridged : field.format.whole = (RecordCodec.ofFormat inner).asCodec)
    {before after : List RecordField} (split : format.fields = before ++ field :: after)
    (fine : ∀ other ∈ before, ∃ entry, format.readField ⟨members⟩ other = .ok entry) :
    format.Awaits members field inner where
  names := declares.nodup_names
  plan := by
    rw [declares.plan?_eq decodes same stored, planned]
    rfl
  bridged := bridged
  earlier := ⟨before, after, split, fine⟩

end RecordFormat

/-- Crews have a captain behind a field of another type. -/
def Sample.crew : Sample := .generated "Crew" [.caseStyle .pascal]
  [.stored "size" (.integer .u8) [], .stored "captain" (.record "Member") [.keySuffix "!"]]

/-- Crews have a format. -/
theorem Sample.isSome_crew : (Sample.crew.format? RecordCodec.membersOnly).isSome = true := rfl

/-- The format of crews. -/
def RecordFormat.crew : RecordFormat :=
  (Sample.crew.format? RecordCodec.membersOnly).get Sample.isSome_crew

/-- Ships have a crew. -/
def Sample.ship : Sample := .generated "Ship" [] [.stored "crew" (.record "Crew") []]

/-- Ships have a format. -/
theorem Sample.isSome_ship :
    (Sample.ship.format? fun _ => (RecordCodec.ofFormat .crew).asCodec).isSome = true := rfl

/-- The format of ships. -/
def RecordFormat.ship : RecordFormat :=
  (Sample.ship.format? fun _ => (RecordCodec.ofFormat .crew).asCodec).get Sample.isSome_ship

namespace RecordFormat

/-- In a ship, the crew is what is next to be read. -/
theorem awaits_ship (members : List (String × Json)) :
    ∃ field, ship.key field.name = "crew" ∧ ship.Awaits members field crew := by
  have made := (Option.some_get Sample.isSome_ship).symm
  have generated := Sample.generated_of_format? made (by decide) (by decide)
  have split : ship.fields = [] ++ _ :: [] := rfl
  exact ⟨_, rfl, generated.declares.awaits generated.decode ⟨rfl, rfl⟩
    (List.mem_singleton_self _) rfl rfl split nofun⟩

/-- In a crew, the captain is what is next to be read once the size is. -/
theorem awaits_crew (captain : Json) :
    ∃ field, crew.key field.name = "Captain!" ∧
      crew.Awaits [("Captain!", captain), ("Size", .integer 3)] field member := by
  have made := (Option.some_get Sample.isSome_crew).symm
  have generated := Sample.generated_of_format? made (by decide) (by decide)
  have split : crew.fields = [_] ++ _ :: [] := rfl
  refine ⟨_, rfl, generated.declares.awaits generated.decode ⟨rfl, rfl⟩
    (List.mem_cons_of_mem _ (List.mem_singleton_self _)) rfl rfl split ?_⟩
  intro other first
  rw [List.mem_singleton.mp first]
  exact ⟨("size", .integer 3), rfl⟩

/-- A captain without a name, and no captain: the keys on the way stand in front of the error. -/
theorem nests_ship :
    (∃ error, ship.read (.object [("crew", .object [("Captain!", .object [("name", .null)]),
        ("Size", .integer 3)])]) = .error error ∧
      error.message = "type mismatch for key `crew`: type mismatch for key `Captain!`: " ++
        "expected a value for key `name`, found null") ∧
    ship.read (.object [("crew", .object [("Captain!", .null), ("Size", .integer 3)])]) =
      .error (.typeMismatch "crew" "expected a value for key `Captain!`, found null") := by
  constructor
  · obtain ⟨field, key, awaits⟩ := awaits_ship
      [("crew", .object [("Captain!", .object [("name", .null)]), ("Size", .integer 3)])]
    obtain ⟨field', key', awaits'⟩ := awaits_crew (.object [("name", .null)])
    have within := Reaches.into awaits' (by rw [key']; rfl) (.here member (.object [("name", .null)]))
    have reaches := Reaches.into awaits (by rw [key]; rfl) within
    obtain ⟨outer, refused, -, words, -⟩ :=
      (nests ship).refused _ _ _ _ (.valueNotFound "name") reaches (.inr nofun) rfl
    refine ⟨outer, refused, ?_⟩
    rw [words]
    simp only [List.map_cons, List.map_nil, key, key']
    decide
  · obtain ⟨field, key, awaits⟩ := awaits_ship
      [("crew", .object [("Captain!", .null), ("Size", .integer 3)])]
    obtain ⟨field', key', awaits'⟩ := awaits_crew .null
    have reaches := Reaches.into awaits (by rw [key]; rfl) (.here crew _)
    have refused := (nests ship).null _ _ _ _ _ _ reaches awaits' (by rw [key']; rfl)
    simp only [List.map_cons, List.map_nil, key, key'] at refused
    exact refused

end RecordFormat

end RecordCoding
