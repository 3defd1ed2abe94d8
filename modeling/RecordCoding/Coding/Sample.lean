import RecordCoding.Coding.Record

/-!
# Sample records

Record types that between them use every plan and every way of choosing keys. Each is given by its
declaration; its routines are generated like those of any other type. Later samples may have
fields of earlier ones.
-/

namespace RecordCoding

/-- The declared form of a type. -/
def NameType.declared : NameType → FieldType
  | text => .scalar "String"
  | character => .scalar "char"
  | boolean => .scalar "bool"
  | integer type => .scalar type.name

/-- The declared form of a type. -/
def DataType.declared : DataType → FieldType
  | boolean => .scalar "bool"
  | integer type => .scalar type.name
  | float => .scalar "f64"
  | character => .scalar "char"
  | text => .scalar "String"
  | unit => .scalar "()"
  | any => .scalar "Value"
  | optional inner => .optional inner.declared
  | sequence element => .array element.declared
  | set element => .set "BTreeSet" element.declared
  | map name value => .map "BTreeMap" name.declared value.declared
  | pair first second => .scalar ("(" ++ first.declared.text ++ ", " ++ second.declared.text ++ ")")
  | fixed length element => .scalar ("[" ++ element.declared.text ++ "; " ++ toString length ++ "]")
  | lossless => .wrapper "LosslessValue" (.scalar "String")
  | record name => .scalar name

/-- A field of a sample. -/
structure SampleField where
  name : String
  type : DataType
  directives : List Directive
  isComputed : Bool
  fallback : Datum

namespace SampleField

/-- A field that is read and written. -/
def stored (name : String) (type : DataType) (directives : List Directive) : SampleField :=
  ⟨name, type, directives, false, .unit⟩

/-- A field with a default expression and its value. -/
def defaulted (name : String) (type : DataType) (expression : String) (value : Datum)
    (directives : List Directive) : SampleField :=
  ⟨name, type, .default (some expression) :: directives, false, value⟩

/-- A field that is not part of the wire format. -/
def computed (name : String) (type : DataType) : SampleField := ⟨name, type, [], true, .unit⟩

end SampleField

/-- A sample record type. -/
structure Sample where
  name : String
  directives : List Directive
  fields : List SampleField
  /-- The keys of a type that declares its own table. -/
  ownKeys : Option (List KeyEntry)
  /-- What a hand-written reader checks, with its complaint. -/
  check : Record → Option String

namespace Sample

/-- A sample whose routines are all generated. -/
def generated (name : String) (directives : List Directive) (fields : List SampleField) : Sample :=
  ⟨name, directives, fields, none, fun _ => none⟩

/-- The declaration of a sample. -/
def declaration (sample : Sample) : Declaration where
  name := sample.name
  shape := if sample.fields.isEmpty then .unit else .record
  derives := true
  directives := sample.directives
  fields := sample.fields.map fun field =>
    ⟨field.name, field.type.declared, none, field.isComputed, field.directives⟩
  handWritten := ⟨sample.ownKeys.isSome, false, false⟩

/-- The format of a sample, if its generation succeeds. -/
def format? (sample : Sample) (records : String → Codec) : Option RecordFormat := do
  let outcome := generate sample.declaration .standard
  let keys ← outcome.artifacts.keyTable.or
    (sample.ownKeys.map fun entries => ⟨outcome.keyTableName, entries⟩)
  some
    { fields := sample.fields.map fun field =>
        ⟨field.name, field.isComputed, field.type.format records, field.fallback⟩
      keys := keys
      decode := ← outcome.artifacts.decode
      encode := ← outcome.artifacts.encode }

/-- The codec of a sample, with its check after the read. -/
def codec? (sample : Sample) (records : String → Codec) : Option RecordCodec := do
  let codec := RecordCodec.ofFormat (← sample.format? records)
  some { codec with
    read := fun document => do
      let record ← codec.read document
      match sample.check record with
      | some complaint => .error (.custom complaint)
      | none => .ok record }

/-- A person's settings. -/
def profile : Sample := .generated "Profile" [.caseStyle .camel]
  [.stored "user_name" .text [],
    .stored "avatar_url" (.optional .text) [.rename "avatar"],
    .defaulted "age" (.integer .u32) "18" (.integer 18) [],
    .defaulted "locale" .text "\"en\"" (.text "en") []]

/-- Collections that drop nulls. -/
def readings : Sample := .generated "Readings" []
  [.stored "values" (.sequence (.integer .i32)) [.skipNull],
    .stored "tags" (.set .text) [.skipNull],
    .stored "limits" (.map .text (.integer .i32)) [.skipNull],
    .stored "extra" (.optional (.sequence (.integer .i32))) [.skipNull],
    .stored "marks" (.optional (.set (.integer .u8))) [.skipNull],
    .stored "ratios" (.optional (.map (.integer .u32) .float)) [.skipNull]]

/-- Lossless identifiers. -/
def account : Sample := .generated "Account" []
  [.stored "id" .text [.lossless],
    .stored "external_id" (.optional .text) [.lossless],
    .stored "code" .lossless []]

/-- Keys with prefixes and suffixes. -/
def headers : Sample := .generated "Headers" [.caseStyle .kebab, .keyPrefix "x-"]
  [.stored "request_id" .text [],
    .stored "content_type" .text [.keyPrefix "h-"],
    .stored "timeout" (.integer .u64) [.keySuffix "-ms"]]

/-- A field that is not read, and one named like a keyword. -/
def session : Sample := .generated "Session" []
  [.stored "token" .text [],
    .computed "cache" (.sequence (.integer .u8)),
    .stored "type" .text []]

/-- A single field. -/
def member : Sample := .generated "Member" [] [.stored "name" .text []]

/-- Fields that are records themselves. -/
def team : Sample := .generated "Team" [.caseStyle .pascal]
  [.stored "lead" (.record "Member") [],
    .stored "members" (.sequence (.record "Member")) [],
    .stored "backup" (.optional (.record "Member")) []]

/-- A page of items of a type. -/
def page (name : String) (item : DataType) : Sample := .generated name []
  [.stored "items" (.sequence item) [], .stored "total" (.integer .u32) []]

/-- Keys declared by hand. -/
def point : Sample :=
  { Sample.generated "Point" []
      [.stored "x" (.integer .i32) [], .stored "y" (.integer .i32) []] with
    ownKeys := some [⟨"x", "X"⟩, ⟨"y", "Y"⟩] }

/-- The complaint about a temperature that cannot be. -/
def belowZero (record : Record) : Option String :=
  match record.lookup "degrees" with
  | some (.integer degrees) =>
    if degrees < -273 then some (toString degrees ++ " is below absolute zero") else none
  | _ => none

/-- A reader written by hand. -/
def temperature : Sample :=
  { Sample.generated "Temperature" [] [.stored "degrees" (.integer .i64) []] with
    check := belowZero }

/-- A record that is written to other formats in a way of its own. -/
def plain : Sample := .generated "Plain" [] [.stored "value" (.integer .u8) []]

/-- No fields at all. -/
def marker : Sample := .generated "Marker" [] []

/-- Default expressions of every kind. -/
def settings : Sample := .generated "Settings" [.keySuffix "_"]
  [.defaulted "tags" (.sequence .text) "Vec :: new ()" (.list []) [],
    .defaulted "retries" (.integer .i64) "1 + 2" (.integer 3) [],
    .defaulted "limit" (.optional (.integer .u32)) "10" (.integer 10) [],
    .defaulted "label" (.optional .text) "\"none\"" (.text "none") [],
    .defaulted "offset" (.integer .i8) "- 1" (.integer (-1)) [.skipNull],
    .defaulted "sep" .character "'x'" (.character 'x') [],
    .defaulted "enabled" .boolean "true" (.boolean true) [.rename "on"],
    .defaulted "ratio" .float "0.5" (.float (.ofRatio false 1 2)) []]

/-- Fields that share a key. -/
def clash : Sample := .generated "Clash" []
  [.stored "first" (.integer .i32) [.rename "k"],
    .stored "second" (.integer .i32) [.rename "k"],
    .defaulted "third" (.optional (.integer .i32)) "7" (.integer 7) [.rename "k"]]

/-- Keys beyond ASCII. -/
def unicode : Sample := .generated "Unicode" [.caseStyle .screamingKebab]
  [.stored "straße" .text [],
    .stored "élanVital" (.optional .text) [],
    .stored "key" (.optional .text) [.rename "键 \"k\" \\ 😀"]]

/-- Scalars of many types. -/
def numbers : Sample := .generated "Numbers" []
  [.stored "a" (.integer .u8) [],
    .stored "b" (.integer .i8) [],
    .stored "c" (.integer .u64) [],
    .stored "d" (.integer .i64) [],
    .stored "e" .float [],
    .stored "f" .character [],
    .stored "g" (.optional (.optional (.integer .i16))) [],
    .stored "h" (.pair (.integer .u8) .boolean) [],
    .stored "i" .unit [],
    .computed "j" (.integer .u8)]

/-- Every sample, those that are used by others first. -/
def all : List Sample :=
  [profile, readings, account, headers, session, member, team, page "Page<i32>" (.integer .i32),
    page "Page<Member>" (.record "Member"), page "Page<bool>" .boolean,
    page "Page<Page<bool>>" (.record "Page<bool>"), point, temperature, plain, marker, settings,
    clash, unicode, numbers]

/-- The codec of a record that is known by name. -/
def knownCodec (known : List (String × RecordCodec)) (name : String) : Codec :=
  ((known.lookup name).map RecordCodec.asCodec).getD .unit

/-- The codecs of all samples by their names. -/
def codecs : List (String × RecordCodec) :=
  all.foldl (fun known sample =>
    match sample.codec? (knownCodec known) with
    | some codec => known ++ [(sample.name, codec)]
    | none => known) []

/-- Reads a plain record from the text of a bare number. -/
def readPlain (text : String) : Except ReadError Record := do
  let bytes := Json.textBytes text
  let (value, rest) ← readInteger .u8 bytes
  match Json.ByteReader.finish rest with
  | .ok _ => .ok [("value", .integer value)]
  | .error failure => .error (.locatedAt (.malformed failure.fault) (failure.position bytes))

/-- Plain records are written by their name. -/
def writePlain : Json := .text "plain"

end Sample

end RecordCoding
