import RecordCoding.Proofs.Coding.CodecLaws
import RecordCoding.Proofs.Coding.Collections
import RecordCoding.Proofs.Coding.Members

/-!
# Lawful codecs of collections

Collections survive being written if their elements do: each element is written and read on its
own, and arranging what was arranged before changes nothing. Hence the codecs of all types are
lawful if those of records are.
-/

namespace RecordCoding

namespace Codec

section Elements

/-- Every value of a list is written as a document that is read as the same value and has some
property. -/
def AllSurvive (codec : Codec) (property : Json → Prop) (values : List Datum) : Prop :=
  ∀ value ∈ values, ∃ written, codec.Survives value written ∧ property written

variable {element : Codec}

/-- The elements that are read from an array survive. -/
theorem allSurvive_of_mapM (lawful : element.Lawful) {elements : List Json}
    (bounded : ∀ document ∈ elements, document.Representable) {values : List Datum}
    (read : elements.mapM element.read = .ok values) :
    element.AllSurvive (fun _ => True) values := by
  intro value member
  obtain ⟨document, within, found⟩ := exists_of_mem_right (mapM_eq_ok_iff.mp read) member
  obtain ⟨written, survives, -⟩ := lawful document value (bounded document within) found
  exact ⟨written, survives, trivial⟩

/-- The elements that are left when nulls are dropped survive, and not as null. -/
theorem allSurvive_of_compacted (lawful : element.Lawful) {elements : List Json}
    (bounded : ∀ document ∈ elements, document.Representable) {values : List Datum}
    (read : Reader.compacted element.read (.array elements) = .ok values) :
    element.AllSurvive (· ≠ .null) values := by
  obtain ⟨options, found, rfl⟩ := map_eq_ok_iff.mp read
  intro value member
  have listed : some value ∈ options := by simpa using member
  obtain ⟨document, within, reads⟩ := exists_of_mem_right (mapM_eq_ok_iff.mp found) listed
  rcases optional_cases reads with ⟨-, none⟩ | ⟨present, a, inner, same⟩
  · cases none
  · cases same
    obtain ⟨written, survives, null⟩ := lawful document value (bounded document within) inner
    exact ⟨written, survives, fun gone => present (null gone)⟩

/-- Values that survive are written as an array of documents, each of which is read again. -/
theorem AllSurvive.exists_written {property : Json → Prop} {values : List Datum}
    (survive : element.AllSurvive property values) :
    ∃ written, values.mapM element.write = .ok written ∧
      written.mapM element.read = .ok values ∧ ∀ document ∈ written, property document := by
  obtain ⟨written, each⟩ := exists_forall₂ survive
  refine ⟨written, ?_, ?_, ?_⟩
  · exact mapM_eq_ok_iff.mpr (each.imp fun value document kept => kept.1.1)
  · exact mapM_eq_ok_iff.mpr (List.Forall₂.flip (each.imp fun value document kept => kept.1.2))
  · intro document member
    obtain ⟨value, -, kept⟩ := exists_of_mem_right each member
    exact kept.2

/-- Where no element is null, dropping nulls drops nothing. -/
theorem compacted_of_ne_null {elements : List Json}
    (present : ∀ document ∈ elements, document ≠ .null) {values : List Datum}
    (read : elements.mapM element.read = .ok values) :
    Reader.compacted element.read (.array elements) = .ok values := by
  have each : List.Forall₂ (fun document value => Reader.optional element.read document = .ok value)
      elements (values.map some) := by
    have both := (List.forall₂_and_left _ _).mpr ⟨present, mapM_eq_ok_iff.mp read⟩
    refine List.forall₂_map_right_iff.mpr (both.imp ?_)
    rintro document value ⟨here, found⟩
    rw [optional_of_ne_null here, found]
    rfl
  refine map_eq_ok_iff.mpr ⟨values.map some, mapM_eq_ok_iff.mpr each, ?_⟩
  simp

/-- A collection is lawful if its elements survive with some property, arrays of documents with
that property are read element by element, and what was arranged once stays so. -/
theorem lawful_listBy {arrange : List Datum → List Datum} {reader : Reader (List Datum)}
    (property : Json → Prop) (subset : ∀ values, arrange values ⊆ values)
    (stable : ∀ values, arrange (arrange values) = arrange values)
    (survive : ∀ document values, document.Representable → reader document = .ok values →
      element.AllSurvive property values)
    (again : ∀ document values, reader document = .ok values → ∀ written : List Json,
      (∀ document ∈ written, property document) →
      written.mapM element.read = .ok (arrange values) →
      reader (.array written) = .ok (arrange values)) :
    (listBy arrange reader element).Lawful := by
  intro document value bounded read
  obtain ⟨values, found, rfl⟩ := map_eq_ok_iff.mp read
  have kept : element.AllSurvive property (arrange values) :=
    fun value member => survive document values bounded found value (subset values member)
  obtain ⟨written, write, back, holds⟩ := kept.exists_written
  refine ⟨.array written, ⟨?_, ?_⟩, by simp⟩
  · exact map_eq_ok_iff.mpr ⟨written, write, rfl⟩
  · refine map_eq_ok_iff.mpr ⟨arrange values, again _ values found written holds back, ?_⟩
    rw [stable]

/-- The elements that are read from a sequence survive. -/
theorem allSurvive_of_sequence (lawful : element.Lawful) {document : Json} {values : List Datum}
    (bounded : document.Representable)
    (read : Reader.sequence element.read document = .ok values) :
    element.AllSurvive (fun _ => True) values := by
  cases bounded with
  | array within => exact allSurvive_of_mapM lawful within read
  | _ => cases read

theorem lawful_sequence (lawful : element.Lawful) : (sequence element).Lawful :=
  lawful_listBy (fun _ => True) (fun _ => List.Subset.refl _) (fun _ => rfl)
    (fun _ _ => allSurvive_of_sequence lawful) (fun _ _ _ _ _ back => back)

theorem lawful_set (lawful : element.Lawful) : (set element).Lawful :=
  lawful_listBy (fun _ => True) (fun _ _ => ValueOrder.mem_setOf_iff.mp) ValueOrder.setOf_setOf
    (fun _ _ => allSurvive_of_sequence lawful) (fun _ _ _ _ _ back => back)

/-- Collections that drop nulls are lawful. -/
theorem lawful_compacted {arrange : List Datum → List Datum} (lawful : element.Lawful)
    (subset : ∀ values, arrange values ⊆ values)
    (stable : ∀ values, arrange (arrange values) = arrange values) :
    (listBy arrange (Reader.compacted element.read) element).Lawful := by
  refine lawful_listBy (· ≠ .null) subset stable ?_ ?_
  · intro document values bounded read
    cases bounded with
    | array within => exact allSurvive_of_compacted lawful within read
    | _ => cases read
  · intro _ _ _ written present back
    exact compacted_of_ne_null present back

/-- An array of fixed length has that many elements, all of which are read. -/
theorem fixed_eq_ok {length : Nat} {reader : Reader Datum} {document : Json} {values : List Datum}
    (read : Reader.fixed length reader document = .ok values) :
    ∃ elements, document = .array elements ∧ elements.length = length ∧
      elements.mapM reader = .ok values := by
  cases document with
  | array elements =>
    obtain ⟨found, taken, checked⟩ := bind_eq_ok_iff.mp read
    split at checked
    · cases checked
    · split at checked
      · cases checked
      · cases checked
        have exact : elements.length = length := by omega
        rw [List.take_of_length_le (by omega)] at taken
        exact ⟨elements, rfl, exact, taken⟩
  | _ => cases read

theorem lawful_fixed (length : Nat) (lawful : element.Lawful) : (fixed length element).Lawful := by
  refine lawful_listBy (fun _ => True) (fun _ => List.Subset.refl _) (fun _ => rfl) ?_ ?_
  · intro document values bounded read
    obtain ⟨elements, rfl, -, each⟩ := fixed_eq_ok read
    cases bounded with
    | array within => exact allSurvive_of_mapM lawful within each
  · intro document values read written _ back
    obtain ⟨elements, rfl, size, each⟩ := fixed_eq_ok read
    have same : written.length = length := by
      have count := (mapM_eq_ok_iff.mp back).length_eq
      have before := (mapM_eq_ok_iff.mp each).length_eq
      exact count.trans (before.symm.trans size)
    refine bind_eq_ok_iff.mpr ⟨values, ?_, ?_⟩
    · rw [List.take_of_length_le (by omega)]
      exact back
    · rw [if_neg (by omega), if_neg (by omega)]
      rfl

/-- A pair is an array of two elements, both of which are read. -/
theorem pair_eq_ok {first second : Reader Datum} {document : Json} {values : Datum × Datum}
    (read : Reader.pair first second document = .ok values) :
    ∃ x y, document = .array [x, y] ∧ first x = .ok values.1 ∧ second y = .ok values.2 := by
  cases document with
  | array elements =>
    match elements with
    | [] => cases read
    | [x] =>
      obtain ⟨_, -, short⟩ := bind_eq_ok_iff.mp read
      cases short
    | [x, y] =>
      obtain ⟨_, left, rest⟩ := bind_eq_ok_iff.mp read
      obtain ⟨_, right, same⟩ := bind_eq_ok_iff.mp rest
      cases same
      exact ⟨x, y, rfl, left, right⟩
    | x :: y :: z :: more =>
      obtain ⟨_, -, rest⟩ := bind_eq_ok_iff.mp read
      obtain ⟨_, -, surplus⟩ := bind_eq_ok_iff.mp rest
      cases surplus
  | _ => cases read

theorem lawful_pair {first second : Codec} (lawful : first.Lawful) (lawfulToo : second.Lawful) :
    (pair first second).Lawful := by
  refine lawful_of_map rfl ?_
  rintro document ⟨a, b⟩ bounded read
  obtain ⟨x, y, rfl, left, right⟩ := pair_eq_ok read
  cases bounded with
  | array within =>
    obtain ⟨v, ⟨writeFirst, backFirst⟩, -⟩ := lawful x a (within x (by simp)) left
    obtain ⟨w, ⟨writeSecond, backSecond⟩, -⟩ := lawfulToo y b (within y (by simp)) right
    refine ⟨.array [v, w], ?_, ?_, by simp⟩
    · simp only [pair, writeFirst, writeSecond]
      rfl
    · simp only [Reader.pair, backFirst, backSecond]
      rfl

end Elements

section Entries

/-- An entry is written as a member that is read as the same entry. -/
structure EntrySurvives (name : NameCodec) (value : Codec) (pair : Datum × Datum)
    (entry : String × Json) : Prop where
  writeName : name.write pair.1 = .ok entry.1
  readName : name.read entry.1 = .ok pair.1
  value : value.Survives pair.2 entry.2

/-- Every entry of a list survives, with a document that has some property. -/
def EntriesSurvive (name : NameCodec) (value : Codec) (property : Json → Prop)
    (pairs : List (Datum × Datum)) : Prop :=
  ∀ pair ∈ pairs, ∃ entry, EntrySurvives name value pair entry ∧ property entry.2

variable {name : NameCodec} {value : Codec} {property : Json → Prop}

/-- A map whose entries survive is written as an object that is read as entries of the same map.
Its members are in the order of their names and not of the keys. -/
theorem EntriesSurvive.exists_written {pairs : List (Datum × Datum)}
    (survive : EntriesSurvive name value property pairs) :
    ∃ members back, (map name value).write (.entries (Datum.mapOf pairs)) = .ok (.object members) ∧
      List.Forall₂ (fun entry pair => name.read entry.1 = .ok pair.1 ∧
        value.read entry.2 = .ok pair.2 ∧ property entry.2) members back ∧
      Datum.mapOf back = Datum.mapOf pairs := by
  have kept : EntriesSurvive name value property (Datum.mapOf pairs) :=
    fun pair member => survive pair (Datum.mem_of_mem_mapOf member)
  obtain ⟨entries, each⟩ := exists_forall₂ kept
  have written : (Datum.mapOf pairs).mapM (fun pair => do
      .ok (← name.write pair.1, ← value.write pair.2)) = .ok entries := by
    refine mapM_eq_ok_iff.mpr (each.imp ?_)
    rintro pair entry ⟨survives, -⟩
    rw [survives.writeName, survives.value.1]
    rfl
  have back : List.Forall₂ (fun entry pair => name.read entry.1 = .ok pair.1 ∧
      value.read entry.2 = .ok pair.2 ∧ property entry.2) entries (Datum.mapOf pairs) := by
    refine List.Forall₂.flip (each.imp ?_)
    rintro pair entry ⟨survives, holds⟩
    exact ⟨survives.readName, survives.value.2, holds⟩
  -- Equal names would be read as equal keys, of which a map has none.
  have distinct : (entries.map Prod.fst).Nodup := by
    refine nodup_of_mapM (f := name.read) (mapM_eq_ok_iff.mpr ?_) (Datum.nodup_keys_mapOf pairs)
    exact List.forall₂_map_left_iff.mpr
      (List.forall₂_map_right_iff.mpr (back.imp fun _ _ read => read.1))
  obtain ⟨members, sorted, arranged⟩ := Json.perm_ofMembers distinct
  obtain ⟨found, related, rearranged⟩ := List.perm_comp_forall₂ arranged back
  refine ⟨members, found, ?_, related, Datum.mapOf_of_perm rearranged⟩
  exact map_eq_ok_iff.mpr ⟨entries, written, sorted⟩

/-- A member is read by its name and its value. -/
theorem member_eq_ok_iff {κ α : Type} {read : NameReader κ} {reader : Reader α}
    {entry : String × Json} {pair : κ × α} : Reader.member read reader entry = .ok pair ↔
      read entry.1 = .ok pair.1 ∧ reader entry.2 = .ok pair.2 := by
  obtain ⟨key, item⟩ := pair
  unfold Reader.member
  rw [bind_eq_ok_iff]
  constructor
  · rintro ⟨k, first, rest⟩
    obtain ⟨v, second, same⟩ := bind_eq_ok_iff.mp rest
    cases same
    exact ⟨first, second⟩
  · rintro ⟨first, second⟩
    exact ⟨key, first, bind_eq_ok_iff.mpr ⟨item, second, rfl⟩⟩

theorem lawful_map (lawfulName : name.Lawful) (lawful : value.Lawful) :
    (map name value).Lawful := by
  intro document item bounded read
  obtain ⟨pairs, found, rfl⟩ := map_eq_ok_iff.mp read
  cases bounded with
  | @object members within =>
    have survive : EntriesSurvive name value (fun _ => True) pairs := by
      intro pair listed
      obtain ⟨entry, inside, reads⟩ := exists_of_mem_right (mapM_eq_ok_iff.mp found) listed
      obtain ⟨readName, readValue⟩ := member_eq_ok_iff.mp reads
      obtain ⟨text, writeName, backName⟩ := lawfulName _ _ readName
      obtain ⟨written, kept, -⟩ := lawful _ _ (within entry inside) readValue
      exact ⟨(text, written), ⟨writeName, backName, kept⟩, trivial⟩
    obtain ⟨sorted, back, write, related, same⟩ := survive.exists_written
    refine ⟨.object sorted, ⟨write, ?_⟩, by simp⟩
    refine map_eq_ok_iff.mpr ⟨back, mapM_eq_ok_iff.mpr (related.imp ?_), by rw [same]⟩
    rintro entry pair ⟨readName, readValue, -⟩
    exact member_eq_ok_iff.mpr ⟨readName, readValue⟩
  | _ => cases found

/-- The entries that are left when null members are dropped survive, and not as null. -/
theorem entriesSurvive_of_compacted (lawfulName : name.Lawful) (lawful : value.Lawful)
    {members : List (String × Json)} (bounded : ∀ entry ∈ members, entry.2.Representable)
    {pairs : List (Datum × Datum)}
    (read : Reader.compactedEntries name.read value.read (.object members) = .ok pairs) :
    EntriesSurvive name value (· ≠ .null) pairs := by
  obtain ⟨options, found, rfl⟩ := map_eq_ok_iff.mp read
  intro pair member
  obtain ⟨⟨key, option⟩, listed, present⟩ := List.mem_filterMap.mp member
  obtain ⟨item, rfl, rfl⟩ := Option.map_eq_some_iff.mp present
  obtain ⟨entry, inside, reads⟩ := exists_of_mem_right (mapM_eq_ok_iff.mp found) listed
  obtain ⟨readName, readValue⟩ := member_eq_ok_iff.mp reads
  rcases optional_cases readValue with ⟨-, none⟩ | ⟨here, a, inner, same⟩
  · cases none
  · cases same
    obtain ⟨text, writeName, backName⟩ := lawfulName _ _ readName
    obtain ⟨written, kept, null⟩ := lawful _ _ (bounded entry inside) inner
    exact ⟨(text, written), ⟨writeName, backName, kept⟩, fun gone => here (null gone)⟩

/-- Where no member is null, dropping null members drops nothing. -/
theorem compactedEntries_of_ne_null {members : List (String × Json)} {back : List (Datum × Datum)}
    (related : List.Forall₂ (fun entry pair => name.read entry.1 = .ok pair.1 ∧
      value.read entry.2 = .ok pair.2 ∧ entry.2 ≠ .null) members back) :
    Reader.compactedEntries name.read value.read (.object members) = .ok back := by
  have each : List.Forall₂ (fun entry pair => Reader.member name.read
      (Reader.optional value.read) entry = .ok pair) members
      (back.map fun pair => (pair.1, some pair.2)) := by
    refine List.forall₂_map_right_iff.mpr (related.imp ?_)
    rintro entry pair ⟨readName, readValue, present⟩
    refine member_eq_ok_iff.mpr ⟨readName, ?_⟩
    rw [optional_of_ne_null present, readValue]
    rfl
  refine map_eq_ok_iff.mpr ⟨_, mapM_eq_ok_iff.mpr each, ?_⟩
  simp [List.filterMap_map]

/-- Maps that drop null members are lawful. -/
theorem lawful_compactedMap (lawfulName : name.Lawful) (lawful : value.Lawful) :
    ({ read := fun document => (fun pairs => .entries (Datum.mapOf pairs)) <$>
        Reader.compactedEntries name.read value.read document
       write := (map name value).write } : Codec).Lawful := by
  intro document item bounded read
  obtain ⟨pairs, found, rfl⟩ := map_eq_ok_iff.mp read
  cases bounded with
  | object within =>
    have survive := entriesSurvive_of_compacted lawfulName lawful within found
    obtain ⟨sorted, back, write, related, same⟩ := survive.exists_written
    refine ⟨.object sorted, ⟨write, ?_⟩, by simp⟩
    exact map_eq_ok_iff.mpr ⟨back, compactedEntries_of_ne_null related, by rw [same]⟩
  | _ => cases found

end Entries

end Codec

/-- The codec of every type is lawful if those of records are. -/
theorem DataType.lawful_codec {records : String → Codec} (lawful : ∀ name, (records name).Lawful)
    (type : DataType) : (type.codec records).Lawful := by
  induction type with
  | boolean => exact Codec.lawful_boolean
  | integer type => exact Codec.lawful_integer type
  | float => exact Codec.lawful_float
  | character => exact Codec.lawful_character
  | text => exact Codec.lawful_textBy fun _ => rfl
  | unit => exact Codec.lawful_unit
  | any => exact Codec.lawful_any
  | optional inner ih => exact Codec.lawful_optional ih
  | sequence element ih => exact Codec.lawful_sequence ih
  | set element ih => exact Codec.lawful_set ih
  | map name value ih => exact Codec.lawful_map name.lawful_codec ih
  | pair first second ih ih' => exact Codec.lawful_pair ih ih'
  | fixed length element ih => exact Codec.lawful_fixed length ih
  | lossless => exact Codec.lawful_textBy Lossless.reader_text
  | record name => exact lawful name

end RecordCoding
