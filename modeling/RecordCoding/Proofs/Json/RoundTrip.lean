import Mathlib.Data.String.Basic
import RecordCoding.Proofs.Json.Brackets

/-!
# Reading forms of documents

Whatever form a document is written in, it is read back from it: the depth that is left never runs
out, and members in ascending order stay where they are. Both printers write such forms.
-/

namespace RecordCoding.Json

/-- A name that comes after all others is put behind them. -/
theorem insertMember_of_greatest {members : List (String × Json)} {name : String} {value : Json}
    (greatest : ∀ entry ∈ members, entry.1 < name) :
    insertMember members name value = members ++ [(name, value)] := by
  induction members with
  | nil => rfl
  | cons entry rest ih =>
    obtain ⟨before, behind⟩ := List.forall_mem_cons.mp greatest
    rw [insertMember, if_neg (lt_asymm before), if_neg (ne_of_gt before), ih behind]
    rfl

/-- Members in ascending order make the object that has them in that order. -/
theorem ofMembers_of_ascending {members : List (String × Json)}
    (ascending : (members.map Prod.fst).Pairwise (· < ·)) :
    ofMembers members = .object members := by
  have append (sorted : List (String × Json))
      (apart : ∀ entry ∈ sorted, ∀ later ∈ members, entry.1 < later.1) :
      members.foldl (fun sorted entry => insertMember sorted entry.1 entry.2) sorted =
        sorted ++ members := by
    induction members generalizing sorted with
    | nil => exact (List.append_nil sorted).symm
    | cons entry rest ih =>
      obtain ⟨least, others⟩ := List.pairwise_cons.mp ascending
      have behind := ih others (sorted ++ [entry]) ?_
      · rw [List.foldl_cons, insertMember_of_greatest fun earlier member =>
          apart earlier member entry List.mem_cons_self]
        exact behind.trans (List.append_assoc sorted [entry] rest)
      · intro earlier member later inside
        rcases List.mem_append.mp member with before | this
        · exact apart earlier before later (List.mem_cons_of_mem entry inside)
        · rw [List.mem_singleton.mp this]
          exact least later.1 (List.mem_map_of_mem inside)
  exact congrArg Json.object (append [] nofun)

/-- Every form of a portable document is read as that document. -/
theorem reads_of_form {document : Json} {chars : List Char} (form : Form document chars)
    {depth : Nat} (portable : Portable depth document) (ordered : Ordered document) :
    BeginsValue chars ∧ ByteReader.Reads (ByteReader.value depth) chars document := by
  induction form generalizing depth with
  | null =>
    have begins : BeginsValue "null".toList :=
      ⟨'n', _, rfl, ⟨rfl, rfl, rfl⟩, by decide, by decide⟩
    exact ⟨begins, ByteReader.reads_scalar begins
      (fun inner rest _ => ByteReader.valueOver_null inner rest) depth⟩
  | boolean value =>
    have begins : BeginsValue (booleanText value).toList := by
      cases value with
      | false => exact ⟨'f', _, rfl, ⟨rfl, rfl, rfl⟩, by decide, by decide⟩
      | true => exact ⟨'t', _, rfl, ⟨rfl, rfl, rfl⟩, by decide, by decide⟩
    exact ⟨begins, ByteReader.reads_scalar begins
      (fun inner rest _ => ByteReader.valueOver_boolean inner rest value) depth⟩
  | integer value =>
    cases portable with
    | integer least greatest =>
      obtain ⟨c, others, written, first⟩ := ByteReader.exists_toString_eq_cons value
      have begins : BeginsValue (toString value).toList := by
        rcases first with rfl | digit
        · exact ⟨'-', others, written, ⟨rfl, rfl, rfl⟩, by decide, by decide⟩
        · refine ⟨c, others, written, isMark_of_isDigit digit, ?_, ?_⟩
          · rintro rfl
            cases digit
          · rintro rfl
            cases digit
      refine ⟨begins, ByteReader.reads_scalar begins (fun inner rest ends => ?_) depth⟩
      have number := ByteReader.valueOver_number inner rest first others
      rw [← written] at number
      rw [number]
      exact ByteReader.map_eq_ok (ByteReader.number_toString least greatest ends) Json.number
  | text value =>
    have begins : BeginsValue (stringChars value) :=
      ⟨'"', _, rfl, ⟨rfl, rfl, rfl⟩, by decide, by decide⟩
    exact ⟨begins, ByteReader.reads_scalar begins
      (fun inner rest _ => ByteReader.valueOver_text inner rest value) depth⟩
  | array blankFirst blank blankLast each ih =>
    cases portable with
    | array portable =>
      cases ordered with
      | array ordered =>
        refine ⟨⟨'[', _, rfl, ⟨rfl, rfl, rfl⟩, by decide, by decide⟩,
          ByteReader.reads_array blankFirst blank blankLast fun piece member => ?_⟩
        exact ih piece member (portable piece.value (List.mem_map_of_mem member))
          (ordered piece.value (List.mem_map_of_mem member))
  | @object _ _ _ _ blankFirst blank blankColon blankLast pieces each ih =>
    cases portable with
    | object portable =>
      cases ordered with
      | object ascending ordered =>
        refine ⟨⟨'\x7b', _, rfl, ⟨rfl, rfl, rfl⟩, by decide, by decide⟩, ?_⟩
        rw [← ofMembers_of_ascending ascending]
        refine ByteReader.reads_object blankFirst blank blankLast blankColon fun piece member => ?_
        have inside : (piece.name, piece.value) ∈
            pieces.map fun piece => (piece.name, piece.value) := List.mem_map_of_mem member
        exact (ih piece member (portable _ inside) (ordered _ inside)).2

/-- Every form of a portable document is a text of that document. -/
theorem parse_form {document : Json} {chars : List Char} (form : Form document chars)
    (portable : Portable maxDepth document) (ordered : Ordered document) :
    parse (charsBytes chars) = .ok document := by
  have read := (reads_of_form form portable ordered).2 [] [] blank_nil endsNumber_nil
  rw [charsBytes_nil, List.nil_append, List.append_nil] at read
  have whole : ByteReader.document (charsBytes chars) = .ok (document, []) := by
    rw [ByteReader.document, ByteReader.bind_of_ok read]
    rfl
  rw [parse, parseBytes, whole]
  rfl

/-- The bytes of a text are those of its characters, one after the other. -/
theorem textBytes_ofList (chars : List Char) :
    textBytes (String.ofList chars) = charsBytes chars := by
  rw [textBytes_eq, String.toList_ofList]
  rfl

/-- A portable document is read back from its text on one line. -/
theorem parse_compact {document : Json} (portable : Portable maxDepth document)
    (ordered : Ordered document) : parse (textBytes (compact document)) = .ok document := by
  rw [compact, textBytes_ofList]
  exact parse_form (form_compactChars portable) portable ordered

/-- A portable document is read back from its text on several lines. -/
theorem parse_pretty {document : Json} (portable : Portable maxDepth document)
    (ordered : Ordered document) : parse (textBytes (pretty document)) = .ok document := by
  rw [pretty, textBytes_ofList]
  exact parse_form (form_prettyChars portable 0) portable ordered

end RecordCoding.Json
