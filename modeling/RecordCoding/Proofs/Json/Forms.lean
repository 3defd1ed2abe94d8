import RecordCoding.Json.Printer
import RecordCoding.Json.Parser

/-!
# Forms of documents

The ways in which a document may be written: what is in an array or an object stands between
brackets, separated by commas, and there may be blanks at every place where there is a choice. The
two printers make different use of these places, and each of them writes a form of the document.
-/

namespace RecordCoding.Json

/-- The members of every object in a document are in ascending order of their names. -/
inductive Ordered : Json → Prop
  | null : Ordered .null
  | boolean (value : Bool) : Ordered (.boolean value)
  | number (value : JsonNumber) : Ordered (.number value)
  | text (value : String) : Ordered (.text value)
  | array {elements : List Json} (each : ∀ element ∈ elements, Ordered element) :
      Ordered (.array elements)
  | object {members : List (String × Json)}
      (ascending : (members.map Prod.fst).Pairwise (· < ·))
      (each : ∀ entry ∈ members, Ordered entry.2) : Ordered (.object members)

/-- A document that has no more than so many arrays and objects open at once, and whose numbers are
integers that fit 64 bits, signed or unsigned. -/
inductive Portable : Nat → Json → Prop
  | null {depth : Nat} : Portable depth .null
  | boolean {depth : Nat} (value : Bool) : Portable depth (.boolean value)
  | integer {depth : Nat} {value : Int} (least : -Int.pow 2 63 ≤ value)
      (greatest : value < Int.pow 2 64) : Portable depth (.integer value)
  | text {depth : Nat} (value : String) : Portable depth (.text value)
  | array {depth : Nat} {elements : List Json}
      (each : ∀ element ∈ elements, Portable depth element) :
      Portable (depth + 1) (.array elements)
  | object {depth : Nat} {members : List (String × Json)}
      (each : ∀ entry ∈ members, Portable depth entry.2) : Portable (depth + 1) (.object members)

/-- Nothing but blanks and line breaks. -/
def Blank (gap : List Char) : Prop := ∀ c ∈ gap, c = ' ' ∨ c = '\n'

theorem blank_nil : Blank [] := nofun

theorem blank_newLine (level : Nat) : Blank (newLine level) := by
  intro c member
  rcases List.mem_cons.mp member with rfl | within
  · exact Or.inr rfl
  · exact Or.inl (List.eq_of_mem_replicate within)

theorem Blank.append {first second : List Char} (blank : Blank first) (blankToo : Blank second) :
    Blank (first ++ second) :=
  fun c member => (List.mem_append.mp member).elim (blank c) (blankToo c)

/-- Pieces behind a first one, each after a comma and a gap. -/
def continued (gap : List Char) (pieces : List (List Char)) : List Char :=
  pieces.flatMap fun piece => ',' :: (gap ++ piece)

/-- Pieces with commas and gaps between them. -/
def separated (gap : List Char) : List (List Char) → List Char
  | [] => []
  | first :: rest => first ++ continued gap rest

/-- A piece in front of at least one other. -/
theorem separated_cons_cons (gap first second : List Char) (rest : List (List Char)) :
    separated gap (first :: second :: rest) =
      first ++ ',' :: (gap ++ separated gap (second :: rest)) := by
  simp [separated, continued]

/-- Something that stands between brackets. -/
structure Piece where
  value : Json
  chars : List Char

/-- A member of an object as it stands there. -/
structure NamedPiece extends Piece where
  name : String

/-- The characters of a member, with a gap before its value. -/
def NamedPiece.written (gap : List Char) (piece : NamedPiece) : List Char :=
  stringChars piece.name ++ ':' :: (gap ++ piece.chars)

/-- Characters are a form of a document. -/
inductive Form : Json → List Char → Prop
  | null : Form .null "null".toList
  | boolean (value : Bool) : Form (.boolean value) (booleanText value).toList
  | integer (value : Int) : Form (.integer value) (toString value).toList
  | text (value : String) : Form (.text value) (stringChars value)
  | array {first between last : List Char} (blankFirst : Blank first) (blank : Blank between)
      (blankLast : Blank last) {pieces : List Piece}
      (each : ∀ piece ∈ pieces, Form piece.value piece.chars) :
      Form (.array (pieces.map (·.value)))
        ('[' :: (first ++ (separated between (pieces.map (·.chars)) ++ (last ++ [']']))))
  | object {first between colon last : List Char} (blankFirst : Blank first)
      (blank : Blank between) (blankColon : Blank colon) (blankLast : Blank last)
      {pieces : List NamedPiece} (each : ∀ piece ∈ pieces, Form piece.value piece.chars) :
      Form (.object (pieces.map fun piece => (piece.name, piece.value)))
        ('\x7b' :: (first ++ (separated between (pieces.map (·.written colon)) ++
          (last ++ ['\x7d']))))

/-- Elements on one line are separated by commas. -/
theorem compactElements_eq (elements : List Json) :
    compactElements elements = separated [] (elements.map compactChars) := by
  induction elements with
  | nil => simp [compactElements, separated]
  | cons first rest ih =>
    cases rest with
    | nil => simp [compactElements, separated, continued]
    | cons second others =>
      rw [compactElements, ih]
      · exact (separated_cons_cons [] _ _ _).symm
      · nofun

/-- Members on one line are separated by commas. -/
theorem compactMembers_eq (members : List (String × Json)) :
    compactMembers members = separated [] (members.map fun entry =>
      NamedPiece.written [] ⟨⟨entry.2, compactChars entry.2⟩, entry.1⟩) := by
  induction members with
  | nil => simp [compactMembers, separated]
  | cons first rest ih =>
    cases rest with
    | nil => simp [compactMembers, separated, continued, NamedPiece.written]
    | cons second others =>
      rw [compactMembers, ih]
      · simp [separated_cons_cons, NamedPiece.written]
      · nofun

/-- Elements on lines of their own are separated by commas and line breaks. -/
theorem prettyElements_eq (level : Nat) (elements : List Json) :
    prettyElements level elements =
      separated (newLine (level + 1)) (elements.map (prettyChars (level + 1))) := by
  induction elements with
  | nil => simp [prettyElements, separated]
  | cons first rest ih =>
    cases rest with
    | nil => simp [prettyElements, separated, continued]
    | cons second others =>
      rw [prettyElements, ih]
      · simp [separated_cons_cons]
      · nofun

/-- Members on lines of their own are separated by commas and line breaks. -/
theorem prettyMembers_eq (level : Nat) (members : List (String × Json)) :
    prettyMembers level members = separated (newLine (level + 1)) (members.map fun entry =>
      NamedPiece.written [' '] ⟨⟨entry.2, prettyChars (level + 1) entry.2⟩, entry.1⟩) := by
  induction members with
  | nil => simp [prettyMembers, separated]
  | cons first rest ih =>
    cases rest with
    | nil => simp [prettyMembers, separated, continued, NamedPiece.written]
    | cons second others =>
      rw [prettyMembers, ih]
      · simp [separated_cons_cons, NamedPiece.written]
      · nofun

/-- An array is written as its elements are. -/
theorem form_array {first between last : List Char} (blankFirst : Blank first)
    (blank : Blank between) (blankLast : Blank last) {elements : List Json}
    {print : Json → List Char} (each : ∀ element ∈ elements, Form element (print element)) :
    Form (.array elements)
      ('[' :: (first ++ (separated between (elements.map print) ++ (last ++ [']'])))) := by
  have form := @Form.array _ _ _ blankFirst blank blankLast
    (elements.map fun element => ⟨element, print element⟩) (List.forall_mem_map.mpr each)
  simpa [Function.comp_def] using form

/-- An object is written as its members are. -/
theorem form_object {first between colon last : List Char} (blankFirst : Blank first)
    (blank : Blank between) (blankColon : Blank colon) (blankLast : Blank last)
    {members : List (String × Json)} {print : Json → List Char}
    (each : ∀ entry ∈ members, Form entry.2 (print entry.2)) :
    Form (.object members) ('\x7b' :: (first ++ (separated between (members.map fun entry =>
      NamedPiece.written colon ⟨⟨entry.2, print entry.2⟩, entry.1⟩) ++ (last ++ ['\x7d'])))) := by
  have form := @Form.object _ _ _ _ blankFirst blank blankColon blankLast
    (members.map fun entry => ⟨⟨entry.2, print entry.2⟩, entry.1⟩) (List.forall_mem_map.mpr each)
  simpa [Function.comp_def] using form

/-- What is written on one line is a form of the document. -/
theorem form_compactChars {depth : Nat} {document : Json} (portable : Portable depth document) :
    Form document (compactChars document) := by
  induction portable with
  | null => exact .null
  | boolean value => exact .boolean value
  | integer _ _ => exact .integer _
  | text value => exact .text value
  | array _ ih =>
    rw [compactChars, compactElements_eq]
    exact form_array blank_nil blank_nil blank_nil ih
  | object _ ih =>
    rw [compactChars, compactMembers_eq]
    exact form_object blank_nil blank_nil blank_nil blank_nil ih

/-- What is written on several lines is one, at whatever level it begins. -/
theorem form_prettyChars {depth : Nat} {document : Json} (portable : Portable depth document)
    (level : Nat) : Form document (prettyChars level document) := by
  have colon : Blank [' '] := fun c member => Or.inl (List.mem_singleton.mp member)
  induction portable generalizing level with
  | null => exact .null
  | boolean value => exact .boolean value
  | integer _ _ => exact .integer _
  | text value => exact .text value
  | @array _ elements _ ih =>
    cases elements with
    | nil => exact @Form.array _ _ _ blank_nil blank_nil blank_nil [] nofun
    | cons first rest =>
      have line := blank_newLine (level + 1)
      have form := form_array line line (blank_newLine level)
        fun element member => ih element member (level + 1)
      rw [prettyChars, prettyElements_eq]
      · simpa only [List.cons_append, List.append_assoc] using form
      · nofun
  | @object _ members _ ih =>
    cases members with
    | nil => exact @Form.object _ _ _ _ blank_nil blank_nil blank_nil blank_nil [] nofun
    | cons first rest =>
      have line := blank_newLine (level + 1)
      have form := form_object line line colon (blank_newLine level)
        fun entry member => ih entry member (level + 1)
      rw [prettyChars, prettyMembers_eq]
      · simpa only [List.cons_append, List.append_assoc] using form
      · nofun

end RecordCoding.Json
