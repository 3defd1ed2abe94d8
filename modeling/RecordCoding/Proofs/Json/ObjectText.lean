import RecordCoding.Proofs.Json.RoundTrip

/-!
# Objects as they stand in a text

The members of an object are read one after the other, so what a text says of one member decides
what is read under its name, whatever stands around it: members in front of it that can be read are
passed over, and if its value cannot be read, then neither can the object.
-/

namespace RecordCoding.Json

/-- Nothing but what may stand between tokens. -/
def IsGap (chars : List Char) : Prop := ∀ c ∈ chars, c = ' ' ∨ c = '\n' ∨ c = '\t' ∨ c = '\r'

theorem isGap_nil : IsGap [] := nofun

/-- A member of an object as it stands in a text, with the gaps around its parts. -/
structure MemberText where
  before : List Char
  /-- The name, as it is written between its quotes. -/
  name : List Char
  afterName : List Char
  beforeValue : List Char
  value : List Char
  behind : List Char
  gapBefore : IsGap before
  gapAfterName : IsGap afterName
  gapBeforeValue : IsGap beforeValue
  gapBehind : IsGap behind

namespace MemberText

/-- The characters of a member. -/
def chars (member : MemberText) : List Char :=
  member.before ++ '"' :: (member.name ++ '"' :: (member.afterName ++ ':' ::
    (member.beforeValue ++ (member.value ++ member.behind))))

/-- What stands between the quotes is a spelling of the name. -/
def Names (member : MemberText) (key : String) : Prop :=
  ∀ rest, ByteReader.string (charsBytes member.name ++ 34 :: rest) = .ok (key, rest)

/-- A member that can be read, with so many arrays and objects open in its value at once. -/
structure Spells (member : MemberText) (depth : Nat) (entry : String × Json) : Prop where
  names : member.Names entry.1
  valued : ∀ rest, EndsNumber rest →
    ByteReader.value depth (charsBytes member.value ++ rest) = .ok (entry.2, rest)

/-- A member without gaps, its name as it is printed. -/
def plain (key : String) (value : List Char) : MemberText where
  before := []
  name := key.toList.flatMap escapeChar
  afterName := []
  beforeValue := []
  value := value
  behind := []
  gapBefore := isGap_nil
  gapAfterName := isGap_nil
  gapBeforeValue := isGap_nil
  gapBehind := isGap_nil

/-- It is found under its name. -/
theorem names_plain (key : String) (value : List Char) : (plain key value).Names key :=
  ByteReader.string_stringChars key

/-- A member as it is printed on one line. -/
def printed (entry : String × Json) : MemberText := plain entry.1 (compactChars entry.2)

/-- If its value is portable it can be read. -/
theorem spells_printed {depth : Nat} {entry : String × Json} (portable : Portable depth entry.2)
    (ordered : entry.2.Ordered) : (printed entry).Spells depth entry where
  names := names_plain entry.1 _
  valued rest ends :=
    (reads_of_form (form_compactChars portable) portable ordered).2 [] rest blank_nil ends

end MemberText

/-- The characters of an object with some members. -/
def objectChars (members : List MemberText) : List Char :=
  '\x7b' :: (separated [] (members.map (·.chars)) ++ ['\x7d'])

namespace ByteReader

section Gaps

variable {gap : List Char} (isGap : IsGap gap)

include isGap

/-- A gap is passed over. -/
theorem peekToken_gap (bytes : List UInt8) :
    peekToken (charsBytes gap ++ bytes) = peekToken bytes := by
  have dropped : (charsBytes gap ++ bytes).dropWhile isBlankByte =
      bytes.dropWhile isBlankByte := by
    induction gap with
    | nil => rfl
    | cons c others ih =>
      obtain ⟨rfl | rfl | rfl | rfl, behind⟩ := List.forall_mem_cons.mp isGap
      all_goals exact ih behind
  have seen (bytes : List UInt8) : peekToken bytes =
      .ok ((bytes.dropWhile isBlankByte).head?.map Char.ofUInt8, bytes.dropWhile isBlankByte) := rfl
  rw [seen, seen, dropped]

/-- A gap does not go on with a number. -/
theorem endsNumber_gap {rest : List UInt8} (ends : EndsNumber rest) :
    EndsNumber (charsBytes gap ++ rest) := by
  cases gap with
  | nil => exact ends
  | cons c others =>
    obtain ⟨rfl | rfl | rfl | rfl, -⟩ := List.forall_mem_cons.mp isGap
    all_goals
      rintro _ ⟨⟩
      decide

/-- A value is read the same behind a gap. -/
theorem value_gap (depth : Nat) (bytes : List UInt8) :
    value depth (charsBytes gap ++ bytes) = value depth bytes := by
  have layer (inner : Option (ByteReader Json)) :
      valueOver inner (charsBytes gap ++ bytes) = valueOver inner bytes := by
    simp only [valueOver, bind, StateT.bind, peekToken_gap isGap]
  cases depth with
  | zero => exact layer none
  | succ depth => exact layer (some (value depth))

/-- So are members. -/
theorem members_gap (read : ByteReader Json) (bound : Nat) (isFirst : Bool) (bytes : List UInt8) :
    members read (bound + 1) isFirst (charsBytes gap ++ bytes) =
      members read (bound + 1) isFirst bytes := by
  simp only [members, bind, StateT.bind, peekToken_gap isGap]

/-- A colon is passed over behind a gap. -/
theorem colon_gap (bytes : List UInt8) :
    colon (charsBytes gap ++ 58 :: bytes) = .ok ((), bytes) := by
  have seen : peekToken (charsBytes gap ++ 58 :: bytes) = .ok (some ':', 58 :: bytes) :=
    peekToken_gap isGap _
  rw [colon, bind_of_ok seen]
  rfl

end Gaps

/-- What is made of a result is made of the same result elsewhere. -/
theorem map_of_eq {α β : Type} {reader other : ByteReader α} {bytes ahead : List UInt8}
    (same : reader bytes = other ahead) (f : α → β) :
    (f <$> reader) bytes = (f <$> other) ahead := by
  simp only [Functor.map, StateT.map, same]

/-- What is read from the value of a member on, given its name. -/
def onward (read : ByteReader Json) (key : String) (bound : Nat) :
    ByteReader (List (String × Json)) := do
  let value ← read
  pure ((key, value) :: (← members read bound false))

/-- The bytes of a member, part by part. -/
theorem charsBytes_member (member : MemberText) (rest : List UInt8) :
    charsBytes member.chars ++ rest = charsBytes member.before ++ 34 :: (charsBytes member.name ++
      34 :: (charsBytes member.afterName ++ 58 :: (charsBytes member.beforeValue ++
        (charsBytes member.value ++ (charsBytes member.behind ++ rest))))) := by
  have quote : String.utf8EncodeChar '"' = [34] := rfl
  have colon : String.utf8EncodeChar ':' = [58] := rfl
  simp only [MemberText.chars, charsBytes_append, charsBytes_cons, quote, colon, List.append_assoc,
    List.cons_append, List.nil_append]

/-- A member whose value can be read is there, and so are the members behind it. -/
theorem onward_of_ok {read : ByteReader Json} {key : String} {bound : Nat} {document : Json}
    {bytes ahead rest : List UInt8} {others : List (String × Json)}
    (value : read bytes = .ok (document, ahead))
    (behind : members read bound false ahead = .ok (others, rest)) :
    onward read key bound bytes = .ok ((key, document) :: others, rest) := by
  rw [onward, bind_of_ok value, bind_of_ok behind]
  rfl

section Members

variable {member : MemberText} {key : String} (names : member.Names key)

include names

/-- From its opening quote on a member is read by its name, and the rest of it onward. -/
theorem member_onward_of_names (read : ByteReader Json) (bound : Nat) (rest : List UInt8) :
    (do
      skip
      let name ← string
      colon
      let value ← read
      pure ((name, value) :: (← members read bound false)) : ByteReader _)
        (34 :: (charsBytes member.name ++ 34 :: (charsBytes member.afterName ++ 58 :: rest))) =
      onward read key bound rest := by
  have passed (bytes : List UInt8) : skip (34 :: bytes) = .ok ((), bytes) := rfl
  rw [bind_of_ok (passed _), bind_of_ok (names _), bind_of_ok (colon_gap member.gapAfterName _)]
  rfl

/-- The first member of an object is read so. -/
theorem members_first_text (read : ByteReader Json) (bound : Nat) (rest : List UInt8) :
    members read (bound + 1) true (charsBytes member.chars ++ rest) =
      onward read key bound (charsBytes member.beforeValue ++
        (charsBytes member.value ++ (charsBytes member.behind ++ rest))) := by
  have seen (bytes : List UInt8) : peekToken (34 :: bytes) = .ok (some '"', 34 :: bytes) := rfl
  rw [charsBytes_member, members_gap member.gapBefore, members, bind_of_ok (seen _)]
  exact member_onward_of_names names read bound _

/-- So is a member behind a comma. -/
theorem members_next_text (read : ByteReader Json) (bound : Nat) (rest : List UInt8) :
    members read (bound + 1) false (44 :: (charsBytes member.chars ++ rest)) =
      onward read key bound (charsBytes member.beforeValue ++
        (charsBytes member.value ++ (charsBytes member.behind ++ rest))) := by
  have separates (bytes : List UInt8) : peekToken (44 :: bytes) = .ok (some ',', 44 :: bytes) := rfl
  have skipped (bytes : List UInt8) : skip (44 :: bytes) = .ok ((), bytes) := rfl
  have seen (bytes : List UInt8) : peekToken (charsBytes member.before ++ 34 :: bytes) =
      .ok (some '"', 34 :: bytes) := peekToken_gap member.gapBefore _
  rw [charsBytes_member, members, bind_of_ok (separates _)]
  change (skip >>= _) (44 :: _) = _
  rw [bind_of_ok (skipped _), bind_of_ok (seen _)]
  exact member_onward_of_names names read bound _

end Members

section Objects

variable {depth : Nat} {rest : List UInt8}

/-- A member that can be read is read, and the members behind it. -/
theorem onward_of_spells {member : MemberText} {entry : String × Json}
    (spells : member.Spells depth entry) (ends : EndsNumber rest) (bound : Nat) :
    onward (value depth) entry.1 (bound + 1) (charsBytes member.beforeValue ++
        (charsBytes member.value ++ (charsBytes member.behind ++ rest))) =
      ((entry :: ·) <$> members (value depth) (bound + 1) false) rest := by
  have read := spells.valued _ (endsNumber_gap member.gapBehind ends)
  rw [← value_gap member.gapBeforeValue] at read
  rw [onward, bind_of_ok read, bind_pure_comp]
  simp only [Functor.map, StateT.map, members_gap member.gapBehind]

/-- What stands behind a member does not go on with a number. -/
theorem endsNumber_texts (texts : List MemberText) (ends : EndsNumber rest) :
    EndsNumber (charsBytes (continued [] (texts.map (·.chars))) ++ rest) := by
  cases texts with
  | nil => exact ends
  | cons first others => exact endsNumber_cons _ (by decide)

/-- A member behind others has a comma in front of it. -/
theorem charsBytes_continued (text : MemberText) (others : List MemberText) (rest : List UInt8) :
    charsBytes (continued [] ((text :: others).map (·.chars))) ++ rest =
      44 :: (charsBytes text.chars ++
        (charsBytes (continued [] (others.map (·.chars))) ++ rest)) := by
  rw [List.map_cons, continued, List.flatMap_cons, charsBytes_append, List.append_assoc]
  rfl

/-- Members that can be read are passed over. -/
theorem members_of_spells {texts : List MemberText} {entries : List (String × Json)}
    (spells : List.Forall₂ (·.Spells depth ·) texts entries)
    (ends : EndsNumber rest) (bound : Nat) :
    members (value depth) (bound + 1 + texts.length) false
        (charsBytes (continued [] (texts.map (·.chars))) ++ rest) =
      ((entries ++ ·) <$> members (value depth) (bound + 1) false) rest := by
  induction spells with
  | nil => exact congrFun (id_map (members (value depth) (bound + 1) false)).symm rest
  | @cons text entry others entries first behind ih =>
    have count : bound + 1 + (text :: others).length = bound + 1 + others.length + 1 := rfl
    have step := onward_of_spells first (endsNumber_texts others ends) (bound + others.length)
    have shifted : bound + others.length + 1 = bound + 1 + others.length := by omega
    rw [shifted] at step
    rw [charsBytes_continued, count, members_next_text first.names, step]
    simp only [Functor.map, StateT.map, bind, Except.bind, pure, Except.pure] at ih ⊢
    rw [ih]
    cases members (value depth) (bound + 1) false rest <;> rfl

/-- The first member needs no comma. -/
theorem members_first_eq {first : MemberText} {key : String} (names : first.Names key)
    (others : List MemberText) (read : ByteReader Json) (bound : Nat) :
    members read (bound + 1) true
        (charsBytes (separated [] ((first :: others).map (·.chars))) ++ rest) =
      members read (bound + 1) false
        (charsBytes (continued [] ((first :: others).map (·.chars))) ++ rest) := by
  have behind := members_next_text names read bound
    (charsBytes (continued [] (others.map (·.chars))) ++ rest)
  rw [charsBytes_continued, behind, List.map_cons, separated, charsBytes_append, List.append_assoc,
    members_first_text names]

/-- There are no more members than bytes. -/
theorem length_le_texts (texts : List MemberText) (rest : List UInt8) :
    texts.length ≤ (charsBytes (separated [] (texts.map (·.chars))) ++ rest).length := by
  have each : ∀ chars ∈ texts.map (·.chars), 0 < (charsBytes chars).length := by
    refine List.forall_mem_map.mpr fun text _ => ?_
    have bytes := charsBytes_member text []
    rw [List.append_nil] at bytes
    rw [bytes, List.length_append, List.length_cons]
    omega
  have inside := @length_le_separated [] (texts.map (·.chars)) each
  rw [List.length_map] at inside
  rw [List.length_append]
  omega

/-- The bytes of an object stand between braces. -/
theorem charsBytes_objectChars (texts : List MemberText) (rest : List UInt8) :
    charsBytes (objectChars texts) ++ rest =
      123 :: (charsBytes (separated [] (texts.map (·.chars))) ++ 125 :: rest) := by
  have opening : String.utf8EncodeChar '\x7b' = [123] := rfl
  have closing : String.utf8EncodeChar '\x7d' = [125] := rfl
  simp only [objectChars, charsBytes_cons, charsBytes_append, charsBytes_nil, opening, closing,
    List.append_assoc, List.cons_append, List.nil_append]

/-- Members behind a comma each may be cut at any of them. -/
theorem charsBytes_continued_append (earlier later : List MemberText) (rest : List UInt8) :
    charsBytes (continued [] ((earlier ++ later).map (·.chars))) ++ rest =
      charsBytes (continued [] (earlier.map (·.chars))) ++
        (charsBytes (continued [] (later.map (·.chars))) ++ rest) := by
  simp only [continued, List.map_append, List.flatMap_append, charsBytes_append, List.append_assoc]

/-- An object is read by one of its members, given that those in front of it can be read. -/
theorem value_objectChars {earlier : List MemberText} (later : List MemberText)
    {member : MemberText} {before : List (String × Json)} {key : String}
    (passed : List.Forall₂ (·.Spells depth ·) earlier before)
    (names : member.Names key) (rest : List UInt8) :
    ∃ bound, value (depth + 1)
        (charsBytes (objectChars (earlier ++ member :: later)) ++ rest) =
      ((fun others => ofMembers (before ++ others)) <$>
          onward (value depth) key (bound + 1 + later.length))
        (charsBytes member.beforeValue ++ (charsBytes member.value ++
          (charsBytes member.behind ++
            (charsBytes (continued [] (later.map (·.chars))) ++ 125 :: rest)))) := by
  have enough := length_le_texts (earlier ++ member :: later) (125 :: rest)
  rw [List.length_append, List.length_cons] at enough
  obtain ⟨bound, size⟩ := Nat.exists_eq_add_of_le enough
  have count : earlier.length + (later.length + 1) + bound + 1 =
      bound + 1 + later.length + 1 + earlier.length := by omega
  refine ⟨bound, ?_⟩
  have opened : value (depth + 1) (123 :: (charsBytes (separated []
      ((earlier ++ member :: later).map (·.chars))) ++ 125 :: rest)) = _ :=
    valueOver_brace (value depth) _
  -- with a comma in front of the first member, too, all of them are alike
  have commas (bound : Nat) : members (value depth) (bound + 1) true
      (charsBytes (separated [] ((earlier ++ member :: later).map (·.chars))) ++ 125 :: rest) =
    members (value depth) (bound + 1) false
      (charsBytes (continued [] ((earlier ++ member :: later).map (·.chars))) ++ 125 :: rest) := by
    cases passed with
    | nil => exact members_first_eq names later (value depth) bound
    | cons first others => exact members_first_eq first.names _ (value depth) bound
  rw [charsBytes_objectChars, opened, size, map_of_eq (commas _), charsBytes_continued_append,
    charsBytes_continued, count,
    map_of_eq (members_of_spells passed (endsNumber_cons _ (by decide)) _), Functor.map_map]
  exact map_of_eq (members_next_text names _ _ _) _

/-- If the value of the member can be read in its place, and all members behind it can be, then the
object has the members of the text. -/
theorem value_objectChars_of_ok {earlier later : List MemberText} {member : MemberText}
    {before after : List (String × Json)} {key : String} {document : Json}
    (passed : List.Forall₂ (·.Spells depth ·) earlier before)
    (names : member.Names key)
    (behind : List.Forall₂ (·.Spells depth ·) later after)
    {rest : List UInt8}
    (read : value depth (charsBytes member.value ++ (charsBytes member.behind ++
      (charsBytes (continued [] (later.map (·.chars))) ++ 125 :: rest))) =
        .ok (document, charsBytes member.behind ++
          (charsBytes (continued [] (later.map (·.chars))) ++ 125 :: rest))) :
    value (depth + 1) (charsBytes (objectChars (earlier ++ member :: later)) ++ rest) =
      .ok (ofMembers (before ++ (key, document) :: after), rest) := by
  obtain ⟨bound, equation⟩ := value_objectChars later passed names rest
  have closed : members (value depth) (bound + 1) false (125 :: rest) = .ok ([], rest) :=
    members_close rfl bound false
  have ends : EndsNumber (125 :: rest) := endsNumber_cons rest (by decide)
  have others := members_of_spells behind ends bound
  rw [map_eq_ok closed, List.append_nil] at others
  rw [← value_gap member.gapBeforeValue] at read
  have shifted : bound + 1 + later.length = bound + later.length + 1 := by omega
  rw [shifted, ← members_gap member.gapBehind, ← shifted] at others
  rw [equation, map_eq_ok (onward_of_ok read others)]

/-- If the value of the member cannot be read in its place, then neither can the object. -/
theorem value_objectChars_of_error {earlier later : List MemberText} {member : MemberText}
    {before : List (String × Json)} {key : String} {failure : Failure}
    (passed : List.Forall₂ (·.Spells depth ·) earlier before)
    (names : member.Names key) {rest : List UInt8}
    (failed : value depth (charsBytes member.value ++ (charsBytes member.behind ++
      (charsBytes (continued [] (later.map (·.chars))) ++ 125 :: rest))) = .error failure) :
    value (depth + 1) (charsBytes (objectChars (earlier ++ member :: later)) ++ rest) =
      .error failure := by
  obtain ⟨bound, equation⟩ := value_objectChars later passed names rest
  rw [← value_gap member.gapBeforeValue] at failed
  rw [equation]
  simp only [Functor.map, StateT.map, onward, bind, StateT.bind, failed, Except.bind]

end Objects

end ByteReader

/-- The text of a document that is an object. -/
def documentText (first last : List Char) (members : List MemberText) : String :=
  String.ofList (first ++ (objectChars members ++ last))

section Documents

variable {first last : List Char} (gapFirst : IsGap first) {members : List MemberText}

include gapFirst

/-- The document in a text is what its object is read as. -/
theorem parse_documentText_of_ok (gapLast : IsGap last) {document : Json}
    (read : ByteReader.value maxDepth (charsBytes (objectChars members) ++ charsBytes last) =
      .ok (document, charsBytes last)) :
    parse (textBytes (documentText first last members)) = .ok document := by
  have ended : ByteReader.peekToken (charsBytes last) = .ok (none, []) := by
    have passed := ByteReader.peekToken_gap gapLast []
    rw [List.append_nil] at passed
    exact passed
  have whole : ByteReader.document (charsBytes first ++
      (charsBytes (objectChars members) ++ charsBytes last)) = .ok (document, []) := by
    rw [← ByteReader.value_gap gapFirst] at read
    rw [ByteReader.document, ByteReader.bind_of_ok read, ByteReader.finish, bind_assoc,
      ByteReader.bind_of_ok ended]
    rfl
  rw [documentText, textBytes_ofList, charsBytes_append, charsBytes_append, parse, parseBytes,
    whole]
  rfl

/-- There is none if its object cannot be read. -/
theorem parse_documentText_of_error {failure : Failure}
    (failed : ByteReader.value maxDepth (charsBytes (objectChars members) ++ charsBytes last) =
      .error failure) :
    ∃ detail, parse (textBytes (documentText first last members)) = .error detail := by
  have whole : ByteReader.document (charsBytes first ++
      (charsBytes (objectChars members) ++ charsBytes last)) = .error failure := by
    rw [← ByteReader.value_gap gapFirst] at failed
    simp only [ByteReader.document, bind, StateT.bind, failed, Except.bind]
  rw [documentText, textBytes_ofList, charsBytes_append, charsBytes_append, parse, parseBytes,
    whole]
  exact ⟨_, rfl⟩

end Documents

end RecordCoding.Json
