import RecordCoding.Proofs.Json.Values

/-!
# Reading arrays and objects

Elements and members are read one after the other, from what separates them up to the closing
bracket. Each step takes one piece with the gap in front of it; as every piece takes a byte, their
number never exceeds the bound.
-/

namespace RecordCoding.Json.ByteReader

section Elements

variable {read : ByteReader Json} {bytes : List UInt8}

/-- A closing bracket ends an array. -/
theorem elements_close {rest : List UInt8}
    (seen : peekToken bytes = .ok (some ']', 93 :: rest)) (bound : Nat) (isFirst : Bool) :
    elements read (bound + 1) isFirst bytes = .ok ([], rest) := by
  rw [elements, bind_of_ok seen]
  rfl

variable {c : Char} {ahead behind rest : List UInt8} {element : Json} {others : List Json}
  {bound : Nat}

/-- The first element of an array is read, and those behind it. -/
theorem elements_first (seen : peekToken bytes = .ok (some c, ahead)) (more : c ≠ ']')
    (apart : c ≠ ',') (reads : read ahead = .ok (element, behind))
    (onward : elements read bound false behind = .ok (others, rest)) :
    elements read (bound + 1) true bytes = .ok (element :: others, rest) := by
  rw [elements, bind_of_ok seen]
  simp only [if_true]
  rw [bind_of_ok reads, bind_of_ok onward]
  rfl

/-- Behind a comma the next element is read, and those behind it. -/
theorem elements_next {after : List UInt8}
    (separates : peekToken bytes = .ok (some ',', 44 :: after))
    (seen : peekToken after = .ok (some c, ahead)) (more : c ≠ ']')
    (reads : read ahead = .ok (element, behind))
    (onward : elements read bound false behind = .ok (others, rest)) :
    elements read (bound + 1) false bytes = .ok (element :: others, rest) := by
  have passed : skip (44 :: after) = .ok ((), after) := rfl
  rw [elements, bind_of_ok separates]
  simp only [Bool.false_eq_true, if_false]
  rw [bind_of_ok passed, bind_of_ok seen]
  simp only
  rw [bind_of_ok reads, bind_of_ok onward]
  rfl

end Elements

section Brackets

variable {read : ByteReader Json} {between last : List Char} (blank : Blank between)
  (blankLast : Blank last)

/-- What follows a piece does not go on with a number. -/
theorem endsNumber_continued (blankLast : Blank last) (pieces : List (List Char)) {close : UInt8}
    (closes : close ∈ [44, 93, 125, 32, 10]) (rest : List UInt8) :
    EndsNumber (charsBytes (continued between pieces) ++ (charsBytes last ++ close :: rest)) := by
  cases pieces with
  | nil => exact endsNumber_blank blankLast (endsNumber_cons rest closes)
  | cons first others => exact endsNumber_cons _ (by decide)

section

variable {chars : List Char} {element : Json} (begins : BeginsValue chars)
  (reads : Reads read chars element) {behind rest : List UInt8} (ends : EndsNumber behind)
  {bound : Nat} {others : List Json}
  (onward : elements read bound false behind = .ok (others, rest))

include blank begins reads ends onward

/-- An element that is the first of an array is read, whatever the gap in front of it. -/
theorem elements_first_chars :
    elements read (bound + 1) true (charsBytes (between ++ chars) ++ behind) =
      .ok (element :: others, rest) := by
  obtain ⟨c, more, rfl, mark, closes, separates⟩ := begins
  rw [charsBytes_append, List.append_assoc]
  exact elements_first (peekToken_mark mark blank more behind) closes separates
    (reads [] behind blank_nil ends) onward

/-- An element behind a comma is read, whatever the gap in front of it. -/
theorem elements_next_chars :
    elements read (bound + 1) false (charsBytes (',' :: (between ++ chars)) ++ behind) =
      .ok (element :: others, rest) := by
  obtain ⟨c, more, rfl, mark, closes, -⟩ := begins
  have comma : IsMark ',' := ⟨rfl, rfl, rfl⟩
  have separates := peekToken_mark comma blank_nil (between ++ c :: more) behind
  have seen := peekToken_mark mark blank more behind
  rw [← List.append_assoc, ← charsBytes_append] at seen
  exact elements_next separates seen closes (reads [] behind blank_nil ends) onward

end

include blank blankLast

/-- Elements behind a first one are read one after the other, up to the closing bracket. -/
theorem elements_continued {pieces : List Piece}
    (each : ∀ piece ∈ pieces, BeginsValue piece.chars ∧ Reads read piece.chars piece.value)
    (bound : Nat) (enough : pieces.length ≤ bound) (rest : List UInt8) :
    elements read (bound + 1) false (charsBytes (continued between (pieces.map (·.chars))) ++
      (charsBytes last ++ 93 :: rest)) = .ok (pieces.map (·.value), rest) := by
  induction pieces generalizing bound with
  | nil => exact elements_close (peekToken_mark ⟨rfl, rfl, rfl⟩ blankLast [] rest) bound false
  | cons piece others ih =>
    obtain ⟨⟨begins, reads⟩, behind⟩ := List.forall_mem_cons.mp each
    cases bound with
    | zero => cases enough
    | succ bound =>
      have onward := ih behind bound (Nat.le_of_succ_le_succ enough)
      have ends := @endsNumber_continued between last blankLast (others.map (·.chars)) 93
        (by decide) rest
      have all := elements_next_chars blank begins reads ends onward
      rw [← List.append_assoc, ← charsBytes_append] at all
      exact all

/-- All elements of an array are read, up to the closing bracket. -/
theorem elements_separated {first : List Char} (blankFirst : Blank first) {pieces : List Piece}
    (each : ∀ piece ∈ pieces, BeginsValue piece.chars ∧ Reads read piece.chars piece.value)
    (bound : Nat) (enough : pieces.length ≤ bound) (rest : List UInt8) :
    elements read (bound + 1) true (charsBytes first ++
      (charsBytes (separated between (pieces.map (·.chars))) ++ (charsBytes last ++ 93 :: rest))) =
        .ok (pieces.map (·.value), rest) := by
  cases pieces with
  | nil =>
    have close : IsMark ']' := ⟨rfl, rfl, rfl⟩
    have closed := peekToken_mark close (blankFirst.append blankLast) [] rest
    rw [charsBytes_append, List.append_assoc] at closed
    exact elements_close closed bound true
  | cons piece others =>
    obtain ⟨⟨begins, reads⟩, behind⟩ := List.forall_mem_cons.mp each
    cases bound with
    | zero => cases enough
    | succ bound =>
      have onward := elements_continued blank blankLast behind bound
        (Nat.le_of_succ_le_succ enough) rest
      have ends := @endsNumber_continued between last blankLast (others.map (·.chars)) 93
        (by decide) rest
      have all := elements_first_chars blankFirst begins reads ends onward
      simp only [charsBytes_append, List.append_assoc] at all
      simpa only [separated, List.map_cons, charsBytes_append, List.append_assoc] using all

end Brackets

section Members

variable {read : ByteReader Json} {bytes : List UInt8}

/-- A closing brace ends an object. -/
theorem members_close {rest : List UInt8}
    (seen : peekToken bytes = .ok (some '\x7d', 125 :: rest)) (bound : Nat) (isFirst : Bool) :
    members read (bound + 1) isFirst bytes = .ok ([], rest) := by
  rw [members, bind_of_ok seen]
  rfl

variable {after afterName afterColon behind rest : List UInt8} {name : String}
  {value : Json} {others : List (String × Json)} {bound : Nat}
  (named : string after = .ok (name, afterName))
  (separated : colon afterName = .ok ((), afterColon))
  (reads : read afterColon = .ok (value, behind))
  (onward : members read bound false behind = .ok (others, rest))

include named separated reads onward

/-- A member is read from its opening quote, and so are those behind it. -/
theorem member_onward :
    (do
      skip
      let name ← string
      colon
      let member ← read
      pure ((name, member) :: (← members read bound false)) : ByteReader _) (34 :: after) =
        .ok ((name, value) :: others, rest) := by
  have passed : skip (34 :: after) = .ok ((), after) := rfl
  rw [bind_of_ok passed, bind_of_ok named, bind_of_ok separated, bind_of_ok reads,
    bind_of_ok onward]
  rfl

/-- The first member of an object is read, and those behind it. -/
theorem members_first (seen : peekToken bytes = .ok (some '"', 34 :: after)) :
    members read (bound + 1) true bytes = .ok ((name, value) :: others, rest) := by
  rw [members, bind_of_ok seen]
  exact member_onward named separated reads onward

/-- Behind a comma the next member is read, and those behind it. -/
theorem members_next {ahead : List UInt8}
    (separates : peekToken bytes = .ok (some ',', 44 :: ahead))
    (seen : peekToken ahead = .ok (some '"', 34 :: after)) :
    members read (bound + 1) false bytes = .ok ((name, value) :: others, rest) := by
  have skipped : skip (44 :: ahead) = .ok ((), ahead) := rfl
  rw [members, bind_of_ok separates]
  change (skip >>= _) (44 :: ahead) = _
  rw [bind_of_ok skipped, bind_of_ok seen]
  exact member_onward named separated reads onward

end Members

section Braces

variable {read : ByteReader Json} {between gap last : List Char} (blank : Blank between)
  (blankGap : Blank gap) (blankLast : Blank last)

/-- A colon is passed over. -/
theorem colon_chars (chars : List Char) (behind : List UInt8) :
    colon (charsBytes (':' :: chars) ++ behind) = .ok ((), charsBytes chars ++ behind) := by
  have mark : IsMark ':' := ⟨rfl, rfl, rfl⟩
  have seen := peekToken_mark mark blank_nil chars behind
  rw [charsBytes_nil, List.nil_append] at seen
  rw [colon, bind_of_ok seen]
  rfl

/-- The bytes of a member are its name between quotes, a colon, and its value. -/
theorem charsBytes_written (gap : List Char) (piece : NamedPiece) (behind : List UInt8) :
    charsBytes (piece.written gap) ++ behind =
      34 :: (charsBytes (piece.name.toList.flatMap escapeChar) ++
        34 :: (charsBytes (':' :: (gap ++ piece.chars)) ++ behind)) := by
  rw [NamedPiece.written, charsBytes_append, List.append_assoc, charsBytes_stringChars]

/-- Behind blanks the quote of a member is seen. -/
theorem peekToken_written (blank : Blank between) (gap : List Char) (piece : NamedPiece)
    (behind : List UInt8) :
    peekToken (charsBytes between ++ (charsBytes (piece.written gap) ++ behind)) =
      .ok (some '"', 34 :: (charsBytes (piece.name.toList.flatMap escapeChar) ++
        34 :: (charsBytes (':' :: (gap ++ piece.chars)) ++ behind))) := by
  have quote : IsMark '"' := ⟨rfl, rfl, rfl⟩
  obtain ⟨others, begins⟩ : ∃ others, piece.written gap = '"' :: others := ⟨_, rfl⟩
  have seen := peekToken_mark quote blank others behind
  rw [← begins] at seen
  rw [seen, charsBytes_written]

section

variable {piece : NamedPiece} (reads : Reads read piece.chars piece.value)
  {behind rest : List UInt8} (ends : EndsNumber behind) {bound : Nat}
  {others : List (String × Json)} (onward : members read bound false behind = .ok (others, rest))

include blank blankGap reads ends onward

/-- A member that is the first of an object is read, whatever the gap in front of it. -/
theorem members_first_chars :
    members read (bound + 1) true (charsBytes (between ++ piece.written gap) ++ behind) =
      .ok ((piece.name, piece.value) :: others, rest) := by
  have value := reads gap behind blankGap ends
  rw [← List.append_assoc, ← charsBytes_append] at value
  rw [charsBytes_append, List.append_assoc]
  exact members_first (string_stringChars piece.name _) (colon_chars _ behind) value onward
    (peekToken_written blank gap piece behind)

/-- A member behind a comma is read, whatever the gap in front of it. -/
theorem members_next_chars :
    members read (bound + 1) false
      (charsBytes (',' :: (between ++ piece.written gap)) ++ behind) =
        .ok ((piece.name, piece.value) :: others, rest) := by
  have comma : IsMark ',' := ⟨rfl, rfl, rfl⟩
  have separates := peekToken_mark comma blank_nil (between ++ piece.written gap) behind
  have value := reads gap behind blankGap ends
  rw [← List.append_assoc, ← charsBytes_append] at value
  have seen := peekToken_written blank gap piece behind
  rw [← List.append_assoc, ← charsBytes_append] at seen
  exact members_next (string_stringChars piece.name _) (colon_chars _ behind) value onward
    separates seen

end

include blank blankGap blankLast

/-- Members behind a first one are read one after the other, up to the closing brace. -/
theorem members_continued {pieces : List NamedPiece}
    (each : ∀ piece ∈ pieces, Reads read piece.chars piece.value)
    (bound : Nat) (enough : pieces.length ≤ bound) (rest : List UInt8) :
    members read (bound + 1) false (charsBytes (continued between (pieces.map (·.written gap))) ++
      (charsBytes last ++ 125 :: rest)) =
        .ok (pieces.map fun piece => (piece.name, piece.value), rest) := by
  have close : IsMark '\x7d' := ⟨rfl, rfl, rfl⟩
  induction pieces generalizing bound with
  | nil => exact members_close (peekToken_mark close blankLast [] rest) bound false
  | cons piece others ih =>
    obtain ⟨reads, behind⟩ := List.forall_mem_cons.mp each
    cases bound with
    | zero => cases enough
    | succ bound =>
      have onward := ih behind bound (Nat.le_of_succ_le_succ enough)
      have ends := @endsNumber_continued between last blankLast (others.map (·.written gap)) 125
        (by decide) rest
      have all := members_next_chars blank blankGap reads ends onward
      rw [← List.append_assoc, ← charsBytes_append] at all
      exact all

/-- All members of an object are read, up to the closing brace. -/
theorem members_separated {first : List Char} (blankFirst : Blank first)
    {pieces : List NamedPiece} (each : ∀ piece ∈ pieces, Reads read piece.chars piece.value)
    (bound : Nat) (enough : pieces.length ≤ bound) (rest : List UInt8) :
    members read (bound + 1) true (charsBytes first ++
      (charsBytes (separated between (pieces.map (·.written gap))) ++
        (charsBytes last ++ 125 :: rest))) =
          .ok (pieces.map fun piece => (piece.name, piece.value), rest) := by
  have close : IsMark '\x7d' := ⟨rfl, rfl, rfl⟩
  cases pieces with
  | nil =>
    have closed := peekToken_mark close (blankFirst.append blankLast) [] rest
    rw [charsBytes_append, List.append_assoc] at closed
    exact members_close closed bound true
  | cons piece others =>
    obtain ⟨reads, behind⟩ := List.forall_mem_cons.mp each
    cases bound with
    | zero => cases enough
    | succ bound =>
      have onward := members_continued blank blankGap blankLast behind bound
        (Nat.le_of_succ_le_succ enough) rest
      have ends := @endsNumber_continued between last blankLast (others.map (·.written gap)) 125
        (by decide) rest
      have all := members_first_chars blankFirst blankGap reads ends onward
      simp only [charsBytes_append, List.append_assoc] at all
      simpa only [separated, List.map_cons, charsBytes_append, List.append_assoc] using all

end Braces

/-- Every piece behind a first one takes a byte. -/
theorem length_le_continued (between : List Char) (pieces : List (List Char)) :
    pieces.length ≤ (charsBytes (continued between pieces)).length := by
  induction pieces with
  | nil => exact Nat.le_refl 0
  | cons first rest ih =>
    have bytes : charsBytes (continued between (first :: rest)) =
        44 :: (charsBytes (between ++ first) ++ charsBytes (continued between rest)) := by
      rw [continued, List.flatMap_cons, charsBytes_append]
      rfl
    rw [bytes, List.length_cons, List.length_cons, List.length_append]
    omega

/-- Every piece takes a byte. -/
theorem length_le_separated {between : List Char} {pieces : List (List Char)}
    (each : ∀ chars ∈ pieces, 0 < (charsBytes chars).length) :
    pieces.length ≤ (charsBytes (separated between pieces)).length := by
  cases pieces with
  | nil => exact Nat.le_refl 0
  | cons first rest =>
    have behind := length_le_continued between rest
    have here := each first List.mem_cons_self
    rw [separated, charsBytes_append, List.length_append, List.length_cons]
    omega

/-- A member takes a byte, if only for its quote. -/
theorem length_written_pos (gap : List Char) (piece : NamedPiece) :
    0 < (charsBytes (piece.written gap)).length := by
  have bytes := charsBytes_written gap piece []
  rw [List.append_nil] at bytes
  rw [bytes]
  exact Nat.succ_pos _

/-- So what stands between brackets has no more pieces than bytes. -/
theorem length_le_bracketed {pieces : List (List Char)}
    (each : ∀ chars ∈ pieces, 0 < (charsBytes chars).length) (first between last : List Char)
    (rest : List UInt8) :
    pieces.length ≤ (charsBytes first ++
      (charsBytes (separated between pieces) ++ (charsBytes last ++ rest))).length := by
  have inside := @length_le_separated between pieces each
  simp only [List.length_append]
  omega

/-- An array is read by its elements. -/
theorem valueOver_bracket (read : ByteReader Json) (bytes : List UInt8) :
    valueOver (some read) (91 :: bytes) =
      (.array <$> elements read (bytes.length + 1) true) bytes := rfl

/-- An object is read by its members. -/
theorem valueOver_brace (read : ByteReader Json) (bytes : List UInt8) :
    valueOver (some read) (123 :: bytes) =
      (ofMembers <$> members read (bytes.length + 1) true) bytes := rfl

/-- The bytes of what stands between brackets. -/
theorem charsBytes_bracketed (opening closing : Char) (first inner last : List Char)
    (rest : List UInt8) :
    charsBytes (opening :: (first ++ (inner ++ (last ++ [closing])))) ++ rest =
      String.utf8EncodeChar opening ++ (charsBytes first ++ (charsBytes inner ++ (charsBytes last ++
        (String.utf8EncodeChar closing ++ rest)))) := by
  simp only [charsBytes_cons, charsBytes_append, charsBytes_nil, List.append_assoc,
    List.nil_append]

section

variable {depth : Nat} {first between last : List Char} (blankFirst : Blank first)
  (blank : Blank between) (blankLast : Blank last)

include blankFirst blank blankLast

/-- An array is read back from a form whose elements are. -/
theorem reads_array {pieces : List Piece}
    (each : ∀ piece ∈ pieces,
      BeginsValue piece.chars ∧ Reads (value depth) piece.chars piece.value) :
    Reads (value (depth + 1))
      ('[' :: (first ++ (separated between (pieces.map (·.chars)) ++ (last ++ [']']))))
      (.array (pieces.map (·.value))) := by
  refine reads_value ⟨'[', _, rfl, ⟨rfl, rfl, rfl⟩, by decide, by decide⟩ fun rest _ => ?_
  have enough := @length_le_bracketed (pieces.map (·.chars))
    (List.forall_mem_map.mpr fun piece member => (each piece member).1.length_pos)
    first between last (93 :: rest)
  rw [List.length_map] at enough
  rw [charsBytes_bracketed]
  refine (valueOver_bracket (value depth) _).trans ?_
  exact map_eq_ok (elements_separated blank blankLast blankFirst each _ enough rest) Json.array

/-- An object is read back from a form whose members are. -/
theorem reads_object {colon : List Char} (blankColon : Blank colon) {pieces : List NamedPiece}
    (each : ∀ piece ∈ pieces, Reads (value depth) piece.chars piece.value) :
    Reads (value (depth + 1))
      ('\x7b' :: (first ++ (separated between (pieces.map (·.written colon)) ++
        (last ++ ['\x7d']))))
      (ofMembers (pieces.map fun piece => (piece.name, piece.value))) := by
  refine reads_value ⟨'\x7b', _, rfl, ⟨rfl, rfl, rfl⟩, by decide, by decide⟩ fun rest _ => ?_
  have enough := @length_le_bracketed (pieces.map (·.written colon))
    (List.forall_mem_map.mpr fun piece _ => length_written_pos colon piece)
    first between last (125 :: rest)
  rw [List.length_map] at enough
  rw [charsBytes_bracketed]
  refine (valueOver_brace (value depth) _).trans ?_
  exact map_eq_ok (members_separated blank blankColon blankLast blankFirst each _ enough rest)
    ofMembers

end

end RecordCoding.Json.ByteReader
