import RecordCoding.Proofs.CaseStyle.Separated

/-!
# Words told apart by capitals

The styles `camelCase` and `PascalCase` put nothing between words, so that only a capital behind a
lowercase letter shows where a word ends. The end of a word is seen if the next one begins with a
letter and the word itself ends in a letter that is not its capital. Reading what these styles write
joins neighbouring words exactly where it is not seen, and cuts nowhere else.
-/

namespace RecordCoding

/-- Whether a word begins with a letter. -/
def startsWithLetter (word : String) : Bool := word.toList.head?.any Char.isAlpha

/-- Whether a word ends in a letter. -/
def endsWithLetter (word : String) : Bool := word.toList.getLast?.any Char.isAlpha

namespace CaseStyle

/-- The styles that write words without separators, a capital at the beginning of each. -/
def capitalizing : List CaseStyle := [camel, pascal]

/-- Whether a style that puts nothing between words still shows that a word ends where the next one
begins. The last letter of a word must not be its capital; the first word has none in
`camelCase`. -/
def showsEnd (style : CaseStyle) (index : Nat) (word next : String) : Bool :=
  startsWithLetter next && endsWithLetter word && (style == camel && index == 0 || 2 ≤ word.length)

/-- Capitals begin all words, or all but the first one. -/
theorem layout_of_capitalizing {style : CaseStyle} (member : style ∈ capitalizing) :
    ∃ casing, style.layout = some ([], casing) ∧ ∀ index word,
      casing.write unicodeLetters index word =
        if style == camel && index == 0 then word else unicodeLetters.capitalize word := by
  rcases List.mem_pair.mp member with rfl | rfl
  · refine ⟨.camel, rfl, fun index word => ?_⟩
    simp [Casing.write]
  · exact ⟨.capitalized, rfl, fun index word => rfl⟩

end CaseStyle

namespace PlainWord

variable {word : List Char}

/-- A word begins with a capital if it begins with a letter. -/
theorem isUpper_head_capitalize (plain : PlainWord word) :
    ∀ c ∈ (unicodeLetters.capitalize word).head?,
      unicodeLetters.isUpper c = word.head?.any Char.isAlpha := by
  obtain ⟨first, rest, rfl⟩ := List.exists_cons_of_ne_nil plain.present
  intro c head
  rw [plain.capitalize_eq] at head
  obtain rfl : first.toUpper = c := by simpa using head
  exact (plain.plain first List.mem_cons_self).isUpper_toUpper

/-- The last character of a word is lowercase if it is a letter. -/
theorem isLower_getLast (plain : PlainWord word) :
    ∀ c ∈ word.getLast?, unicodeLetters.isLower c = word.getLast?.any Char.isAlpha := by
  intro c last
  rw [Option.mem_def.mp last]
  exact (plain.plain c (List.mem_of_getLast? last)).isLower

/-- The last character of a capitalized word is lowercase if it is a letter other than the
capital. -/
theorem isLower_getLast_capitalize (plain : PlainWord word) :
    ∀ c ∈ (unicodeLetters.capitalize word).getLast?,
      unicodeLetters.isLower c = (word.getLast?.any Char.isAlpha && decide (2 ≤ word.length)) := by
  obtain ⟨first, rest, rfl⟩ := List.exists_cons_of_ne_nil plain.present
  intro c last
  rw [plain.capitalize_eq] at last
  cases rest with
  | nil =>
    obtain rfl : first.toUpper = c := by simpa using last
    simpa using (plain.plain first List.mem_cons_self).isLower_toUpper
  | cons second others =>
    have same : c ∈ (first :: second :: others).getLast? := by simpa using last
    rw [plain.isLower_getLast c same]
    simp

end PlainWord

/-- What a casing makes of a word, given with its index. -/
def Casing.spelling (casing : Casing) (entry : String × Nat) : List Char :=
  casing.write unicodeLetters entry.2 entry.1.toList

namespace CaseStyle

variable {style : CaseStyle} {identifier : String}

/-- A word ends between two spellings exactly if that is shown. -/
theorem continues_spellings {casing : Casing} (written : ∀ index word,
      casing.write unicodeLetters index word =
        if style == camel && index == 0 then word else unicodeLetters.capitalize word)
    {word next : String} (plain : PlainWord word.toList) (plainToo : PlainWord next.toList)
    (index : Nat) : ∀ before ∈ (casing.write unicodeLetters index word.toList).getLast?,
      ∀ c ∈ (casing.write unicodeLetters (index + 1) next.toList).head?,
        unicodeLetters.continues before c = !style.showsEnd index word next := by
  intro before last c first
  have upper : unicodeLetters.isUpper c = startsWithLetter next := by
    rw [written] at first
    exact plainToo.isUpper_head_capitalize c (by simpa using first)
  have lower : unicodeLetters.isLower before =
      (endsWithLetter word && (style == camel && index == 0 || decide (2 ≤ word.length))) := by
    rw [written] at last
    by_cases small : (style == camel && index == 0) = true
    · rw [if_pos small] at last
      rw [plain.isLower_getLast before last, small]
      simp [endsWithLetter]
    · rw [if_neg small] at last
      rw [plain.isLower_getLast_capitalize before last, Bool.eq_false_iff.mpr small,
        String.length_toList]
      simp [endsWithLetter]
  rw [LetterRules.continues, upper, lower, showsEnd, Bool.and_comm, Bool.and_assoc]

/-- The words of ASCII identifiers are plain. -/
theorem plainWord_of_mem_identifierWords (ascii : Text.IsAscii identifier.toList) {word : String}
    (member : word ∈ identifierWords identifier) : PlainWord word.toList := by
  obtain ⟨chars, here, rfl⟩ := List.mem_map.mp member
  rw [String.toList_ofList]
  exact plainWord_of_mem_words ascii here

/-- A word, given with its index, is spelled. -/
theorem spells_spelling (casing : Casing) {words : List String}
    (plain : ∀ word ∈ words, PlainWord word.toList) :
    ∀ entry ∈ words.zipIdx, Spells (casing.spelling entry) entry.1.toList :=
  fun entry member =>
    (plain entry.1 (List.fst_mem_of_mem_zipIdx member)).spells_write casing entry.2

/-- Without separators the spellings of the words follow each other. -/
theorem applyChars_eq_flatMap {casing : Casing} (layout : style.layout = some ([], casing))
    (identifier : String) :
    style.applyChars unicodeLetters identifier.toList =
      (identifierWords identifier).zipIdx.flatMap casing.spelling := by
  rw [applyChars_of_layout layout, intercalate_nil_left, Casing.spellings,
    List.mapIdx_eq_zipIdx_map, identifierWords, List.zipIdx_map, List.flatMap_map]
  simp [List.flatMap_def, Casing.spelling]

/-- Cutting before the capitals that follow lowercase letters, word by word: neighbours stay joined
where it is not shown that the first of them ends. -/
theorem splitBy_spellings {casing : Casing} (written : ∀ index word,
      casing.write unicodeLetters index word =
        if style == camel && index == 0 then word else unicodeLetters.capitalize word)
    {words : List String} (plain : ∀ word ∈ words, PlainWord word.toList) :
    (words.zipIdx.flatMap casing.spelling).splitBy unicodeLetters.continues =
      (words.zipIdx.splitBy fun entry next => !style.showsEnd entry.2 entry.1 next.1).map
        (List.flatMap casing.spelling) := by
  have spells := spells_spelling casing plain
  refine splitBy_flatMap (fun entry member => (spells entry member).present)
    (fun entry member => (spells entry member).uncut.whole) ?_
  -- Neighbours have consecutive indices, so that the second of them is never the first word.
  rw [List.isChain_iff_getElem]
  intro i inside
  have here : i + 1 < words.length := by simpa using inside
  have ends := continues_spellings written (plain words[i] (List.getElem_mem _))
    (plain words[i + 1] (List.getElem_mem _)) i
  simpa [Casing.spelling] using ends

/-- Spellings in a row have no separators. -/
theorem solid_flatMap_spelling {casing : Casing} {run : List (String × Nat)}
    (spells : ∀ entry ∈ run, Spells (casing.spelling entry) entry.1.toList) :
    ∀ c ∈ run.flatMap casing.spelling, isWordSeparator c = false := by
  intro c within
  obtain ⟨entry, here, inside⟩ := List.mem_flatMap.mp within
  exact (spells entry here).uncut.solid c inside

/-- Spellings in a row are the words in a row in lowercase. -/
theorem lowered_flatMap_spelling {casing : Casing} {run : List (String × Nat)}
    (spells : ∀ entry ∈ run, Spells (casing.spelling entry) entry.1.toList) :
    String.ofList (unicodeLetters.lowered (run.flatMap casing.spelling)) =
      String.join (run.map Prod.fst) := by
  apply String.toList_inj.mp
  rw [String.toList_ofList, String.toList_join, List.flatMap_map, LetterRules.lowered,
    List.flatMap_assoc]
  exact List.flatMap_congr fun entry inside => (spells entry inside).lowered

/-- Neighbouring words are joined where it is not shown that the first of them ends. -/
theorem identifierWords_apply_capitalizing (member : style ∈ capitalizing)
    (ascii : Text.IsAscii identifier.toList) :
    identifierWords (style.apply identifier) =
      ((identifierWords identifier).zipIdx.splitBy fun entry next =>
        !style.showsEnd entry.2 entry.1 next.1).map fun run => String.join (run.map Prod.fst) := by
  obtain ⟨casing, layout, written⟩ := layout_of_capitalizing member
  have plain : ∀ word ∈ identifierWords identifier, PlainWord word.toList :=
    fun _ => plainWord_of_mem_identifierWords ascii
  have spells := spells_spelling casing plain
  rw [identifierWords, toList_apply, LetterRules.words_eq_cutWords Text.toLower_ne_nil,
    applyChars_eq_flatMap layout, LetterRules.cutWords_of_solid (solid_flatMap_spelling spells),
    splitBy_spellings written plain, List.map_map, List.map_map]
  refine List.map_congr_left fun run cut => lowered_flatMap_spelling fun entry inside => ?_
  exact spells entry (mem_of_mem_splitBy cut inside)

/-- The words are all there again exactly if every end of a word is shown. -/
theorem identifierWords_apply_eq_iff (member : style ∈ capitalizing)
    (ascii : Text.IsAscii identifier.toList) :
    identifierWords (style.apply identifier) = identifierWords identifier ↔
      ∀ i (inside : i + 1 < (identifierWords identifier).length),
        style.showsEnd i (identifierWords identifier)[i] (identifierWords identifier)[i + 1] =
          true := by
  have shown : ((identifierWords identifier).zipIdx.IsChain fun entry next =>
      (!style.showsEnd entry.2 entry.1 next.1) = false) ↔
      ∀ i (inside : i + 1 < (identifierWords identifier).length),
        style.showsEnd i (identifierWords identifier)[i] (identifierWords identifier)[i + 1] =
          true := by
    rw [List.isChain_iff_getElem]
    simp
  rw [← shown, identifierWords_apply_capitalizing member ascii]
  constructor
  · intro same
    exact apart_of_length_splitBy (by simpa using congrArg List.length same)
  · intro apart
    rw [splitBy_of_apart apart, List.map_map]
    have single : ((fun run => String.join (run.map Prod.fst)) ∘ ([·])) =
        (Prod.fst : String × Nat → String) := by
      funext entry
      simp
    rw [single, List.zipIdx_map_fst]

/-- Both styles with capitals write an ASCII identifier so that its words are read back exactly if
every word but the first begins with a letter, every word but the last ends in one, and, apart from
the first word in `camelCase`, every word but the last has two characters or more. If not, the words
around each end that violates this are joined, and nothing else happens. -/
theorem readsCapitals (identifier : String) (ascii : Text.IsAscii identifier.toList) :
    (identifierWords (camel.apply identifier) = identifierWords identifier ↔
      ∀ i (inside : i + 1 < (identifierWords identifier).length),
        startsWithLetter (identifierWords identifier)[i + 1] = true ∧
        endsWithLetter (identifierWords identifier)[i] = true ∧
        (i = 0 ∨ 2 ≤ (identifierWords identifier)[i].length)) ∧
    (identifierWords (pascal.apply identifier) = identifierWords identifier ↔
      ∀ i (inside : i + 1 < (identifierWords identifier).length),
        startsWithLetter (identifierWords identifier)[i + 1] = true ∧
        endsWithLetter (identifierWords identifier)[i] = true ∧
        2 ≤ (identifierWords identifier)[i].length) ∧
    ∀ style ∈ capitalizing, identifierWords (style.apply identifier) =
      ((identifierWords identifier).zipIdx.splitBy fun entry next =>
        !style.showsEnd entry.2 entry.1 next.1).map fun run => String.join (run.map Prod.fst) := by
  refine ⟨?_, ?_, fun style member => identifierWords_apply_capitalizing member ascii⟩
  · rw [identifierWords_apply_eq_iff (by decide) ascii]
    simp [showsEnd, and_assoc]
  · rw [identifierWords_apply_eq_iff (by decide) ascii]
    simp [showsEnd, and_assoc]

/-- Words are joined behind a digit and behind a single character; the first word of `camelCase` is
not a capital. -/
theorem readsCapitals_assorted :
    Text.IsAscii "a_id_x2_name_b_ok".toList ∧
    identifierWords (camel.apply "a_id_x2_name_b_ok") = ["a", "id", "x2name", "bok"] ∧
    identifierWords (pascal.apply "a_id_x2_name_b_ok") = ["aid", "x2name", "bok"] := by
  have ascii : Text.IsAscii "a_id_x2_name_b_ok".toList := by decide
  obtain ⟨-, -, joined⟩ := readsCapitals "a_id_x2_name_b_ok" ascii
  refine ⟨ascii, ?_, ?_⟩
  · rw [joined camel (by decide)]
    decide
  · rw [joined pascal (by decide)]
    decide

end CaseStyle

end RecordCoding
