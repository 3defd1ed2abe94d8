import RecordCoding.Proofs.CaseStyle.Cutting
import RecordCoding.Proofs.Traversal

/-!
# Spellings of words

The words of an ASCII identifier consist of plain characters: ASCII, no separators and no capitals.
A casing writes a word as a spelling of it, that is as something which is cut into no further words
and is the word again in lowercase. This is what is known of the output of a style before its
spellings are joined.
-/

namespace RecordCoding

namespace Text

/-- Characters of ASCII only. -/
def IsAscii (chars : List Char) : Prop := ∀ c ∈ chars, c.toNat < 128

instance (chars : List Char) : Decidable (IsAscii chars) :=
  List.decidableBAll (fun c : Char => c.toNat < 128) chars

/-- What holds of 128 characters one by one holds of ASCII. -/
theorem forall_ascii {p : Char → Prop} (each : ∀ n : Fin 128, p (Char.ofNat n)) {c : Char}
    (ascii : c.toNat < 128) : p c := by
  have here := each ⟨c.toNat, ascii⟩
  rwa [Char.ofNat_toNat] at here

end Text

/-- A character as it stands in the words of ASCII identifiers. -/
structure PlainChar (c : Char) : Prop where
  ascii : c.toNat < 128
  solid : isWordSeparator c = false
  small : c.toLower = c

/-- A character that is no separator is plain in lowercase. -/
theorem plainChar_toLower {c : Char} (ascii : c.toNat < 128) (solid : isWordSeparator c = false) :
    PlainChar c.toLower := by
  have lowercase : c.toLower.toNat < 128 ∧ isWordSeparator c.toLower = isWordSeparator c ∧
      c.toLower.toLower = c.toLower :=
    Text.forall_ascii (p := fun c => c.toLower.toNat < 128 ∧
      isWordSeparator c.toLower = isWordSeparator c ∧ c.toLower.toLower = c.toLower)
      (by decide) ascii
  exact ⟨lowercase.1, lowercase.2.1.trans solid, lowercase.2.2⟩

namespace PlainChar

variable {c : Char}

/-- What holds of the plain ones among 128 characters holds of all plain characters. -/
private theorem forall_plain {p : Char → Prop}
    (each : ∀ n : Fin 128, isWordSeparator (Char.ofNat n) = false →
      (Char.ofNat n).toLower = Char.ofNat n → p (Char.ofNat n)) (plain : PlainChar c) : p c :=
  Text.forall_ascii (p := fun c => isWordSeparator c = false → c.toLower = c → p c) each
    plain.ascii plain.solid plain.small

theorem lower (plain : PlainChar c) : unicodeLetters.lower c = [c] :=
  forall_plain (p := fun c => unicodeLetters.lower c = [c]) (by decide) plain

theorem upper (plain : PlainChar c) : unicodeLetters.upper c = [c.toUpper] :=
  if_pos plain.ascii

theorem isUpper (plain : PlainChar c) : unicodeLetters.isUpper c = false :=
  forall_plain (p := fun c => unicodeLetters.isUpper c = false) (by decide) plain

theorem isLower (plain : PlainChar c) : unicodeLetters.isLower c = c.isAlpha :=
  forall_plain (p := fun c => unicodeLetters.isLower c = c.isAlpha) (by decide) plain

theorem ascii_toUpper (plain : PlainChar c) : c.toUpper.toNat < 128 :=
  forall_plain (p := fun c => c.toUpper.toNat < 128) (by decide) plain

theorem solid_toUpper (plain : PlainChar c) : isWordSeparator c.toUpper = false :=
  forall_plain (p := fun c => isWordSeparator c.toUpper = false) (by decide) plain

theorem lower_toUpper (plain : PlainChar c) : unicodeLetters.lower c.toUpper = [c] :=
  forall_plain (p := fun c => unicodeLetters.lower c.toUpper = [c]) (by decide) plain

theorem isUpper_toUpper (plain : PlainChar c) : unicodeLetters.isUpper c.toUpper = c.isAlpha :=
  forall_plain (p := fun c => unicodeLetters.isUpper c.toUpper = c.isAlpha) (by decide) plain

theorem isLower_toUpper (plain : PlainChar c) : unicodeLetters.isLower c.toUpper = false :=
  forall_plain (p := fun c => unicodeLetters.isLower c.toUpper = false) (by decide) plain

end PlainChar

/-- A word of an ASCII identifier. -/
structure PlainWord (word : List Char) : Prop where
  present : word ≠ []
  plain : ∀ c ∈ word, PlainChar c

/-- The words of ASCII identifiers are plain. -/
theorem plainWord_of_mem_words {identifier word : List Char} (ascii : Text.IsAscii identifier)
    (member : word ∈ unicodeLetters.words identifier) : PlainWord word := by
  rw [LetterRules.words_eq_cutWords Text.toLower_ne_nil] at member
  obtain ⟨run, present, inside, rfl⟩ := LetterRules.exists_run_of_mem_cutWords member
  have lowered : unicodeLetters.lowered run = run.map Char.toLower := by
    rw [LetterRules.lowered, ← List.flatMap_pure_eq_map]
    exact List.flatMap_congr fun c here => if_pos (ascii c (inside c here).1)
  rw [lowered]
  refine ⟨by simpa using present, fun d here => ?_⟩
  obtain ⟨c, within, rfl⟩ := List.mem_map.mp here
  exact plainChar_toLower (ascii c (inside c within).1) (inside c within).2

/-- Plain words in a row are one plain word. -/
theorem plainWord_flatten {words : List (List Char)} (some : words ≠ [])
    (each : ∀ word ∈ words, PlainWord word) : PlainWord words.flatten where
  present := by
    obtain ⟨word, rest, rfl⟩ := List.exists_cons_of_ne_nil some
    intro none
    exact (each word List.mem_cons_self).present (List.flatten_eq_nil_iff.mp none word
      List.mem_cons_self)
  plain := by
    intro c member
    obtain ⟨word, here, inside⟩ := List.mem_flatten.mp member
    exact (each word here).plain c inside

/-- Characters that are cut into no further words and are a given word in lowercase. -/
structure Spells (spelling word : List Char) : Prop where
  present : spelling ≠ []
  ascii : Text.IsAscii spelling
  uncut : unicodeLetters.Uncut spelling
  lowered : unicodeLetters.lowered spelling = word

/-- A spelling is cut into its word. -/
theorem Spells.words {spelling word : List Char} (spells : Spells spelling word) :
    unicodeLetters.words spelling = [word] := by
  rw [LetterRules.words_eq_cutWords Text.toLower_ne_nil, spells.uncut.cutWords spells.present,
    spells.lowered]

/-- A plain character or its capital. -/
structure Cased (c d : Char) : Prop where
  plain : PlainChar c
  written : d = c ∨ d = c.toUpper

namespace Cased

variable {c d : Char}

theorem ascii (cased : Cased c d) : d.toNat < 128 := by
  rcases cased.written with rfl | rfl
  · exact cased.plain.ascii
  · exact cased.plain.ascii_toUpper

theorem solid (cased : Cased c d) : isWordSeparator d = false := by
  rcases cased.written with rfl | rfl
  · exact cased.plain.solid
  · exact cased.plain.solid_toUpper

theorem lower (cased : Cased c d) : unicodeLetters.lower d = [c] := by
  rcases cased.written with rfl | rfl
  · exact cased.plain.lower
  · exact cased.plain.lower_toUpper

end Cased

/-- However the characters of a word are cased, it is spelled if no word begins within. -/
theorem spells_of_cased {word spelling : List Char} (present : word ≠ [])
    (cased : List.Forall₂ Cased word spelling)
    (whole : spelling.IsChain fun before c => unicodeLetters.continues before c = true) :
    Spells spelling word where
  present := by
    rintro rfl
    exact present (List.forall₂_nil_right_iff.mp cased)
  ascii := by
    intro d member
    obtain ⟨c, -, here⟩ := exists_of_mem_right cased member
    exact here.ascii
  uncut := by
    refine ⟨fun d member => ?_, whole⟩
    obtain ⟨c, -, here⟩ := exists_of_mem_right cased member
    exact here.solid
  lowered := by
    clear present whole
    induction cased with
    | nil => rfl
    | cons first _ ih =>
      rw [LetterRules.lowered, List.flatMap_cons, first.lower]
      exact congrArg (_ :: ·) ih

namespace PlainWord

variable {word : List Char}

/-- Plain characters do not begin a word, whatever is before them. -/
theorem whole_cons {rest : List Char} (plain : ∀ c ∈ rest, PlainChar c) (first : Char) :
    (first :: rest).IsChain fun before c => unicodeLetters.continues before c = true := by
  induction rest generalizing first with
  | nil => exact .singleton first
  | cons c rest ih =>
    obtain ⟨here, others⟩ := List.forall_mem_cons.mp plain
    have goesOn : unicodeLetters.continues first c = true := by
      simp [LetterRules.continues, here.isUpper]
    exact .cons_cons goesOn (ih others c)

/-- A word is a spelling of itself. -/
theorem spells_self (plain : PlainWord word) : Spells word word := by
  obtain ⟨c, rest, rfl⟩ := List.exists_cons_of_ne_nil plain.present
  refine spells_of_cased plain.present ?_ ?_
  · exact List.forall₂_same.mpr fun d member => ⟨plain.plain d member, Or.inl rfl⟩
  · exact whole_cons (List.forall_mem_cons.mp plain.plain).2 c

/-- Capitals of plain characters are single characters. -/
theorem shout_eq (plain : PlainWord word) : unicodeLetters.shout word = word.map Char.toUpper := by
  rw [LetterRules.shout, ← List.flatMap_pure_eq_map]
  exact List.flatMap_congr fun c member => (plain.plain c member).upper

/-- In a word of capitals no character is lowercase. -/
theorem spells_shout (plain : PlainWord word) : Spells (unicodeLetters.shout word) word := by
  rw [plain.shout_eq]
  refine spells_of_cased plain.present ?_ ?_
  · rw [List.forall₂_map_right_iff]
    exact List.forall₂_same.mpr fun c member => ⟨plain.plain c member, Or.inr rfl⟩
  · rw [List.isChain_map, List.isChain_iff_getElem]
    intro i inside
    have before := plain.plain word[i] (List.getElem_mem _)
    simp [LetterRules.continues, before.isLower_toUpper]

/-- The first character of a word is its only capital. -/
theorem capitalize_eq {c : Char} {rest : List Char} (plain : PlainWord (c :: rest)) :
    unicodeLetters.capitalize (c :: rest) = c.toUpper :: rest := by
  rw [LetterRules.capitalize, (plain.plain c List.mem_cons_self).upper]
  rfl

/-- A capitalized word has no capital but its first character. -/
theorem spells_capitalize (plain : PlainWord word) :
    Spells (unicodeLetters.capitalize word) word := by
  obtain ⟨c, rest, rfl⟩ := List.exists_cons_of_ne_nil plain.present
  obtain ⟨first, others⟩ := List.forall_mem_cons.mp plain.plain
  rw [plain.capitalize_eq]
  refine spells_of_cased plain.present (.cons ⟨first, Or.inr rfl⟩ ?_) (whole_cons others _)
  exact List.forall₂_same.mpr fun c member => ⟨others c member, Or.inl rfl⟩

/-- Every casing writes a spelling. -/
theorem spells_write (plain : PlainWord word) (casing : Casing) (index : Nat) :
    Spells (casing.write unicodeLetters index word) word := by
  cases casing with
  | lower => exact plain.spells_self
  | upper => exact plain.spells_shout
  | capitalized => exact plain.spells_capitalize
  | camel =>
    rw [Casing.write]
    split
    · exact plain.spells_self
    · exact plain.spells_capitalize

end PlainWord

/-- What a casing makes of words, before anything is put between them. -/
def Casing.spellings (casing : Casing) (words : List (List Char)) : List (List Char) :=
  words.mapIdx (casing.write unicodeLetters)

/-- Every word is spelled. -/
theorem Casing.spells_spellings (casing : Casing) {words : List (List Char)}
    (plain : ∀ word ∈ words, PlainWord word) :
    List.Forall₂ Spells (casing.spellings words) words := by
  refine List.forall₂_iff_get.mpr ⟨by simp [spellings], fun i _ inside => ?_⟩
  have here := (plain words[i] (List.getElem_mem inside)).spells_write casing i
  simpa [spellings] using here

/-- Every style but the one that changes nothing joins the spellings of the words. -/
theorem CaseStyle.applyChars_of_layout {style : CaseStyle} {separator : List Char} {casing : Casing}
    (layout : style.layout = some (separator, casing)) (identifier : List Char) :
    style.applyChars unicodeLetters identifier =
      separator.intercalate (casing.spellings (unicodeLetters.words identifier)) := by
  rw [applyChars, layout]
  rfl

end RecordCoding
