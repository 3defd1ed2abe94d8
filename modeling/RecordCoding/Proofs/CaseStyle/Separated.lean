import RecordCoding.Proofs.CaseStyle.Spelling

/-!
# Styles that keep words apart

A style that puts a separator between words loses none of them: the words of what it writes are the
words it was given. Hence only the last of several conversions counts, and two identifiers are
written alike exactly if they have the same words. The two styles without separators and with a
single case join all words into one.
-/

namespace RecordCoding

namespace CaseStyle

/-- The styles that put a separator between words. -/
def separated : List CaseStyle :=
  [snake, camelSnake, pascalSnake, screamingSnake, kebab, camelKebab, pascalKebab, screamingKebab]

/-- The styles that write the words without a separator and in a single case. -/
def uniform : List CaseStyle := [flat, upper]

/-- One character stands between the words, and it separates them. -/
theorem layout_of_separated {style : CaseStyle} (member : style ∈ separated) :
    ∃ separator casing, style.layout = some ([separator], casing) ∧
      isWordSeparator separator = true := by
  cases style <;> first | exact ⟨_, _, rfl, rfl⟩ | exact absurd member (by decide)

/-- Only `noChange` looks at more than the words of an identifier. -/
theorem exists_layout {style : CaseStyle} (changes : style ≠ noChange) :
    ∃ separator casing, style.layout = some (separator, casing) := by
  cases style <;> first | exact ⟨_, _, rfl⟩ | exact absurd rfl changes

/-- A single case is written without separators. -/
theorem layout_of_uniform {style : CaseStyle} (member : style ∈ uniform) :
    ∃ casing, style.layout = some ([], casing) ∧ (casing = .lower ∨ casing = .upper) := by
  rcases List.mem_pair.mp member with rfl | rfl
  · exact ⟨.lower, rfl, Or.inl rfl⟩
  · exact ⟨.upper, rfl, Or.inr rfl⟩

theorem ne_noChange_of_separated {style : CaseStyle} (member : style ∈ separated) :
    style ≠ noChange := by
  rintro rfl
  exact absurd member (by decide)

end CaseStyle

/-- Between separators every spelling is cut into its own word. -/
theorem words_intercalate {separator : Char} (separates : isWordSeparator separator = true)
    {spellings words : List (List Char)} (spelled : List.Forall₂ Spells spellings words) :
    unicodeLetters.words ([separator].intercalate spellings) = words := by
  induction spelled with
  | nil => rfl
  | @cons spelling word spellings words first others ih =>
    cases others with
    | nil => rw [List.intercalate_singleton, first.words]
    | cons second rest =>
      rw [LetterRules.words_eq_cutWords Text.toLower_ne_nil] at ih ⊢
      rw [List.intercalate_cons_cons, List.append_assoc, List.singleton_append,
        LetterRules.cutWords_append_separator _ _ separates, ih,
        first.uncut.cutWords first.present, first.lowered]
      rfl

/-- What is spelled is ASCII if what stands between the spellings is. -/
theorem isAscii_intercalate {separator : List Char} (ascii : Text.IsAscii separator)
    {spellings words : List (List Char)} (spelled : List.Forall₂ Spells spellings words) :
    Text.IsAscii (separator.intercalate spellings) := by
  induction spelled with
  | nil => exact nofun
  | cons first others ih =>
    cases others with
    | nil =>
      rw [List.intercalate_singleton]
      exact first.ascii
    | cons second rest =>
      rw [List.intercalate_cons_cons]
      intro c member
      rcases List.mem_append.mp member with front | behind
      · exact (List.mem_append.mp front).elim (first.ascii c) (ascii c)
      · exact ih c behind

namespace CaseStyle

variable {identifier other : List Char} {style : CaseStyle}

/-- ASCII identifiers stay ASCII in every style. -/
theorem isAscii_applyChars (ascii : Text.IsAscii identifier) (style : CaseStyle) :
    Text.IsAscii (style.applyChars unicodeLetters identifier) := by
  by_cases changes : style = noChange
  · subst changes
    exact ascii
  · obtain ⟨separator, casing, layout⟩ := exists_layout changes
    have plain : Text.IsAscii separator := by
      revert layout
      cases style <;> rintro ⟨⟩ <;> decide
    rw [applyChars_of_layout layout]
    exact isAscii_intercalate plain
      (casing.spells_spellings fun _ member => plainWord_of_mem_words ascii member)

/-- A style sees the words of an identifier only. -/
theorem applyChars_congr (changes : style ≠ noChange)
    (same : unicodeLetters.words identifier = unicodeLetters.words other) :
    style.applyChars unicodeLetters identifier = style.applyChars unicodeLetters other := by
  obtain ⟨separator, casing, layout⟩ := exists_layout changes
  rw [applyChars_of_layout layout, applyChars_of_layout layout, same]

/-- A style that puts separators between words keeps the words. -/
theorem words_applyChars_separated (member : style ∈ separated) (ascii : Text.IsAscii identifier) :
    unicodeLetters.words (style.applyChars unicodeLetters identifier) =
      unicodeLetters.words identifier := by
  obtain ⟨separator, casing, layout, separates⟩ := layout_of_separated member
  rw [applyChars_of_layout layout]
  exact words_intercalate separates
    (casing.spells_spellings fun _ here => plainWord_of_mem_words ascii here)

/-- A single case is written character by character. -/
theorem write_append {casing : Casing} (single : casing = .lower ∨ casing = .upper)
    (first second : List Char) :
    casing.write unicodeLetters 0 (first ++ second) =
      casing.write unicodeLetters 0 first ++ casing.write unicodeLetters 0 second := by
  rcases single with rfl | rfl
  · rfl
  · exact List.flatMap_append

/-- A single case is written over all words at once. -/
theorem flatten_spellings {casing : Casing} (single : casing = .lower ∨ casing = .upper)
    (words : List (List Char)) :
    (casing.spellings words).flatten = casing.write unicodeLetters 0 words.flatten := by
  have alike : casing.spellings words = words.map (casing.write unicodeLetters 0) := by
    apply List.ext_getElem
    · simp [Casing.spellings]
    · rcases single with rfl | rfl <;> simp [Casing.spellings, Casing.write]
  rw [alike]
  clear alike
  induction words with
  | nil => rcases single with rfl | rfl <;> rfl
  | cons word rest ih =>
    rw [List.map_cons, List.flatten_cons, ih, List.flatten_cons, write_append single]

/-- Nothing between the spellings. -/
theorem intercalate_nil_left (spellings : List (List Char)) :
    List.intercalate [] spellings = spellings.flatten := by
  induction spellings with
  | nil => rfl
  | cons first rest ih =>
    cases rest with
    | nil => simp
    | cons second others =>
      rw [List.intercalate_cons_cons, ih, List.append_nil]
      rfl

/-- A style with a single case writes all words as one. -/
theorem applyChars_uniform {casing : Casing} (layout : style.layout = some ([], casing))
    (single : casing = .lower ∨ casing = .upper) (identifier : List Char) :
    style.applyChars unicodeLetters identifier =
      casing.write unicodeLetters 0 (unicodeLetters.words identifier).flatten := by
  rw [applyChars_of_layout layout, intercalate_nil_left, flatten_spellings single]

/-- There is nothing to write, or all words come back as one. -/
theorem words_applyChars_uniform (member : style ∈ uniform) (ascii : Text.IsAscii identifier) :
    unicodeLetters.words (style.applyChars unicodeLetters identifier) =
      if unicodeLetters.words identifier = [] then []
      else [(unicodeLetters.words identifier).flatten] := by
  obtain ⟨casing, layout, single⟩ := layout_of_uniform member
  split
  · rename_i none
    rw [applyChars_of_layout layout, none]
    rfl
  · rename_i some
    have plain := plainWord_flatten some fun _ here => plainWord_of_mem_words ascii here
    rw [applyChars_uniform layout single]
    exact (plain.spells_write casing 0).words

/-- A second conversion to a single case changes nothing. -/
theorem applyChars_uniform_twice (member : style ∈ uniform) (ascii : Text.IsAscii identifier) :
    style.applyChars unicodeLetters (style.applyChars unicodeLetters identifier) =
      style.applyChars unicodeLetters identifier := by
  obtain ⟨casing, layout, single⟩ := layout_of_uniform member
  have same : (unicodeLetters.words (style.applyChars unicodeLetters identifier)).flatten =
      (unicodeLetters.words identifier).flatten := by
    rw [words_applyChars_uniform member ascii]
    split
    · rename_i none
      rw [none]
    · exact List.append_nil _
  rw [applyChars_uniform layout single, same, applyChars_uniform layout single]

section Identifiers

variable {identifier : String}

@[simp] theorem toList_apply (style : CaseStyle) (identifier : String) :
    (style.apply identifier).toList = style.applyChars unicodeLetters identifier.toList :=
  String.toList_ofList

/-- ASCII identifiers stay ASCII in every style. -/
theorem isAscii_apply (ascii : Text.IsAscii identifier.toList) (style : CaseStyle) :
    Text.IsAscii (style.apply identifier).toList := by
  rw [toList_apply]
  exact isAscii_applyChars ascii style

/-- A style that puts separators between words keeps the words. -/
theorem identifierWords_apply (member : style ∈ separated)
    (ascii : Text.IsAscii identifier.toList) :
    identifierWords (style.apply identifier) = identifierWords identifier := by
  rw [identifierWords, toList_apply, words_applyChars_separated member ascii]
  rfl

/-- A style sees the words of an identifier only. -/
theorem apply_congr {other : String} (changes : style ≠ noChange)
    (same : identifierWords identifier = identifierWords other) :
    style.apply identifier = style.apply other := by
  have words : unicodeLetters.words identifier.toList = unicodeLetters.words other.toList :=
    (List.map_injective_iff.mpr fun _ _ => String.ofList_inj.mp) same
  rw [apply, applyChars_congr changes words]
  rfl

/-- A conversion that keeps the words is not seen behind another one. -/
theorem apply_apply_separated (member : style ∈ separated)
    (ascii : Text.IsAscii identifier.toList) {last : CaseStyle} (changes : last ≠ noChange) :
    last.apply (style.apply identifier) = last.apply identifier :=
  apply_congr changes (identifierWords_apply member ascii)

/-- Of a chain of conversions that keep the words only the last one is seen. -/
theorem apply_foldl_separated {styles : List CaseStyle}
    (members : ∀ style ∈ styles, style ∈ separated) (ascii : Text.IsAscii identifier.toList)
    {last : CaseStyle} (changes : last ≠ noChange) :
    last.apply (styles.foldl (fun text style => style.apply text) identifier) =
      last.apply identifier := by
  induction styles generalizing identifier with
  | nil => rfl
  | cons style rest ih =>
    obtain ⟨member, others⟩ := List.forall_mem_cons.mp members
    rw [List.foldl_cons, ih others (isAscii_apply ascii style)]
    exact apply_apply_separated member ascii changes

/-- Separated styles keep the words of ASCII identifiers: whatever is converted next, or further on
in a chain of conversions, comes out as without them, and two identifiers are written alike exactly
if they have the same words. Styles with a single case are settled after one conversion and leave at
most one word. -/
theorem keepsWords (identifier : String) (ascii : Text.IsAscii identifier.toList) :
    (∀ style ∈ separated,
      identifierWords (style.apply identifier) = identifierWords identifier ∧
      (∀ last, last ≠ noChange →
        last.apply (style.apply identifier) = last.apply identifier) ∧
      (∀ other : String, Text.IsAscii other.toList →
        (style.apply identifier = style.apply other ↔
          identifierWords identifier = identifierWords other))) ∧
    (∀ styles : List CaseStyle, (∀ style ∈ styles, style ∈ separated) →
      ∀ last, last ≠ noChange →
        last.apply (styles.foldl (fun text style => style.apply text) identifier) =
          last.apply identifier) ∧
    (∀ style ∈ uniform,
      style.apply (style.apply identifier) = style.apply identifier ∧
      (identifierWords (style.apply identifier)).length ≤ 1) := by
  refine ⟨fun style member => ⟨identifierWords_apply member ascii,
    fun last => apply_apply_separated member ascii, fun other asciiToo => ⟨fun same => ?_, ?_⟩⟩,
    fun styles members last => apply_foldl_separated members ascii, fun style member => ⟨?_, ?_⟩⟩
  · rw [← identifierWords_apply member ascii, same, identifierWords_apply member asciiToo]
  · exact apply_congr (ne_noChange_of_separated member)
  · rw [apply, toList_apply, applyChars_uniform_twice member ascii]
    rfl
  · rw [identifierWords, List.length_map, toList_apply, words_applyChars_uniform member ascii]
    split <;> simp

/-- Separators in front and twice in a row are not words, and the words are still there in capitals
behind hyphens. -/
theorem keepsWords_assorted :
    Text.IsAscii "__userID-v2Name".toList ∧
    identifierWords (screamingKebab.apply "__userID-v2Name") = ["user", "id", "v2name"] ∧
    camel.apply (screamingKebab.apply "__userID-v2Name") = "userIdV2name" ∧
    upper.apply (upper.apply "__userID-v2Name") = "USERIDV2NAME" := by
  have ascii : Text.IsAscii "__userID-v2Name".toList := by decide
  obtain ⟨kept, -, settled⟩ := keepsWords "__userID-v2Name" ascii
  obtain ⟨words, last, -⟩ := kept screamingKebab (by decide)
  refine ⟨ascii, ?_, ?_, ?_⟩
  · rw [words]
    decide
  · rw [last camel (by decide)]
    decide
  · rw [(settled upper (by decide)).1]
    decide

end Identifiers

end CaseStyle

end RecordCoding
