import RecordCoding.Diagnostic

/-!
# Texts that fit on a line

A text is one line if nothing in it breaks a line. Of all that is put together in the message of a
diagnostic only the text that its cause carries may do so.
-/

namespace RecordCoding

namespace Text

/-- The characters that begin a new line, by the reckoning of Unicode. -/
def lineBreaks : List Char := ['\n', '\r', '\x0b', '\x0c', '\u0085', '\u2028', '\u2029']

/-- Whether a character begins a new line. -/
def isLineBreak (c : Char) : Bool := lineBreaks.contains c

/-- Whether a text is one line. -/
def isLine (text : String) : Bool := text.toList.all (!isLineBreak ·)

theorem isLine_iff {text : String} :
    isLine text = true ↔ ∀ c, isLineBreak c = true → c ∉ text.toList := by
  simp only [isLine, List.all_eq_true, Bool.not_eq_true']
  constructor
  · intro all c breaks member
    rw [all c member] at breaks
    cases breaks
  · intro none c member
    exact Bool.eq_false_iff.mpr fun breaks => none c breaks member

/-- What is written out is a line if its characters are characters of a line. -/
theorem isLine_ofList {chars : List Char} (line : chars.all (!isLineBreak ·) = true) :
    isLine (String.ofList chars) = true := by
  rw [isLine, String.toList_ofList]
  exact line

@[simp] theorem isLine_append (first second : String) :
    isLine (first ++ second) = (isLine first && isLine second) := by
  simp [isLine]

/-- A line between words that are lines makes a line. -/
theorem isLine_between {front text back : String} (before : isLine front = true)
    (line : isLine text = true) (behind : isLine back = true) :
    isLine (front ++ text ++ back) = true := by
  rw [isLine_append, isLine_append, before, line, behind]
  rfl

/-- Lines with a line between two of them each are one line. -/
theorem isLine_intercalate {separator : String} (between : isLine separator = true)
    {texts : List String} (all : ∀ text ∈ texts, isLine text = true) :
    isLine (separator.intercalate texts) = true := by
  induction texts with
  | nil => rfl
  | cons first rest ih =>
    obtain ⟨here, others⟩ := List.forall_mem_cons.mp all
    cases rest with
    | nil => simpa using here
    | cons second rest =>
      rw [String.intercalate_cons_cons]
      exact isLine_between here between (ih others)

end Text

open Text

namespace Cause

/-- The text that a cause carries. -/
def detail : Cause → String
  | mustBeStringLiteral text | unknownCaseStyle text | valueRequired text | keyTableExists text
  | fieldOnly text | structOnly text | fieldOrStructOnly text | missingDefaultValue text
  | requiresDerive text | multipleKeyAttributes text | internal text => text
  | emptyCustomKey | notAFlatRecord | notAStruct | customKeyShadowsCase | keyOnComputedField => ""

end Cause

/-- All tags are lines, and so are they together. -/
theorem CaseStyle.isLine_tagList : isLine tagList = true := by
  refine isLine_intercalate (isLine_ofList rfl) fun text member => ?_
  obtain ⟨style, -, rfl⟩ := List.mem_map.mp member
  cases style <;> exact isLine_ofList rfl

section

variable {c : Char} (breaks : isLineBreak c = true)

include breaks

/-- Nothing that breaks a line is in a line. -/
theorem Text.mem_iff_false {text : String} (line : isLine text = true) : c ∈ text.toList ↔ False :=
  iff_false_intro (isLine_iff.mp line c breaks)

namespace Cause

theorem mem_english_iff (cause : Cause) :
    c ∈ cause.english.toList ↔ c ∈ cause.detail.toList := by
  cases cause <;> dsimp only [english, detail] <;>
    simp (disch := exact isLine_ofList rfl) only [String.toList_append, List.mem_append,
      mem_iff_false breaks, or_false, false_or]

theorem mem_of_chinese {cause : Cause} (member : c ∈ cause.chinese.toList) :
    c ∈ cause.detail.toList := by
  revert member
  cases cause <;> dsimp only [chinese, detail] <;>
    simp (disch := exact isLine_ofList rfl) only [String.toList_append, List.mem_append,
      mem_iff_false breaks, or_false, false_or, imp_self, false_imp_iff]

theorem mem_of_hint {cause : Cause} {text : String} (hint : cause.hint = some text)
    (member : c ∈ text.toList) : c ∈ cause.detail.toList := by
  have tags := mem_iff_false breaks CaseStyle.isLine_tagList
  revert member
  cases cause <;> cases hint <;> dsimp only [detail] <;>
    simp (disch := exact isLine_ofList rfl) only [tags, String.toList_append, List.mem_append,
      mem_iff_false breaks, or_false, false_or, imp_self, false_imp_iff]

end Cause

/-- No line is broken in the words between the parts of a message. -/
theorem mem_formatMessage_iff {code english chinese : String} {hint : Option String}
    (line : isLine code = true) : c ∈ (formatMessage code english chinese hint).toList ↔
      c ∈ english.toList ∨ c ∈ chinese.toList ∨ ∃ text ∈ hint, c ∈ text.toList := by
  have coded := mem_iff_false breaks line
  have front : c ∈ ("[" ++ code ++ "] EN: " ++ english ++ " | ZH: " ++ chinese).toList ↔
      c ∈ english.toList ∨ c ∈ chinese.toList := by
    simp (disch := exact isLine_ofList rfl) only [String.toList_append, List.mem_append,
      mem_iff_false breaks, coded, or_false, false_or]
  unfold formatMessage
  rw [String.toList_append, List.mem_append, front, or_assoc]
  cases hint with
  | none => simp
  | some text =>
    dsimp only
    split
    · rename_i empty
      obtain rfl : text = "" := String.isEmpty_iff.mp empty
      simp
    · have words := mem_iff_false breaks (isLine_ofList rfl : isLine " | HINT: " = true)
      simp only [String.toList_append, List.mem_append, words, false_or, Option.mem_def,
        Option.some.injEq, exists_eq_left']

/-- A line is broken in a message exactly where it is in what the cause carries. -/
theorem Diagnostic.mem_message_iff (d : Diagnostic) :
    c ∈ d.message.toList ↔ c ∈ d.cause.detail.toList := by
  have code : isLine d.cause.code = true := by
    cases d.cause <;> dsimp only [Cause.code] <;> exact isLine_ofList rfl
  rw [message, mem_formatMessage_iff breaks code, d.cause.mem_english_iff breaks]
  constructor
  · rintro (english | chinese | ⟨text, hint, member⟩)
    · exact english
    · exact Cause.mem_of_chinese breaks chinese
    · exact Cause.mem_of_hint breaks hint member
  · exact Or.inl

end

/-! ## Diagnostics in one line -/

theorem Target.isLine_type : isLine Target.type.text = true := isLine_ofList rfl

/-- The words for a target are a line if the names in it are. -/
theorem Target.isLine_field {name : String} (line : isLine name = true) :
    isLine (Target.field name).text = true :=
  isLine_between (isLine_ofList rfl) line (isLine_ofList rfl)

theorem Target.isLine_onField {owner name : String} (lines : isLine owner = true)
    (line : isLine name = true) : isLine (Target.onField owner name).text = true := by
  have front : isLine ("`" ++ name ++ "` on field `") = true :=
    isLine_between (isLine_ofList rfl) line (isLine_ofList rfl)
  exact isLine_between front lines (isLine_ofList rfl)

theorem Target.isLine_onType {name : String} (line : isLine name = true) :
    isLine (Target.onType name).text = true :=
  isLine_between (isLine_ofList rfl) line (isLine_ofList rfl)

/-- The texts that a diagnostic carries are lines. -/
structure Diagnostic.IsLine (d : Diagnostic) : Prop where
  detail : isLine d.cause.detail = true
  target : isLine d.target.text = true

/-- Its message is one as well then. -/
theorem Diagnostic.IsLine.message {d : Diagnostic} (line : d.IsLine) : isLine d.message = true := by
  rw [isLine_iff]
  intro c breaks member
  exact isLine_iff.mp line.detail c breaks ((d.mem_message_iff breaks).mp member)

/-- A diagnostic in which no line is broken, unless it repeats a tag that names no case style. -/
structure Diagnostic.IsPlain (d : Diagnostic) : Prop where
  detail : (∃ tag, d.cause = .unknownCaseStyle tag) ∨ isLine d.cause.detail = true
  target : isLine d.target.text = true

theorem Diagnostic.IsLine.isPlain {d : Diagnostic} (line : d.IsLine) : d.IsPlain :=
  ⟨.inr line.detail, line.target⟩

/-- If a line is broken in the message of such a diagnostic, it is in the tag. -/
theorem Diagnostic.IsPlain.mem_message_iff {d : Diagnostic} (plain : d.IsPlain) {c : Char}
    (breaks : isLineBreak c = true) :
    c ∈ d.message.toList ↔ ∃ tag, d.cause = .unknownCaseStyle tag ∧ c ∈ tag.toList := by
  rw [d.mem_message_iff breaks]
  constructor
  · intro member
    rcases plain.detail with ⟨tag, cause⟩ | line
    · rw [cause] at member
      exact ⟨tag, cause, member⟩
    · exact absurd member (isLine_iff.mp line c breaks)
  · rintro ⟨tag, cause, member⟩
    rw [cause]
    exact member

end RecordCoding
