import RecordCoding.CaseStyle
import RecordCoding.Proofs.Runs

/-!
# Cutting identifiers into words

The words of an identifier are collected in one pass that puts characters in lowercase as it goes
and remembers the character before. Here they are cut in two steps that look at the identifier as
it was given: first at the separators, then before every uppercase letter that follows a lowercase
one. Both ways give the same words, under any rules for letters by which no character is lost in
lowercase.
-/

namespace RecordCoding.LetterRules

/-- Whether a character belongs to the word of the one before it: it does unless it is uppercase and
the one before it is lowercase. -/
def continues (rules : LetterRules) (before c : Char) : Bool :=
  !(rules.isLower before && rules.isUpper c)

/-- What stands between the separators of an identifier. -/
def pieces (identifier : List Char) : List (List Char) :=
  (identifier.splitOnP isWordSeparator).filter fun piece => !piece.isEmpty

/-- Characters in lowercase, one by one. -/
def lowered (rules : LetterRules) (chars : List Char) : List Char := chars.flatMap rules.lower

/-- The words of an identifier, cut out of its pieces. -/
def cutWords (rules : LetterRules) (identifier : List Char) : List (List Char) :=
  ((pieces identifier).flatMap (List.splitBy rules.continues)).map rules.lowered

/-- Characters within which no word ends. -/
structure Uncut (rules : LetterRules) (run : List Char) : Prop where
  solid : ∀ c ∈ run, isWordSeparator c = false
  whole : run.IsChain fun before c => rules.continues before c = true

variable {rules : LetterRules}

/-- The pass looks at a character and the one it remembers, if there is one. -/
theorem continues_of_previous (rules : LetterRules) (previous : Option Char) (c : Char) :
    ∀ before ∈ previous,
      rules.continues before c = !(rules.isUpper c && previous.any rules.isLower) := by
  intro before here
  rw [Option.mem_def.mp here, continues, Bool.and_comm]
  rfl

theorem Uncut.nil : rules.Uncut [] := ⟨nofun, .nil⟩

theorem Uncut.singleton {c : Char} (plain : isWordSeparator c = false) : rules.Uncut [c] :=
  ⟨by simpa using plain, .singleton c⟩

/-- A run goes on with a character that belongs to the word of its last one. -/
theorem Uncut.concat {run : List Char} (uncut : rules.Uncut run) {c : Char}
    (plain : isWordSeparator c = false)
    (next : ∀ before ∈ run.getLast?, rules.continues before c = true) :
    rules.Uncut (run ++ [c]) where
  solid := by
    intro d member
    rcases List.mem_append.mp member with inside | last
    · exact uncut.solid d inside
    · rw [List.mem_singleton.mp last]
      exact plain
  whole := by
    refine uncut.whole.append (.singleton c) ?_
    intro before last d first
    obtain rfl : c = d := by simpa using first
    exact next before last

/-- Something without separators is a part of the first piece. -/
private theorem splitOnP_append {run : List Char} (solid : ∀ c ∈ run, isWordSeparator c = false)
    (rest : List Char) : (run ++ rest).splitOnP isWordSeparator =
      (rest.splitOnP isWordSeparator).modifyHead (run ++ ·) := by
  induction run with
  | nil => exact (congrFun List.modifyHead_id _).symm
  | cons c run ih =>
    obtain ⟨plain, others⟩ := List.forall_mem_cons.mp solid
    rw [List.cons_append, List.splitOnP_cons_eq_if_modifyHead, ih others, if_neg (by simp [plain]),
      List.modifyHead_modifyHead]
    rfl

/-- A separator is between pieces. -/
theorem pieces_append_separator (before rest : List Char) {c : Char}
    (separator : isWordSeparator c = true) :
    pieces (before ++ c :: rest) = pieces before ++ pieces rest := by
  simp [pieces, List.splitOnP_append_cons before rest separator]

/-- Something without separators is one piece, unless it is empty. -/
theorem pieces_of_solid {run : List Char} (solid : ∀ c ∈ run, isWordSeparator c = false)
    (present : run ≠ []) : pieces run = [run] := by
  simp [pieces, List.splitOnP_eq_singleton solid, present]

/-- No word reaches over a separator. -/
theorem cutWords_append_separator (before rest : List Char) {c : Char}
    (separator : isWordSeparator c = true) :
    rules.cutWords (before ++ c :: rest) = rules.cutWords before ++ rules.cutWords rest := by
  simp [cutWords, pieces_append_separator before rest separator]

/-- Without separators there is only the second cut. -/
theorem cutWords_of_solid {run : List Char} (solid : ∀ c ∈ run, isWordSeparator c = false) :
    rules.cutWords run = (run.splitBy rules.continues).map rules.lowered := by
  by_cases empty : run = []
  · subst empty
    rfl
  · simp [cutWords, pieces_of_solid solid empty]

/-- A run within which no word ends is one word. -/
theorem Uncut.cutWords {run : List Char} (uncut : rules.Uncut run) (present : run ≠ []) :
    rules.cutWords run = [rules.lowered run] := by
  rw [cutWords_of_solid uncut.solid, List.splitBy_of_isChain present uncut.whole]
  rfl

/-- A word ends before an uppercase letter that follows a lowercase one. -/
theorem cutWords_append_hump {run rest : List Char} {c : Char}
    (solid : ∀ c ∈ run, isWordSeparator c = false) (plain : isWordSeparator c = false)
    (hump : ∀ before ∈ run.getLast?, rules.continues before c = false) :
    rules.cutWords (run ++ c :: rest) = rules.cutWords run ++ rules.cutWords (c :: rest) := by
  -- The second cut is made within the piece that `c` stands in, so that piece is named first.
  obtain ⟨piece, others, split⟩ :=
    List.exists_cons_of_ne_nil (List.splitOnP_ne_nil isWordSeparator rest)
  have onward : (c :: rest).splitOnP isWordSeparator = (c :: piece) :: others := by
    rw [List.splitOnP_cons_eq_if_modifyHead, split, if_neg (by simp [plain])]
    rfl
  have joined : (run ++ c :: rest).splitOnP isWordSeparator = (run ++ c :: piece) :: others := by
    rw [splitOnP_append solid, onward]
    rfl
  have cutHere : (run ++ c :: piece).splitBy rules.continues =
      run.splitBy rules.continues ++ (c :: piece).splitBy rules.continues :=
    List.splitBy_append_cons piece hump
  rw [cutWords_of_solid solid]
  simp [LetterRules.cutWords, pieces, onward, joined, cutHere]

/-- The word collected so far is finished as it would be cut. -/
theorem flush_lowered (full : ∀ c, rules.lower c ≠ []) {run : List Char}
    (uncut : rules.Uncut run) : flush (rules.lowered run) = rules.cutWords run := by
  cases run with
  | nil => rfl
  | cons c rest =>
    rw [uncut.cutWords (List.cons_ne_nil c rest)]
    simp [flush, lowered, full c]

/-- The pass over an identifier cuts it. The characters behind the last cut are `run`: they stand in
lowercase in the word being collected, and the last of them is the one remembered. -/
theorem wordsFrom_eq_cutWords (full : ∀ c, rules.lower c ≠ []) (rest : List Char) {run : List Char}
    (uncut : rules.Uncut run) :
    rules.wordsFrom (rules.lowered run) run.getLast? rest = rules.cutWords (run ++ rest) := by
  induction rest generalizing run with
  | nil =>
    rw [List.append_nil]
    exact flush_lowered full uncut
  | cons c rest ih =>
    rw [wordsFrom]
    by_cases separator : isWordSeparator c = true
    · rw [if_pos separator, flush_lowered full uncut, cutWords_append_separator run rest separator]
      exact congrArg (rules.cutWords run ++ ·) (ih .nil)
    rw [if_neg separator]
    have plain : isWordSeparator c = false := by simpa using separator
    by_cases hump : (rules.isUpper c && run.getLast?.any rules.isLower) = true
    · have ends : ∀ before ∈ run.getLast?, rules.continues before c = false := by
        intro before last
        rw [continues_of_previous rules _ c before last, hump]
        rfl
      rw [if_pos hump, flush_lowered full uncut, cutWords_append_hump uncut.solid plain ends]
      have onward := ih (Uncut.singleton plain)
      simp only [lowered, List.flatMap_cons, List.flatMap_nil, List.append_nil,
        List.getLast?_singleton] at onward
      exact congrArg (rules.cutWords run ++ ·) onward
    · have next : ∀ before ∈ run.getLast?, rules.continues before c = true := by
        intro before last
        rw [continues_of_previous rules _ c before last, Bool.eq_false_iff.mpr hump]
        rfl
      rw [if_neg hump]
      have onward := ih (uncut.concat plain next)
      simpa [lowered] using onward

/-- The words of an identifier are the ones that are cut out of it. -/
theorem words_eq_cutWords (full : ∀ c, rules.lower c ≠ []) (identifier : List Char) :
    rules.words identifier = rules.cutWords identifier :=
  wordsFrom_eq_cutWords full identifier .nil

/-- The pieces hold everything but the separators. -/
theorem flatten_pieces (identifier : List Char) :
    (pieces identifier).flatten = identifier.filter fun c => !isWordSeparator c := by
  have split : (identifier.splitOnP isWordSeparator).flatten =
      identifier.filter fun c => !isWordSeparator c := by
    induction identifier with
    | nil => rfl
    | cons c rest ih =>
      rw [List.splitOnP_cons_eq_if_modifyHead, List.filter_cons]
      cases isWordSeparator c with
      | true => simpa using ih
      | false =>
        obtain ⟨piece, others, parts⟩ :=
          List.exists_cons_of_ne_nil (List.splitOnP_ne_nil isWordSeparator rest)
        rw [parts] at ih ⊢
        simpa using ih
  rw [← split, pieces]
  exact List.flatten_filter_not_isEmpty

/-- A word is a run of characters of the identifier in lowercase. The run is not empty and has no
separators. -/
theorem exists_run_of_mem_cutWords {identifier word : List Char}
    (member : word ∈ rules.cutWords identifier) :
    ∃ run, run ≠ [] ∧ (∀ c ∈ run, c ∈ identifier ∧ isWordSeparator c = false) ∧
      rules.lowered run = word := by
  obtain ⟨run, cut, rfl⟩ := List.mem_map.mp member
  obtain ⟨piece, here, part⟩ := List.mem_flatMap.mp cut
  refine ⟨run, List.ne_nil_of_mem_splitBy part, fun c inside => ?_, rfl⟩
  have kept : c ∈ (pieces identifier).flatten :=
    List.mem_flatten.mpr ⟨piece, here, mem_of_mem_splitBy part inside⟩
  rw [flatten_pieces] at kept
  simpa using List.mem_filter.mp kept

/-- No word is empty. -/
theorem nil_notMem_cutWords (full : ∀ c, rules.lower c ≠ []) (identifier : List Char) :
    [] ∉ rules.cutWords identifier := by
  intro member
  obtain ⟨run, present, -, none⟩ := exists_run_of_mem_cutWords member
  obtain ⟨c, rest, rfl⟩ := List.exists_cons_of_ne_nil present
  exact full c (List.flatMap_eq_nil_iff.mp none c List.mem_cons_self)

/-- Putting in lowercase goes character by character, wherever runs begin and end. -/
theorem lowered_flatten (rules : LetterRules) (runs : List (List Char)) :
    rules.lowered runs.flatten = (runs.map rules.lowered).flatten :=
  flatMap_flatten rules.lower runs

/-- Cutting keeps every character of the pieces, in order. -/
theorem flatten_cutWords (rules : LetterRules) (identifier : List Char) :
    (rules.cutWords identifier).flatten =
      rules.lowered (identifier.filter fun c => !isWordSeparator c) := by
  have parts : ((pieces identifier).flatMap (List.splitBy rules.continues)).flatten =
      (pieces identifier).flatten := by
    induction pieces identifier with
    | nil => rfl
    | cons piece rest ih => rw [List.flatMap_cons, List.flatten_append, List.flatten_splitBy, ih,
        List.flatten_cons]
  rw [← flatten_pieces, ← parts, lowered_flatten]
  rfl

/-- Under rules by which no character is lost in lowercase, the words of an identifier are cut out
of it at separators and before uppercase letters that follow lowercase ones. None of them is empty,
and together they are the characters of the identifier in lowercase, separators apart. -/
theorem words_cut (rules : LetterRules) (full : ∀ c, rules.lower c ≠ []) (identifier : String) :
    rules.words identifier.toList = rules.cutWords identifier.toList ∧
    [] ∉ rules.words identifier.toList ∧
    (rules.words identifier.toList).flatten =
      (identifier.toList.filter fun c => !isWordSeparator c).flatMap rules.lower := by
  have cut := words_eq_cutWords full identifier.toList
  refine ⟨cut, ?_, ?_⟩
  · rw [cut]
    exact nil_notMem_cutWords full identifier.toList
  · rw [cut]
    exact flatten_cutWords rules identifier.toList

/-- Under Unicode's rules a letter of two characters in lowercase stays in its word, and neither
accents nor digits hide where words begin. -/
theorem words_cut_accented :
    (∀ c, unicodeLetters.lower c ≠ []) ∧
    unicodeLetters.cutWords "_İxÉa--ßHTTPServer2Go".toList =
      ["i\u0307x".toList, "éa".toList, "ß".toList, "httpserver2go".toList] ∧
    [] ∉ unicodeLetters.words "_İxÉa--ßHTTPServer2Go".toList := by
  have cut := words_cut unicodeLetters Text.toLower_ne_nil "_İxÉa--ßHTTPServer2Go"
  have words : unicodeLetters.words "_İxÉa--ßHTTPServer2Go".toList =
      ["i\u0307x".toList, "éa".toList, "ß".toList, "httpserver2go".toList] := by decide
  exact ⟨Text.toLower_ne_nil, cut.1.symm.trans words, cut.2.1⟩

end RecordCoding.LetterRules
