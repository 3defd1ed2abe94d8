/-!
# Tokens

Source text after lexing: a tree of identifiers, literals, punctuation and delimited groups, and
the canonical way to write it out again. Tokens are separated by one space, except after a
punctuation character that is joined to the next token.
-/

namespace RecordCoding.Source

/-- The pairs of delimiters. -/
inductive Delimiter where
  | parenthesis
  | bracket
  | brace
  deriving Repr, DecidableEq

namespace Delimiter

/-- The opening character. -/
def opening : Delimiter → Char
  | parenthesis => '('
  | bracket => '['
  | brace => '\x7b'

/-- The closing character. -/
def closing : Delimiter → Char
  | parenthesis => ')'
  | bracket => ']'
  | brace => '\x7d'

/-- The delimiter a character opens. -/
def ofOpening? : Char → Option Delimiter
  | '(' => some parenthesis
  | '[' => some bracket
  | '\x7b' => some brace
  | _ => none

/-- The delimiter a character closes. -/
def ofClosing? : Char → Option Delimiter
  | ')' => some parenthesis
  | ']' => some bracket
  | '\x7d' => some brace
  | _ => none

/-- The words for a delimiter in messages. -/
def name : Delimiter → String
  | parenthesis => "parentheses"
  | bracket => "square brackets"
  | brace => "curly braces"

@[simp] theorem ofOpening?_opening (d : Delimiter) : ofOpening? d.opening = some d := by
  cases d <;> rfl

@[simp] theorem ofClosing?_closing (d : Delimiter) : ofClosing? d.closing = some d := by
  cases d <;> rfl

end Delimiter

/-- A token tree. -/
inductive Token where
  /-- An identifier or keyword; a raw identifier keeps its mark `r#`. -/
  | ident (name : String)
  /-- A literal, as written. -/
  | literal (text : String)
  /-- One punctuation character; a joined one belongs together with the next token. -/
  | punct (char : Char) (joined : Bool)
  | group (delimiter : Delimiter) (content : List Token)
  deriving Repr, BEq, Inhabited

namespace Token

/-- Whether no space follows. -/
def isJoined : Token → Bool
  | punct _ joined => joined
  | _ => false

mutual

/-- A token written out. -/
def text : Token → String
  | ident name => name
  | literal written => written
  | punct char _ => String.singleton char
  | group .parenthesis content => "(" ++ textOfAll content ++ ")"
  | group .bracket content => "[" ++ textOfAll content ++ "]"
  | group .brace [] => "\x7b \x7d"
  | group .brace (first :: rest) => "\x7b " ++ textOfAll (first :: rest) ++ " \x7d"

/-- Tokens written out in a row. -/
def textOfAll : List Token → String
  | [] => ""
  | [last] => last.text
  | first :: second :: rest =>
    first.text ++ (if first.isJoined then "" else " ") ++ textOfAll (second :: rest)

end

/-- The punctuation characters of a text, all but the last joined. -/
def ofPunctuation : List Char → List Token
  | [] => []
  | [last] => [punct last false]
  | char :: rest => punct char true :: ofPunctuation rest

mutual

/-- The number of tokens in a tree. -/
def weight : Token → Nat
  | group _ content => weightOfAll content + 1
  | _ => 1

/-- The number of tokens in several trees. -/
def weightOfAll : List Token → Nat
  | [] => 0
  | first :: rest => first.weight + weightOfAll rest

end

/-- Tokens in a row weigh as much as their parts. -/
theorem weightOfAll_append (tokens behind : List Token) :
    weightOfAll (tokens ++ behind) = weightOfAll tokens + weightOfAll behind := by
  induction tokens with
  | nil => simp [weightOfAll]
  | cons first tokens ih => simp [weightOfAll, ih, Nat.add_assoc]

end Token

/-- An entry of a list in angle brackets. -/
structure Entry where
  /-- Whether the entry is written before all entries of the other kind, as lifetimes are. -/
  isLeading : Bool
  tokens : List Token
  /-- Whether a comma follows. -/
  hasComma : Bool
  deriving Repr, Inhabited

namespace Entry

/-- An entry with its comma. -/
def written (entry : Entry) : List Token :=
  entry.tokens ++ if entry.hasComma then [.punct ',' false] else []

/-- The entries in a row, leading ones first; a comma that is missing behind those is added. -/
def listed (entries : List Entry) : List Token :=
  let leading := entries.filter (·.isLeading)
  let others := entries.filter (!·.isLeading)
  let isOpen := leading.getLast?.any (!·.hasComma) && !others.isEmpty
  leading.flatMap written ++ (if isOpen then [.punct ',' false] else []) ++ others.flatMap written

/-- The entries between angle brackets. -/
def bracketed (entries : List Entry) : List Token :=
  .punct '<' false :: listed entries ++ [.punct '>' false]

/-- Without leading entries the order stays as it is. -/
theorem listed_of_no_leading {entries : List Entry} (h : ∀ e ∈ entries, e.isLeading = false) :
    listed entries = entries.flatMap written := by
  have leading : entries.filter (·.isLeading) = [] := by simpa using h
  have others : entries.filter (!·.isLeading) = entries := by
    simp only [List.filter_eq_self]
    intro e he
    simp [h e he]
  simp [listed, leading, others]

/-- A leading entry stays in front if a comma is behind it wherever something is. -/
theorem listed_cons_of_leading {entry : Entry} {entries : List Entry}
    (leading : entry.isLeading = true) (comma : entry.hasComma = !entries.isEmpty) :
    listed (entry :: entries) = entry.written ++ listed entries := by
  have first : (entry :: entries).filter (·.isLeading) = entry :: entries.filter (·.isLeading) :=
    List.filter_cons_of_pos leading
  have others : (entry :: entries).filter (!·.isLeading) = entries.filter (!·.isLeading) :=
    List.filter_cons_of_neg (by simp [leading])
  simp only [listed, first, others, List.flatMap_cons, List.append_assoc, List.append_cancel_left_eq]
  cases shape : entries.filter (·.isLeading) with
  | cons second more => rw [List.getLast?_cons_cons]
  | nil =>
    -- The entry is the last leading one, so the comma is its own.
    have closed : (!entry.hasComma && !(entries.filter (!·.isLeading)).isEmpty) = false := by
      cases entries <;> simp [comma]
    simp [closed]

end Entry

/-- The words that cannot name anything unless they are written raw. -/
def reservedWords : List String :=
  ["_", "abstract", "as", "async", "await", "become", "box", "break", "const", "continue",
    "crate", "do", "dyn", "else", "enum", "extern", "false", "final", "fn", "for", "if", "impl",
    "in", "let", "loop", "macro", "match", "mod", "move", "mut", "override", "priv", "pub", "ref",
    "return", "Self", "self", "static", "struct", "super", "trait", "true", "try", "type",
    "typeof", "unsafe", "unsized", "use", "virtual", "where", "while", "yield"]

/-- Whether an identifier token may name something. -/
def isName (word : String) : Bool := !reservedWords.contains word

/-- An identifier without the mark of raw identifiers. -/
def unraw (word : String) : String :=
  match word.toList with
  | 'r' :: '#' :: rest => String.ofList rest
  | _ => word

/-- The words that cannot be written raw. -/
def neverRawWords : List String := ["_", "super", "self", "Self", "crate"]

/-- No word that cannot be written raw may name something. -/
theorem isName_of_mem_neverRawWords {word : String} (h : word ∈ neverRawWords) :
    isName word = false := by
  simp only [neverRawWords, List.mem_cons, List.not_mem_nil, or_false] at h
  rcases h with rfl | rfl | rfl | rfl | rfl <;> decide

end RecordCoding.Source
