import RecordCoding.Json.Parser
import RecordCoding.Toml.Table

/-!
# Reading settings files

Lines with keys and values, table headers, comments and blank lines. Only the kinds of values
that settings have are read; everything else makes the file unreadable, without a further reason.
-/

namespace RecordCoding.Toml

/-- A reader of characters that may fail. -/
abbrev CharReader := StateT (List Char) Option

/-- A character that may stand in text and comments. -/
def isTextChar (c : Char) : Bool := c == '\t' || (0x20 ≤ c.toNat && c.toNat ≠ 0x7f)

/-- A character of a key without quotes. -/
def isBareKeyChar (c : Char) : Bool := c.isAlphanum || c == '_' || c == '-'

namespace CharReader

/-- The next character, not consumed. -/
def peek : CharReader (Option Char) := fun rest => some (rest.head?, rest)

/-- Consumes and returns a character. -/
def next : CharReader Char
  | [] => none
  | c :: rest => some (c, rest)

/-- Consumes the given characters. -/
def exactly (chars : List Char) : CharReader Unit :=
  fun rest => if chars.isPrefixOf rest then some ((), rest.drop chars.length) else none

/-- Consumes the given characters if they follow. -/
def optionally (chars : List Char) : CharReader Bool :=
  fun rest =>
    if chars.isPrefixOf rest then some (true, rest.drop chars.length) else some (false, rest)

/-- The longest run of characters of a class. -/
def run (isMember : Char → Bool) : CharReader (List Char) :=
  fun rest => some (rest.takeWhile isMember, rest.dropWhile isMember)

/-- Passes over blanks within a line. -/
def blanks : CharReader Unit := do
  let _ ← run fun c => c == ' ' || c == '\t'

/-- A line break. -/
def newline : CharReader Unit := do
  if !(← optionally ['\n']) then exactly ['\r', '\n']

/-- A comment, if one follows. -/
def comment : CharReader Unit := do
  if ← optionally ['#'] then
    let _ ← run isTextChar

/-- Passes over blanks, comments and line breaks. -/
def gap : Nat → CharReader Unit
  | 0 => failure
  | bound + 1 => do
    blanks
    comment
    match ← peek with
    | some '\n' | some '\r' => newline; gap bound
    | _ => pure ()

/-- The code point written with the given number of hexadecimal digits. -/
def codePoint (count : Nat) : CharReader Char := do
  let digits := (← get).take count
  modify (·.drop count)
  let values ← digits.mapM fun c =>
    if c.toNat < 128 then Json.hexValue? (UInt8.ofNat c.toNat) else none
  let code := values.foldl (· * 16 + ·) 0
  guard (digits.length = count && code.isValidChar)
  pure (Char.ofNat code)

/-- The character of an escape, after the backslash. -/
def escape : CharReader Char := do
  match ← next with
  | 'b' => pure '\x08'
  | 't' => pure '\t'
  | 'n' => pure '\n'
  | 'f' => pure '\x0c'
  | 'r' => pure '\r'
  | 'e' => pure '\x1b'
  | '"' => pure '"'
  | '\\' => pure '\\'
  | 'x' => codePoint 2
  | 'u' => codePoint 4
  | 'U' => codePoint 8
  | _ => failure

/-- The rest of a text on one line, after its opening quote. -/
def lineText (quote : Char) : Nat → CharReader (List Char)
  | 0 => failure
  | bound + 1 => do
    let c ← next
    if c = quote then pure []
    else if c = '\\' && quote = '"' then
      let decoded ← escape
      pure (decoded :: (← lineText quote bound))
    else
      guard (isTextChar c)
      pure (c :: (← lineText quote bound))

/-- The rest of a text over several lines, after its opening quotes. A backslash before a line
break joins the lines. -/
def blockText (quote : Char) : Nat → CharReader (List Char)
  | 0 => failure
  | bound + 1 => do
    if ← optionally [quote, quote, quote] then
      let more ← run (· == quote)
      guard (more.length ≤ 2)
      pure more
    else match ← next with
      | '\n' => pure ('\n' :: (← blockText quote bound))
      | '\r' =>
        exactly ['\n']
        pure ('\r' :: '\n' :: (← blockText quote bound))
      | '\\' =>
        if quote = '"' then
          let rest := (← get).dropWhile fun c => c == ' ' || c == '\t'
          if rest.head? = some '\n' || rest.head? = some '\r' then
            set rest
            newline
            let _ ← run fun c => c == ' ' || c == '\t' || c == '\n' || c == '\r'
            blockText quote bound
          else
            let decoded ← escape
            pure (decoded :: (← blockText quote bound))
        else pure ('\\' :: (← blockText quote bound))
      | c =>
        guard (isTextChar c)
        pure (c :: (← blockText quote bound))

/-- A bound on the number of steps that can follow. -/
def bound : CharReader Nat := fun rest => some (rest.length + 1, rest)

/-- A text, from its first quote on. -/
def quoted (quote : Char) : CharReader String := do
  if ← optionally [quote, quote, quote] then
    if !(← optionally ['\n']) then
      let _ ← optionally ['\r', '\n']
    String.ofList <$> blockText quote (← bound)
  else
    exactly [quote]
    String.ofList <$> lineText quote (← bound)

/-- One part of a key. -/
def simpleKey : CharReader String := do
  match ← peek with
  | some '"' =>
    exactly ['"']
    String.ofList <$> lineText '"' (← bound)
  | some '\'' =>
    exactly ['\'']
    String.ofList <$> lineText '\'' (← bound)
  | _ =>
    let chars ← run isBareKeyChar
    guard (!chars.isEmpty)
    pure (String.ofList chars)

/-- A key of one or more parts with dots between them. -/
def key : Nat → CharReader (List String)
  | 0 => failure
  | bound + 1 => do
    blanks
    let first ← simpleKey
    blanks
    if ← optionally ['.'] then pure (first :: (← key bound)) else pure [first]

/-- The elements of an array up to its bracket. -/
def elements (value : CharReader Value) : Nat → CharReader (List Value)
  | 0 => failure
  | limit + 1 => do
    gap (← bound)
    if ← optionally [']'] then pure []
    else
      let element ← value
      gap (← bound)
      if ← optionally [','] then pure (element :: (← elements value limit))
      else
        exactly [']']
        pure [element]

/-- The entries of an inline table up to its brace. -/
def inlineEntries (value : CharReader Value) : Nat → Entries → CharReader Entries
  | 0, _ => failure
  | limit + 1, entries => do
    gap (← bound)
    if ← optionally ['\x7d'] then pure entries
    else
      let path ← key (← bound)
      exactly ['=']
      blanks
      let entries ← (define path (← value) entries : Option Entries)
      gap (← bound)
      if ← optionally [','] then inlineEntries value limit entries
      else
        exactly ['\x7d']
        pure entries

/-- A value; the argument bounds its nesting. -/
def value : Nat → CharReader Value
  | 0 => failure
  | depth + 1 => do
    match ← peek with
    | some '"' => .text <$> quoted '"'
    | some '\'' => .text <$> quoted '\''
    | some 't' => exactly "true".toList; pure (.boolean true)
    | some 'f' => exactly "false".toList; pure (.boolean false)
    | some '[' => exactly ['[']; .array <$> elements (value depth) (← bound)
    | some '\x7b' => exactly ['\x7b']; .table .inline <$> inlineEntries (value depth) (← bound) []
    | _ => failure

/-- The end of a line. -/
def lineEnd : CharReader Unit := do
  blanks
  comment
  if (← peek).isSome then newline

/-- The lines of a file, the entries read so far and the path of the open table. -/
def lines : Nat → Entries → List String → CharReader Entries
  | 0, _, _ => failure
  | limit + 1, entries, current => do
    gap (← bound)
    if (← peek).isNone then pure entries
    else if ← optionally ['['] then
      let path ← key (← bound)
      exactly [']']
      lineEnd
      lines limit (← (openTable path entries : Option Entries)) path
    else
      let path ← key (← bound)
      exactly ['=']
      blanks
      let read ← value (← bound)
      lineEnd
      lines limit (← (within (define path read) current entries : Option Entries)) current

end CharReader

/-- The entries of a settings file, unless it is malformed. A byte order mark is passed over. -/
def parse? (text : String) : Option Entries :=
  let chars := match text.toList with
    | '\ufeff' :: rest => rest
    | chars => chars
  (·.1) <$> CharReader.lines (chars.length + 1) [] [] chars

end RecordCoding.Toml
