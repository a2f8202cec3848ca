import Keyspace.Toml.Literal
import Keyspace.Toml.Path

/-!
# Scanning settings files

A scanner takes characters from the front of a text and gives what they write,
or gives up.  A document is a list of statements, one a line: headers, and keys
with their values.
-/

namespace Keyspace
namespace Toml

/-- What takes characters from the front of a text. -/
abbrev Scanner := StateT (List Char) Option

namespace Scanner

/-! ## Characters -/

/-- The next character, which stays. -/
def peek? : Scanner (Option Char) := do
  return (← get).head?

/-- Take the next character. -/
def next : Scanner Char := do
  match ← get with
  | [] => failure
  | character :: rest =>
      set rest
      return character

/-- Take given characters. -/
def expect (characters : List Char) : Scanner Unit := do
  let text ← get
  if characters.isPrefixOf text then set (text.drop characters.length) else failure

/-- Take the characters up to the first that does not pass a test. -/
def takeWhile (test : Char -> Bool) : Scanner (List Char) := do
  let text ← get
  set (text.dropWhile test)
  return text.takeWhile test

/-- Take items as long as a step gives one, behind `done` reversed.  There is
an item for every character of a text at most. -/
def collect {α : Type} (step : Scanner (Option α)) (done : List α) :
    List Char -> Scanner (List α)
  | [] => do
      match ← step with
      | none => return done.reverse
      | some _ => failure
  | _ :: characters => do
      match ← step with
      | none => return done.reverse
      | some item => collect step (item :: done) characters

/-- Take items as long as a step gives one and takes a character for it. -/
def many {α : Type} (step : Scanner (Option α)) : Scanner (List α) := do
  collect step [] (← get)

/-! ## Character classes -/

/-- The double quote. -/
def doubleQuote : Char := Char.ofNat 0x22

/-- The single quote. -/
def singleQuote : Char := Char.ofNat 0x27

/-- The backslash. -/
def backslash : Char := Char.ofNat 0x5C

/-- Whether a character is a blank within a line. -/
def isBlank (character : Char) : Bool :=
  character == ' ' || character == '\t'

/-- Whether a character may stand in texts and comments: all but controls,
the tab excepted. -/
def isPlain (character : Char) : Bool :=
  character == '\t' || (decide (0x20 ≤ character.toNat) && character.toNat != 0x7F)

/-- Whether a character can stand in a key without quotes. -/
def isBareKey (character : Char) : Bool :=
  character.isAlphanum || character == '_' || character == '-'

/-! ## Blanks and comments -/

/-- Take blanks. -/
def blanks : Scanner Unit := do
  discard (takeWhile isBlank)

/-- Take a line break, if there is one, and tell whether there was. -/
def lineBreak : Scanner Bool := do
  match ← get with
  | '\n' :: rest =>
      set rest
      return true
  | '\r' :: '\n' :: rest =>
      set rest
      return true
  | _ => return false

/-- Take a comment, if there is one. -/
def comment : Scanner Unit := do
  if (← peek?) == some '#' then discard (takeWhile isPlain)

/-- Take what may follow a statement: blanks, a comment, and the end of the
line or of the text. -/
def lineEnd : Scanner Unit := do
  blanks
  comment
  if (← get).isEmpty then return
  else if ← lineBreak then return
  else failure

/-- Take blanks, comments and line breaks. -/
def spacing : Scanner Unit := do
  let line : Scanner (Option Unit) := do
    blanks
    comment
    if ← lineBreak then return some () else return none
  discard (many line)

/-! ## Texts -/

/-- The character with a code point of so many hexadecimal digits. -/
def codePoint (width : Nat) : Scanner Char := do
  let text ← get
  match Literal.run? 16 (text.take width) with
  | none => failure
  | some code =>
      if (text.take width).length = width ∧ code.isValidChar then
        set (text.drop width)
        return Char.ofNat code
      else failure

/-- The character that an escape stands for, behind the backslash. -/
def escape : Scanner Char := do
  let letter ← next
  if letter == doubleQuote || letter == backslash then return letter
  else
    match letter with
    | 'b' => return Char.ofNat 0x08
    | 't' => return '\t'
    | 'n' => return '\n'
    | 'f' => return Char.ofNat 0x0C
    | 'r' => return '\r'
    | 'u' => codePoint 4
    | 'U' => codePoint 8
    | _ => failure

/-- The rest of a text on one line, behind its first quote. -/
def lineText (quote : Char) : Scanner String := do
  let step : Scanner (Option Char) := do
    let character ← next
    if character == quote then return none
    else if character == backslash && quote == doubleQuote then return some (← escape)
    else if isPlain character then return some character
    else failure
  return String.ofList (← many step)

/-- Take a line end with all blanks and line ends behind it. -/
def foldedLines : Scanner Unit := do
  blanks
  if ← lineBreak then
    let line : Scanner (Option Unit) := do
      blanks
      if ← lineBreak then return some () else return none
    discard (many line)
  else failure

/-- Whether a backslash ends a line. -/
def endsLine (text : List Char) : Bool :=
  match text.dropWhile isBlank with
  | '\n' :: _ => true
  | '\r' :: '\n' :: _ => true
  | _ => false

/-- Some characters of a text of several lines; none before three quotes. -/
def blockPart (quote : Char) : Scanner (Option (List Char)) := do
  let quotes := (← get).takeWhile fun character => character == quote
  if 3 ≤ quotes.length then return none
  else if ← lineBreak then return some ['\n']
  else
    let character ← next
    if character == backslash && quote == doubleQuote then
      if endsLine (← get) then
        foldedLines
        return some []
      else return some [← escape]
    else if isPlain character then return some [character]
    else failure

/-- The rest of a text of several lines, behind its first three quotes.  A
line break right behind them does not count, and of five quotes at the end two
belong to the text. -/
def blockText (quote : Char) : Scanner String := do
  discard lineBreak
  let parts ← many (blockPart quote)
  let quotes := ((← get).takeWhile fun character => character == quote).take 5
  expect quotes
  return String.ofList (parts.flatten ++ quotes.drop 3)

/-- A text whose first character is a given quote. -/
def text (quote : Char) : Scanner String := do
  if (List.replicate 3 quote).isPrefixOf (← get) then
    expect (List.replicate 3 quote)
    blockText quote
  else
    expect [quote]
    lineText quote

/-! ## Keys -/

/-- A part of a key: a bare word, or a text on one line. -/
def keyPart : Scanner String := do
  match ← peek? with
  | none => failure
  | some character =>
      if character == doubleQuote || character == singleQuote then
        expect [character]
        lineText character
      else
        let word ← takeWhile isBareKey
        if word.isEmpty then failure else return String.ofList word

/-- How deep documents go: keys have fewer parts, and values nest less
deeply. -/
def depthLimit : Nat := 80

/-- A key: parts with points between them. -/
def key : Scanner (List String) := do
  blanks
  let first ← keyPart
  let other : Scanner (Option String) := do
    blanks
    if (← peek?) == some '.' then
      expect ['.']
      blanks
      return some (← keyPart)
    else return none
  let path := first :: (← many other)
  if path.length < depthLimit then return path else failure

/-! ## Values -/

/-- A word; a date may be followed by a time behind one blank. -/
def word : Scanner (List Char) := do
  let first ← takeWhile Literal.isWordCharacter
  match ← get with
  | ' ' :: digit :: rest =>
      if Literal.isDate first && digit.isDigit then
        set (digit :: rest)
        let second ← takeWhile Literal.isWordCharacter
        return first ++ ' ' :: second
      else return first
  | _ => return first

/-- The value that the next word writes. -/
def wordValue : Scanner Value := do
  match Literal.value? (← word) with
  | some value => return value
  | none => failure

/-- A value that holds no others: a text or a word. -/
def plainValue : Scanner Value := do
  match ← peek? with
  | none => failure
  | some character =>
      if character == doubleQuote || character == singleQuote then
        return .string (← text character)
      else wordValue

/-- The items of an array behind its opening bracket, up to the closing one.
A comma may follow the last item. -/
def arrayItems (item : Scanner Value) : Scanner (List Value) := do
  let behindComma : Scanner (Option Value) := do
    if (← peek?) == some ',' then
      expect [',']
      spacing
      if (← peek?) == some ']' then return none
      else
        let next ← item
        spacing
        return some next
    else return none
  spacing
  if (← peek?) == some ']' then
    expect [']']
    return []
  else
    let first ← item
    spacing
    let others ← many behindComma
    expect [']']
    return first :: others

/-- A key of a table between braces, with its value. -/
def tablePair (item : Scanner Value) : Scanner (List String × Value) := do
  let path ← key
  blanks
  expect ['=']
  blanks
  let content ← item
  blanks
  return (path, content)

/-- The entries of a table behind its opening brace, up to the closing one. -/
def tableEntries (item : Scanner Value) : Scanner Entries := do
  let behindComma : Scanner (Option (List String × Value)) := do
    if (← peek?) == some ',' then
      expect [',']
      return some (← tablePair item)
    else return none
  blanks
  if (← peek?) == some '\x7d' then
    expect ['\x7d']
    return []
  else
    let first ← tablePair item
    let others ← many behindComma
    expect ['\x7d']
    let pairs := first :: others
    match pairs.foldlM (fun entries pair => Entries.addAt? pair.1 pair.2 entries) [] with
    | some entries => return entries
    | none => failure

/-- A value in which others nest up to a given depth. -/
def nestedValue : Nat -> Scanner Value
  | 0 => plainValue
  | depth + 1 => do
      match ← peek? with
      | some '[' =>
          expect ['[']
          return .array (← arrayItems (nestedValue depth))
      | some '\x7b' =>
          expect ['\x7b']
          return .table .value (← tableEntries (nestedValue depth))
      | _ => plainValue

/-- A value. -/
def value : Scanner Value :=
  nestedValue (depthLimit - 1)

end Scanner
end Toml
end Keyspace
