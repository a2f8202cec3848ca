import Keyspace.Number.Binary
import Keyspace.Text.Hexadecimal
import Keyspace.Text.Parts
import Keyspace.Toml.Value

/-!
# Literals of settings files

Numbers, truth values, dates and times are written as words without blanks.
Underscores may stand between digits, numbers have no leading zeros, floats are
not too great for a double, and days have to exist in their month.
-/

namespace Keyspace
namespace Toml
namespace Literal

/-! ## Digits -/

/-- The value of a digit of a base of at most sixteen. -/
def digit? (base : Nat) (character : Char) : Option Nat :=
  match Hexadecimal.digitValue? (if character.isUpper then character.toLower else character) with
  | some value => if value < base then some value else none
  | none => none

/-- The value of a nonempty run of digits. -/
def run? (base : Nat) (digits : List Char) : Option Nat :=
  if digits.isEmpty then none
  else do
    let values ← digits.mapM (digit? base)
    return values.foldl (fun number value => number * base + value) 0

/-- The value of digits with single underscores between them. -/
def grouped? (base : Nat) (digits : List Char) : Option Nat :=
  let parts := Parts.split '_' digits
  if parts.any List.isEmpty then none else run? base parts.flatten

/-- The value of decimal digits without a leading zero. -/
def whole? (digits : List Char) : Option Nat :=
  match digits with
  | '0' :: _ :: _ => none
  | _ => grouped? 10 digits

/-- Whether a number has a minus, and what follows its sign. -/
def signed : List Char -> Bool × List Char
  | '-' :: rest => (true, rest)
  | '+' :: rest => (false, rest)
  | rest => (false, rest)

/-! ## Numbers -/

/-- A number if it fits 64 bits. -/
def fitting? (number : Int) : Option Int :=
  if -0x8000000000000000 ≤ number ∧ number < 0x8000000000000000 then some number else none

/-- The integer that a word writes. -/
def integer? (word : List Char) : Option Int :=
  match word with
  | '0' :: 'x' :: digits => (grouped? 16 digits).bind fun number => fitting? number
  | '0' :: 'o' :: digits => (grouped? 8 digits).bind fun number => fitting? number
  | '0' :: 'b' :: digits => (grouped? 2 digits).bind fun number => fitting? number
  | _ =>
      let (negative, digits) := signed word
      (whole? digits).bind fun number => fitting? (if negative then -number else number)

/-- A float in digits, which stands for `± digits * 10 ^ exponent`. -/
structure Scientific where
  /-- Whether there is a minus. -/
  negative : Bool
  /-- The digits in front of the point and behind it. -/
  digits : List Char
  /-- The exponent of the last digit. -/
  exponent : Int
  deriving DecidableEq, Repr

/-- The exponent that characters write; none write zero. -/
def exponent? : List Char -> Option Int
  | [] => some 0
  | mark :: rest => do
      let (negative, digits) := signed rest
      let number ← grouped? 10 digits
      if mark == 'e' || mark == 'E' then
        return if negative then -number else number
      else none

/-- The float in digits that a word writes: a whole number with a fraction, an
exponent or both. -/
def scientific? (word : List Char) : Option Scientific := do
  let isMark (character : Char) : Bool := character == 'e' || character == 'E'
  let (negative, body) := signed word
  let mantissa := body.takeWhile fun character => !isMark character
  let marked := body.dropWhile fun character => !isMark character
  let exponent ← exponent? marked
  match Parts.split '.' mantissa with
  | [whole] =>
      discard (whole? whole)
      if marked.isEmpty then none
      else return ⟨negative, whole.filter Char.isDigit, exponent⟩
  | [whole, fraction] =>
      discard (whole? whole)
      discard (grouped? 10 fraction)
      let places := fraction.filter Char.isDigit
      return ⟨negative, whole.filter Char.isDigit ++ places, exponent - places.length⟩
  | _ => none

/-- How many digits the greatest double has in front of its point. -/
def greatestPlaces : Nat := 309

/-- Whether the nearest double is positive infinity.  The number of digits in
front of the point tells, unless it is that of the greatest double. -/
def Scientific.isTooGreat (number : Scientific) : Bool :=
  let significant := number.digits.dropWhile fun digit => digit == '0'
  let places := significant.length + number.exponent
  if number.negative ∨ significant = [] ∨ places < greatestPlaces then false
  else if greatestPlaces < places then true
  else
    match run? 10 significant with
    | none => false
    | some mantissa =>
        BinaryFormat.double.nearest (mantissa * Nat.pow 10 number.exponent.toNat)
            (Nat.pow 10 (-number.exponent).toNat)
          == BinaryFormat.double.infinityBits

/-- Whether a word writes a float, in digits or by name.  A float in digits is
not too great for a double. -/
def isFloat (word : List Char) : Bool :=
  let body := (signed word).2
  if body = ['i', 'n', 'f'] ∨ body = ['n', 'a', 'n'] then true
  else
    match scientific? word with
    | some number => !number.isTooGreat
    | none => false

/-! ## Dates and times -/

/-- A number of exactly so many digits. -/
def fixed? (width : Nat) (digits : List Char) : Option Nat :=
  if digits.length = width then run? 10 digits else none

/-- Whether a year has a day more in February. -/
def isLeapYear (year : Nat) : Bool :=
  year % 4 == 0 && (year % 100 != 0 || year % 400 == 0)

/-- How many days a month has. -/
def monthDays (year month : Nat) : Nat :=
  if month = 2 then (if isLeapYear year then 29 else 28)
  else if month = 4 ∨ month = 6 ∨ month = 9 ∨ month = 11 then 30
  else 31

/-- Whether characters write a day of the calendar. -/
def isDate (characters : List Char) : Bool :=
  match (Parts.split '-' characters) with
  | [year, month, day] =>
      match fixed? 4 year, fixed? 2 month, fixed? 2 day with
      | some year, some month, some day =>
          decide (1 ≤ month ∧ month ≤ 12 ∧ 1 ≤ day ∧ day ≤ monthDays year month)
      | _, _, _ => false
  | _ => false

/-- Whether characters write hours and minutes. -/
def isClock (hours minutes : List Char) : Bool :=
  match fixed? 2 hours, fixed? 2 minutes with
  | some hours, some minutes => decide (hours ≤ 23 ∧ minutes ≤ 59)
  | _, _ => false

/-- Whether characters write a time of day; a minute may have a leap
second. -/
def isTime (characters : List Char) : Bool :=
  let isSecond (characters : List Char) : Bool :=
    match Parts.split '.' characters with
    | [seconds] => ((fixed? 2 seconds).any fun number => decide (number ≤ 60))
    | [seconds, fraction] =>
        ((fixed? 2 seconds).any fun number => decide (number ≤ 60))
          && (run? 10 fraction).isSome
    | _ => false
  match Parts.split ':' characters with
  | [hours, minutes, seconds] => isClock hours minutes && isSecond seconds
  | _ => false

/-- Whether characters write a distance from universal time, or there are
none. -/
def isOffset : List Char -> Bool
  | [] => true
  | ['Z'] => true
  | ['z'] => true
  | sign :: rest =>
      (sign == '+' || sign == '-')
        && match Parts.split ':' rest with
          | [hours, minutes] => isClock hours minutes
          | _ => false

/-- How many characters a date takes. -/
def dateLength : Nat := 10

/-- Whether a word writes a date, a time or both. -/
def isMoment (word : List Char) : Bool :=
  let isClockCharacter (character : Char) : Bool :=
    character.isDigit || character == ':' || character == '.'
  match word.drop dateLength with
  | [] => isDate word || isTime word
  | between :: rest =>
      if between == 'T' || between == 't' || between == ' ' then
        isDate (word.take dateLength)
          && isTime (rest.takeWhile isClockCharacter)
          && isOffset (rest.dropWhile isClockCharacter)
      else isTime word

/-! ## Words -/

/-- Whether a character can stand in a word. -/
def isWordCharacter (character : Char) : Bool :=
  character.isAlphanum || character == '_' || character == '+' || character == '-'
    || character == '.' || character == ':'

/-- The value that a word writes. -/
def value? (word : List Char) : Option Value :=
  if word = ['t', 'r', 'u', 'e'] then some (.boolean true)
  else if word = ['f', 'a', 'l', 's', 'e'] then some (.boolean false)
  else
    match integer? word with
    | some number => some (.integer number)
    | none =>
        if isFloat word then some (.float (String.ofList word))
        else if isMoment word then some (.moment (String.ofList word))
        else none

end Literal
end Toml
end Keyspace
