import Keyspace.Tuple.Reader

/-!
# Reading in machine words

Packed tuples are read by position here, with the operations of a machine:
slices of the bytes, differences of numbers without a sign, places of decimals
in words of 32 bits and their mantissas in words of 128.  Where an operation is
tried first, a result that does not fit is an error of the bytes.  Any other
operation without a result is a fault of the reader.
-/

namespace Keyspace

/-- What an operation has no result for. -/
inductive Fault where
  /-- A slice that is not inside the bytes or has not the length asked for. -/
  | slice
  /-- A difference below zero of numbers without a sign. -/
  | difference
  /-- A count of digits or of places that needs more than 32 bits. -/
  | count
  /-- A negative number that needs more than 128 bits. -/
  | negation
  /-- A loop that goes on when no byte is left for it. -/
  | loop
  deriving DecidableEq, Repr

/-- Why a guarded step ends early. -/
inductive Stop where
  /-- The bytes are not those of a tuple. -/
  | error (error : Error)
  /-- The reader is at fault. -/
  | fault (fault : Fault)
  deriving DecidableEq, Repr

/-- A step of reading given bytes, from a position and on to another. -/
abbrev Guarded := ReaderT Bytes (EStateM Stop Nat)

namespace Guarded

/-! ## Operations -/

/-- Fail with a fault of the bytes at an offset. -/
def fail {α : Type} (position : Nat) (message : String) : Guarded α :=
  throw (.error (.tupleDecode position message))

/-- The difference of two numbers without a sign. -/
def difference (left right : Nat) : Guarded Nat :=
  if right ≤ left then return left - right else throw (.fault .difference)

/-- The bytes from one position up to another. -/
def slice (first behind : Nat) : Guarded Bytes := do
  let bytes ← read
  if first ≤ behind ∧ behind ≤ bytes.length then
    return (bytes.drop first).take (behind - first)
  else throw (.fault .slice)

/-- Check that a number fits a word of 32 bits with a sign. -/
def count (number : Int) : Guarded Unit :=
  if -0x80000000 ≤ number ∧ number < 0x80000000 then return ()
  else throw (.fault .count)

/-- The negative of a number in a word of 128 bits with a sign. -/
def negation (number : Int) : Guarded Int :=
  if -0x80000000000000000000000000000000 ≤ -number
      ∧ -number < 0x80000000000000000000000000000000 then
    return -number
  else throw (.fault .negation)

/-- The sum of two natural numbers, if it fits 128 bits with a sign. -/
def sum? (left right : Nat) : Option Nat :=
  if left + right < 0x80000000000000000000000000000000 then some (left + right) else none

/-- The product of two natural numbers, if it fits 128 bits with a sign. -/
def product? (left right : Nat) : Option Nat :=
  if left * right < 0x80000000000000000000000000000000 then some (left * right) else none

/-- A power of ten, if it fits 128 bits with a sign. -/
def power? (exponent : Nat) : Option Nat :=
  if Nat.pow 10 exponent < 0x80000000000000000000000000000000 then some (Nat.pow 10 exponent)
  else none

/-! ## Bytes -/

/-- Read one byte. -/
def byte : Guarded UInt8 := do
  let position ← get
  match (← read)[position]? with
  | some found =>
      set (position + 1)
      return found
  | none => fail position "unexpected end of tuple"

/-- Read a given number of bytes. -/
def take (count : Nat) : Guarded Bytes := do
  let position ← get
  let length := (← read).length
  if length < position + count then
    let left ← difference length position
    fail position s!"need {count} bytes, {left} left"
  else
    let taken ← slice position (position + count)
    set (position + count)
    return taken

/-- Read bytes into an array of a fixed length. -/
def array (length : Nat) : Guarded Bytes := do
  let taken ← take length
  if taken.length = length then return taken else throw (.fault .slice)

/-- Undo the escaping of content, in at most `steps` rounds. -/
def unescapeOnto (done : Bytes) : Nat -> Guarded Bytes
  | 0 => throw (.fault .loop)
  | steps + 1 => do
      let found ← byte
      if found = 0 then
        let position ← get
        if (← read)[position]? = some TypeCode.escape then
          set (position + 1)
          unescapeOnto (0 :: done) steps
        else return done.reverse
      else unescapeOnto (found :: done) steps

/-- Read escaped content. -/
def escaped : Guarded Bytes := do
  unescapeOnto [] ((← read).length + 1)

/-! ## Elements -/

/-- Read an integer of a given number of magnitude bytes. -/
def integer (negative : Bool) (count : Nat) : Guarded Element := do
  let stored ← take count
  return Decoder.signed negative (if negative then Bytes.complement stored else stored)

/-- Read the digits of a decimal, in at most `steps` rounds. -/
def digitsOnto
    (start : Nat)
    (negative : Bool)
    (mantissa digits : Nat) : Nat -> Guarded (Nat × Nat)
  | 0 => throw (.fault .loop)
  | steps + 1 => do
      let stored ← byte
      let found := if negative then ~~~stored else stored
      if found = 0 then return (mantissa, digits)
      else if 10 < found then fail start "bad decimal digit"
      else
        let digit ← difference found.toNat 1
        match (product? mantissa 10).bind fun tenfold => sum? tenfold digit with
        | some longer =>
            count (digits + 1)
            digitsOnto start negative longer (digits + 1) steps
        | none => fail start "decimal has too many digits"

/-- Read the digits of a decimal and count them. -/
def digits (start : Nat) (negative : Bool) : Guarded (Nat × Nat) := do
  digitsOnto start negative 0 0 ((← read).length + 1)

/-- The mantissa and the scale of collected digits with a number of places,
which may be below zero. -/
def scaled (start mantissa : Nat) (places : Int) : Guarded (Nat × Nat) :=
  if places < 0 then
    match (power? places.natAbs).bind fun factor => product? mantissa factor with
    | some longer => return (longer, 0)
    | none => fail start "decimal exponent out of range"
  else return (mantissa, places.toNat)

/-- A mantissa with its sign. -/
def signed (negative : Bool) (mantissa : Nat) : Guarded Int :=
  if negative then negation mantissa else return mantissa

/-- The decimal of collected digits. -/
def assemble
    (start : Nat)
    (negative : Bool)
    (mantissa digits : Nat)
    (exponent : Int) : Guarded Element := do
  if digits = 0 then fail start "decimal has no digits"
  else
    count (digits - exponent)
    let (longer, scale) ← scaled start mantissa (digits - exponent)
    if Decimal.maxScale < scale then fail start "decimal scale out of range"
    else
      let number ← signed negative longer
      match Decimal.ofParts? number scale with
      | some decimal => return .decimal decimal
      | none => fail start (Decimal.rangeMessage number)

/-- Read a decimal behind its type code, which stood at `start`. -/
def decimal (start : Nat) : Guarded Element := do
  let sign ← byte
  if sign = TypeCode.decimalZero then
    return .decimal Decimal.zero
  else if sign = TypeCode.decimalNegative ∨ sign = TypeCode.decimalPositive then
    let negative := decide (sign = TypeCode.decimalNegative)
    let stored ← byte
    let biased := if negative then ~~~stored else stored
    let exponent := (biased.toNat : Int) - TypeCode.decimalBias
    count exponent
    let (mantissa, found) ← digits start negative
    assemble start negative mantissa found exponent
  else
    fail start s!"bad decimal sign byte 0x{Bytes.toHex [sign]}"

/-- Read the value behind a type code, which stood at `start`. -/
def value (start : Nat) (code : UInt8) : Guarded Element := do
  if code = TypeCode.null then
    return .null
  else if code = TypeCode.bytes then
    return .bytes (← escaped)
  else if code = TypeCode.string then
    match Utf8.decode? (← escaped) with
    | some text => return .string text
    | none => fail start "string element is not UTF-8"
  else if code = TypeCode.negativeLong then
    integer true (~~~(← byte)).toNat
  else if TypeCode.negativeLong < code ∧ code < TypeCode.integerZero then
    integer true (← difference TypeCode.integerZero.toNat code.toNat)
  else if code = TypeCode.integerZero then
    return .integer 0
  else if TypeCode.integerZero < code ∧ code < TypeCode.positiveLong then
    integer false (← difference code.toNat TypeCode.integerZero.toNat)
  else if code = TypeCode.positiveLong then
    integer false (← byte).toNat
  else if code = TypeCode.float then
    let key := Bytes.toNat (← array 4)
    return .float ⟨UInt32.ofNat (BinaryFormat.single.ofOrderKey key)⟩
  else if code = TypeCode.double then
    let key := Bytes.toNat (← array 8)
    return .double ⟨UInt64.ofNat (BinaryFormat.double.ofOrderKey key)⟩
  else if code = TypeCode.false then
    return .boolean false
  else if code = TypeCode.true then
    return .boolean true
  else if code = TypeCode.uuid then
    match Uuid.ofBytes? (← array 16) with
    | some identifier => return .uuid identifier
    | none => throw (.fault .slice)
  else if code = TypeCode.decimal then
    decimal start
  else
    fail start s!"unknown type code 0x{Bytes.toHex [code]}"

/-- Read the next element. -/
def element : Guarded Element := do
  let start ← get
  value start (← byte)

/-- Read elements up to the end, behind `done` reversed, in at most `steps`
rounds. -/
def elementsOnto (done : List Element) : Nat -> Guarded Tuple
  | 0 => throw (.fault .loop)
  | steps + 1 => do
      if (← read).length ≤ (← get) then return done.reverse
      else
        let next ← element
        elementsOnto (next :: done) steps

/-- The tuple that a whole byte string packs. -/
def unpack (bytes : Bytes) : Except Stop Tuple :=
  match elementsOnto [] (bytes.length + 1) bytes 0 with
  | .ok tuple _ => .ok tuple
  | .error stop _ => .error stop

end Guarded
end Keyspace
