import Keyspace.Tuple.Pack

/-!
# Reading packed tuples

A reader stands at a byte offset of a packed tuple.  Reading an element moves
it past the element; a failed read names the offset of the fault and leaves
the reader where it gave up.
-/

namespace Keyspace

/-- A place in a packed tuple. -/
structure Reader where
  /-- How many bytes have been read. -/
  position : Nat
  /-- The bytes still to read. -/
  rest : Bytes
  deriving DecidableEq, Repr

/-- A step of reading, which moves the reader also when it fails. -/
abbrev Decoder := EStateM Error Reader

namespace Reader

/-- A reader at the first byte. -/
def start (bytes : Bytes) : Reader :=
  ⟨0, bytes⟩

/-- Whether every byte has been read. -/
def isAtEnd (reader : Reader) : Bool :=
  reader.rest.isEmpty

end Reader

namespace Decoder

/-- Fail with a fault at a byte offset. -/
def fail {α : Type} (position : Nat) (message : String) : Decoder α :=
  throw (.tupleDecode position message)

/-- Read one byte. -/
def byte : Decoder UInt8 := fun reader =>
  match reader.rest with
  | [] => .error (.tupleDecode reader.position "unexpected end of tuple") reader
  | first :: rest => .ok first ⟨reader.position + 1, rest⟩

/-- Read a given number of bytes. -/
def take (count : Nat) : Decoder Bytes := fun reader =>
  let taken := reader.rest.take count
  if taken.length = count then
    .ok taken ⟨reader.position + count, reader.rest.drop count⟩
  else
    .error
      (.tupleDecode reader.position s!"need {count} bytes, {taken.length} left")
      reader

/-- Undo the escaping of content that goes on at a byte offset: what lies
before the closing zero byte, behind `done` reversed. -/
def unescapeOnto
    (done : Bytes)
    (position : Nat) :
    Bytes -> EStateM.Result Error Reader Bytes
  | [] => .error (.tupleDecode position "unexpected end of tuple") ⟨position, []⟩
  | byte :: rest =>
      if byte = 0 then
        match rest with
        | [] => .ok done.reverse ⟨position + 1, []⟩
        | next :: beyond =>
            if next = TypeCode.escape then unescapeOnto (0 :: done) (position + 2) beyond
            else .ok done.reverse ⟨position + 1, rest⟩
      else unescapeOnto (byte :: done) (position + 1) rest

/-- Read escaped content, up to its closing zero byte. -/
def escaped : Decoder Bytes := fun reader =>
  unescapeOnto [] reader.position reader.rest

/-- The integer of a magnitude, as the narrowest element. -/
def signed (negative : Bool) (magnitude : Bytes) : Element :=
  let number : Int := Bytes.toNat magnitude
  Element.ofInt (if negative then -number else number)

/-- Read an integer of a given number of magnitude bytes. -/
def integer (negative : Bool) (count : Nat) : Decoder Element := do
  let stored ← take count
  return signed negative (if negative then Bytes.complement stored else stored)

/-- The greatest number that decimal digits are collected into. -/
def maxCollected : Nat := 0x7FFFFFFFFFFFFFFFFFFFFFFFFFFFFFFF

/-- Read the digits of a decimal up to the closing zero byte, after `count`
digits that make up `mantissa`.  The element began at `start`. -/
def digitsOnto
    (start : Nat)
    (negative : Bool)
    (position mantissa count : Nat) :
    Bytes -> EStateM.Result Error Reader (Nat × Nat)
  | [] => .error (.tupleDecode position "unexpected end of tuple") ⟨position, []⟩
  | stored :: rest =>
      let byte := if negative then ~~~stored else stored
      let behind : Reader := ⟨position + 1, rest⟩
      if byte = 0 then .ok (mantissa, count) behind
      else if 10 < byte then .error (.tupleDecode start "bad decimal digit") behind
      else
        let longer := mantissa * 10 + (byte.toNat - 1)
        if maxCollected < longer then
          .error (.tupleDecode start "decimal has too many digits") behind
        else digitsOnto start negative (position + 1) longer (count + 1) rest

/-- Read the digits of a decimal and count them. -/
def digits (start : Nat) (negative : Bool) : Decoder (Nat × Nat) := fun reader =>
  digitsOnto start negative reader.position 0 0 reader.rest

/-- The decimal of collected digits, scaled by an exponent that counts the
digits before the point. -/
def assemble
    (start : Nat)
    (negative : Bool)
    (mantissa count : Nat)
    (exponent : Int) : Except Error Decimal :=
  let places := (count : Int) - exponent
  let factor := Nat.pow 10 (-places).toNat
  if count = 0 then .error (.tupleDecode start "decimal has no digits")
  else if maxCollected < factor ∨ maxCollected < mantissa * factor then
    .error (.tupleDecode start "decimal exponent out of range")
  else if (Decimal.maxScale : Int) < places then
    .error (.tupleDecode start "decimal scale out of range")
  else
    let magnitude : Int := (mantissa * factor : Nat)
    let number := if negative then -magnitude else magnitude
    match Decimal.ofParts? number places.toNat with
    | some decimal => .ok decimal
    | none => .error (.tupleDecode start (Decimal.rangeMessage number))

/-- Read a decimal behind its type code, which stood at `start`. -/
def decimal (start : Nat) : Decoder Element := do
  let sign ← byte
  if sign = TypeCode.decimalZero then
    return .decimal Decimal.zero
  else if sign = TypeCode.decimalNegative ∨ sign = TypeCode.decimalPositive then
    let negative := decide (sign = TypeCode.decimalNegative)
    let stored ← byte
    let biased := if negative then ~~~stored else stored
    let exponent := (biased.toNat : Int) - TypeCode.decimalBias
    let (mantissa, count) ← digits start negative
    match assemble start negative mantissa count exponent with
    | .ok number => return .decimal number
    | .error error => throw error
  else
    fail start s!"bad decimal sign byte 0x{Bytes.toHex [sign]}"

/-- Read the value behind a type code, which stood at `start`. -/
def value (start : Nat) (code : UInt8) : Decoder Element := do
  if code = TypeCode.null then
    return .null
  else if code = TypeCode.bytes then
    return .bytes (← escaped)
  else if code = TypeCode.string then
    match Utf8.decode? (← escaped) with
    | some text => return .string text
    | none => fail start "string element is not UTF-8"
  else if code = TypeCode.negativeLong then
    integer true (~~~(← byte)).toNat
  else if TypeCode.negativeLong < code ∧ code < TypeCode.integerZero then
    integer true (TypeCode.integerZero - code).toNat
  else if code = TypeCode.integerZero then
    return .integer 0
  else if TypeCode.integerZero < code ∧ code < TypeCode.positiveLong then
    integer false (code - TypeCode.integerZero).toNat
  else if code = TypeCode.positiveLong then
    integer false (← byte).toNat
  else if code = TypeCode.float then
    let key := Bytes.toNat (← take 4)
    return .float ⟨UInt32.ofNat (BinaryFormat.single.ofOrderKey key)⟩
  else if code = TypeCode.double then
    let key := Bytes.toNat (← take 8)
    return .double ⟨UInt64.ofNat (BinaryFormat.double.ofOrderKey key)⟩
  else if code = TypeCode.false then
    return .boolean false
  else if code = TypeCode.true then
    return .boolean true
  else if code = TypeCode.uuid then
    match Uuid.ofBytes? (← take 16) with
    | some identifier => return .uuid identifier
    | none => fail start "identifier is not sixteen bytes long"
  else if code = TypeCode.decimal then
    decimal start
  else
    fail start s!"unknown type code 0x{Bytes.toHex [code]}"

/-- Read the next element. -/
def element : Decoder Element := do
  let start := (← get).position
  value start (← byte)

/-- Read elements up to the end, behind `done` reversed.  Every element takes
at least one byte, so as many steps as there are bytes are enough. -/
def elementsOnto (done : List Element) : Nat -> Decoder Tuple
  | 0 => return done.reverse
  | steps + 1 => do
      if (← get).isAtEnd then return done.reverse
      else
        let next ← element
        elementsOnto (next :: done) steps

end Decoder

namespace Tuple

/-- The tuple that a whole byte string packs. -/
def unpack (bytes : Bytes) : Except Error Tuple :=
  match Decoder.elementsOnto [] bytes.length (Reader.start bytes) with
  | .ok tuple _ => .ok tuple
  | .error error _ => .error error

end Tuple
end Keyspace
