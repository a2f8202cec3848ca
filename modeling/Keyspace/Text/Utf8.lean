import Keyspace.Bytes

/-!
# UTF-8

Text is stored as UTF-8.  Reading is strict: surrogates, overlong forms and
cut-off sequences are no text.  The bytewise order of encoded texts is the
order of their code points.
-/

namespace Keyspace
namespace Utf8

/-- The bytes of a text. -/
def encode (text : String) : Bytes :=
  text.toByteArray.data.toList

/-- The text that a byte string encodes, if it encodes one. -/
def decode? (bytes : Bytes) : Option String :=
  if valid : (ByteArray.mk bytes.toArray).IsValidUTF8 then
    some (String.ofByteArray _ valid)
  else none

/-- The order of texts by code points. -/
def compare (left right : String) : Ordering :=
  Bytes.compare (encode left) (encode right)

@[simp] theorem decode_encode
    (text : String) :
    decode? (encode text) = some text := by
  simp [decode?, encode, text.isValidUTF8]

end Utf8
end Keyspace
