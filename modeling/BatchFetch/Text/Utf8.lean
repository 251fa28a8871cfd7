/-! # UTF-8

The bytes that write a text, and the text that bytes write. -/

namespace BatchFetch.Utf8

def encode (cs : List Char) : List UInt8 := cs.flatMap String.utf8EncodeChar

/-- The text of which these are the bytes, if there is one. -/
def decode? (bytes : List UInt8) : Option (List Char) :=
  (String.fromUTF8? ⟨bytes.toArray⟩).map String.toList

end BatchFetch.Utf8
