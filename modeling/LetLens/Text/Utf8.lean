/-! Texts as bytes: their encoding in UTF-8, and the text that valid UTF-8 encodes. -/

namespace LetLens

abbrev Bytes := List UInt8

def encode (text : String) : Bytes := text.toUTF8.data.toList

def decode? (bytes : Bytes) : Option String := String.fromUTF8? bytes.toByteArray

end LetLens
