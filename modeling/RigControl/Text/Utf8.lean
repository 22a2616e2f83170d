/-
Text on a byte link. Characters travel in UTF-8.
-/

namespace RigControl.Text

def utf8 (s : List Char) : List UInt8 :=
  (String.ofList s).toByteArray.data.toList

/-- The text that the bytes spell, unless they are no UTF-8. -/
def ofUtf8? (bytes : List UInt8) : Option (List Char) :=
  (ByteArray.utf8Decode? ⟨bytes.toArray⟩).map Array.toList

end RigControl.Text
