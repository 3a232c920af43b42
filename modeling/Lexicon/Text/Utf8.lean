/-!
# Lexicon.Text.Utf8

The encoded form of text.
-/

namespace Lexicon

namespace Text

/-- The bytes of a text in UTF-8. -/
def utf8 (s : String) : List UInt8 := s.toUTF8.toList

/-- The text that bytes encode, if they encode any. -/
def ofUtf8? (bytes : List UInt8) : Option String := String.fromUTF8? ⟨bytes.toArray⟩

/-- The number of bytes that characters take in UTF-8. -/
def encodedLength (cs : List Char) : Nat := cs.foldl (fun n c => n + c.utf8Size) 0

end Text

end Lexicon
