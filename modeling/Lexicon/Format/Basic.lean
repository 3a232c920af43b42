import Lexicon.Identifier.Nsid
import Lexicon.Text.Ascii

/-!
# Lexicon.Format.Basic

The string formats that a few characters decide: handles, content
identifiers and language tags.
-/

namespace Lexicon

namespace Format

/-- The greatest length in bytes of a handle. -/
def maxHandleLength : Nat := 253

/-- A domain name of at least two labels. -/
def isHandle (value : String) : Bool :=
  let labels := Text.splitOn '.' value
  value.utf8ByteSize ≤ maxHandleLength && 2 ≤ labels.length && labels.all Label.isLabel

/-- The text of a content identifier: 8 to 256 ASCII letters and digits. -/
def isCid (value : String) : Bool :=
  8 ≤ value.utf8ByteSize && value.utf8ByteSize ≤ 256 && value.toList.all Text.isAsciiAlphanumeric

/-- A run of exactly `count` ASCII letters. -/
def isLetters (count : Nat) (value : String) : Bool :=
  value.length == count && value.toList.all Text.isAsciiLetter

/-- A language of two letters, then perhaps a script of four, then perhaps a region of two. -/
def isLanguage (value : String) : Bool :=
  match Text.splitOn '-' value with
  | [language] => isLetters 2 language
  | [language, tail] => isLetters 2 language && (isLetters 4 tail || isLetters 2 tail)
  | [language, script, region] => isLetters 2 language && isLetters 4 script && isLetters 2 region
  | _ => false

end Format

end Lexicon
