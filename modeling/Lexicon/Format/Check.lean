import Lexicon.Format.Basic
import Lexicon.Format.Datetime
import Lexicon.Format.Uri
import Lexicon.Schema.TypeNode
import Lexicon.Text.Split

/-!
# Lexicon.Format.Check

What the string formats admit.
-/

namespace Lexicon

namespace StringFormat

/-- Whether a text has the format; nothing for a format of another dialect. -/
def admits? (format : StringFormat) (value : String) : Option Bool :=
  match format with
  | datetime => some (Datetime.isDatetime value)
  | uri => some (Format.isUri value)
  | atUri => some (Text.hasStart "at://" value)
  | did => some (Text.hasStart "did:" value)
  | handle => some (Format.isHandle value)
  | atIdentifier => some (Text.hasStart "did:" value || Format.isHandle value)
  | nsid => some (Nsid.parse value).isOk
  | cid => some (Format.isCid value)
  | language => some (Format.isLanguage value)
  | other _ => none

end StringFormat

end Lexicon
