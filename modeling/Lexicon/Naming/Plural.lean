import Lexicon.Text.Split

/-!
# Lexicon.Naming.Plural

English plurals by a fixed table of endings.

Irregular words come out wrong, and a word that is a plural already is made
plural again; the table is what counts.
-/

namespace Lexicon

namespace Plural

/-- The endings after which a plural takes `es`. -/
def sibilants : List String := ["s", "x", "ch", "sh"]

/-- The plural of a word: `y` becomes `ies`, a sibilant takes `es`, all else takes `s`. -/
def pluralize (word : String) : String :=
  match Text.dropEnd? "y" word with
  | some stem => stem ++ "ies"
  | none => if sibilants.any (Text.hasEnd · word) then word ++ "es" else word ++ "s"

/-- The singular of a word: `ies` becomes `y`, a sibilant loses `es`, and a last `s` is dropped
if it is not all of the word and not double. -/
def singularize (word : String) : String :=
  match Text.dropEnd? "ies" word with
  | some stem => stem ++ "y"
  | none =>
    if sibilants.any fun ending => Text.hasEnd (ending ++ "es") word then
      (Text.dropEnd? "es" word).getD word
    else
      -- `s` alone and `glass` are no plurals.
      match Text.dropEnd? "s" word with
      | some stem => if stem.isEmpty || Text.hasEnd "s" stem then word else stem
      | none => word

end Plural

end Lexicon
