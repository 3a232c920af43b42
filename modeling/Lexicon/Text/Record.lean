/-!
# Lexicon.Text.Record

Records in words: a name, and the fields between braces.
-/

namespace Lexicon

namespace Text

/-- The fields of a record, each with its value in words. -/
def recordFields (fields : List (String × String)) : List String :=
  fields.map fun (name, value) => name ++ ": " ++ value

/-- A record all of whose fields are shown. -/
def record (name : String) (fields : List (String × String)) : String :=
  name ++ " \x7b " ++ String.intercalate ", " (recordFields fields) ++ " \x7d"

/-- A record that has more fields than are shown. -/
def openRecord (name : String) (fields : List (String × String)) : String :=
  name ++ " \x7b " ++ String.intercalate ", " (recordFields fields ++ [".."]) ++ " \x7d"

end Text

end Lexicon
