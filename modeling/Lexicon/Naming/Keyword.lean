import Lexicon.Naming.Case

/-!
# Lexicon.Naming.Keyword

Names that are safe as identifiers of Rust.

A reserved word becomes a raw identifier with `r#`; the few that may not be
raw take an underscore behind; a name that starts with a digit takes one in
front.
-/

namespace Lexicon

namespace Keyword

/-- The reserved words. -/
def reserved : List String :=
  ["abstract", "as", "async", "await", "become", "box", "break", "const", "continue", "do",
   "dyn", "else", "enum", "extern", "false", "final", "fn", "for", "if", "impl", "in", "let",
   "loop", "macro", "match", "mod", "move", "mut", "override", "priv", "pub", "ref", "return",
   "static", "struct", "trait", "true", "try", "type", "typeof", "unsafe", "unsized", "use",
   "virtual", "where", "while", "yield"]

/-- The reserved words that may not be raw identifiers. -/
def pathWords : List String := ["crate", "self", "super", "Self"]

/-- The mark of a raw identifier. -/
def rawMark : String := "r#"

/-- The name as an identifier. -/
def escape (name : String) : String :=
  if pathWords.contains name then name ++ "_"
  else if reserved.contains name then rawMark ++ name
  else if name.toList.head?.any Text.isAsciiDigit then "_" ++ name
  else name

/-- The identifier without the mark of a raw one. -/
def bare (ident : String) : String := (Text.dropStart? rawMark ident).getD ident

/-- The identifier of a field. -/
def field (name : String) : String := escape (Case.snake name)

/-- The name of the file or directory of a module. -/
def fileStem (module : String) : String := bare (escape module)

end Keyword

end Lexicon
