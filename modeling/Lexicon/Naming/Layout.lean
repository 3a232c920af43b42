import Lexicon.Identifier.Nsid
import Lexicon.Naming.Keyword

/-!
# Lexicon.Naming.Layout

Where generated modules and types go.

The labels of an identifier become nested modules, in their own order or
reversed, below a root module; the name becomes the innermost module, and the
type in it.

## Main definitions

- `Layout.modulePath`, `Layout.qualifiedTypeName`: paths in the generated code.
- `Layout.filePath`: the file of a module, below the directory of the root.
-/

namespace Lexicon

/-- The order of the labels of an identifier in module paths. -/
inductive NamespaceOrder where
  | reversed
  | forward
deriving DecidableEq, Repr

namespace NamespaceOrder

/-- The name of an order. -/
def name : NamespaceOrder → String
  | reversed => "reversed"
  | forward => "forward"

/-- The order of that very name. -/
def ofName? (name : String) : Option NamespaceOrder :=
  if name = "reversed" then some reversed
  else if name = "forward" then some forward
  else none

/-- Reads an order in any ASCII case; otherwise the error in words. -/
def parse (text : String) : Except String NamespaceOrder :=
  let lower := Text.asciiLowercase text
  match ofName? lower with
  | some order => .ok order
  | none => .error s!"unknown namespace order \"{lower}\" (expected reversed or forward)"

/-- The labels in the given order. -/
def arrange {α : Type} (order : NamespaceOrder) (labels : List α) : List α :=
  match order with
  | reversed => labels.reverse
  | forward => labels

end NamespaceOrder

/-- Where generated modules live. -/
structure Layout where
  /-- The path of the module that holds all generated modules. -/
  root : String := "crate::lexicons"
  order : NamespaceOrder := .reversed
deriving DecidableEq, Repr

namespace Layout

/-- The module names of the labels of an identifier. -/
def namespaceSegments (layout : Layout) (id : Nsid) : List String :=
  layout.order.arrange (id.labels.map Case.snake)

/-- The module names from the root to the module of an identifier. -/
def moduleSegments (layout : Layout) (id : Nsid) : List String :=
  layout.namespaceSegments id ++ [Case.snake id.name]

/-- The path of the module of an identifier. -/
def modulePath (layout : Layout) (id : Nsid) : String :=
  (layout.moduleSegments id).foldl (fun path segment =>
    (if path.isEmpty then "" else path ++ "::") ++ Keyword.escape segment) layout.root

/-- The name of the type of an identifier: the name of the document, then the fragment. -/
def typeName (id : Nsid) : String :=
  Case.pascal id.name ++ (id.fragment.map Case.pascal).getD ""

/-- The path of the type of an identifier. -/
def qualifiedTypeName (layout : Layout) (id : Nsid) : String :=
  layout.modulePath id ++ "::" ++ typeName id

/-- The directories and the file of the module of an identifier. -/
def fileComponents (layout : Layout) (id : Nsid) : List String :=
  (layout.namespaceSegments id).map Keyword.fileStem ++
    [Keyword.fileStem (Case.snake id.name) ++ ".rs"]

/-- The file of the module of an identifier. -/
def filePath (layout : Layout) (id : Nsid) : String :=
  String.intercalate "/" (layout.fileComponents id)

end Layout

end Lexicon
