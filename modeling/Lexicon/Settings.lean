import Lexicon.Generation.Generator
import Lexicon.Text.Record
import Lexicon.Validation.Service

/-!
# Lexicon.Settings

Settings as data and in words.

A mode is a name in JSON, and a layout an object with two keys, which are both
read back. Every service that is set up with settings can show them as a
record.
-/

namespace Lexicon

/-! ### Settings in JSON -/

/-- A mode in JSON. -/
def ValidationMode.toJson (mode : ValidationMode) : Json := .str mode.name

namespace NamespaceOrder

/-- Reads an order: its name, or an object whose only key is its name. -/
def ofJson? : Json → Option NamespaceOrder
  | .str name => ofName? name
  | .obj [(name, .null)] => ofName? name
  | _ => none

end NamespaceOrder

namespace Layout

/-- The layout in JSON. -/
def toJson (layout : Layout) : Json :=
  .obj [("root_namespace", .str layout.root), ("order", .str layout.order.name)]

/-- Reads a layout: an object with both keys, or a list of both values. -/
def ofJson? : Json → Option Layout
  | .obj members => do
    let root ← (members.lookup "root_namespace").bind Json.asString?
    let order ← (members.lookup "order").bind NamespaceOrder.ofJson?
    return { root, order }
  | .arr [.str root, order] => (NamespaceOrder.ofJson? order).map fun order => { root, order }
  | _ => none

end Layout

/-! ### Settings in words -/

/-- A mode in words. -/
def ValidationMode.describe : ValidationMode → String
  | strict => "Strict"
  | optimistic => "Optimistic"
  | lenient => "Lenient"

/-- An order in words. -/
def NamespaceOrder.describe : NamespaceOrder → String
  | reversed => "Reversed"
  | forward => "Forward"

/-- The settings of a validation in words. -/
def ValidationOptions.describe (options : ValidationOptions) : String :=
  Text.record "ValidationOptions"
    [("mode", options.mode.describe), ("accumulate", toString options.accumulate)]

/-- A validator in words. -/
def Validator.describe (validator : Validator) : String :=
  Text.record "Validator"
    [("options", validator.options.describe), ("registry", toString validator.registry.isSome)]

/-- A validation service in words. -/
def ValidationService.describe (service : ValidationService) : String :=
  Text.openRecord "LexiconValidator" [("options", service.options.describe)]

/-- A layout in words. -/
def Layout.describe (layout : Layout) : String :=
  Text.record "NamingConfig"
    [("root_namespace", Text.quoted layout.root), ("order", layout.order.describe)]

/-- Stubs in words. -/
def Stubs.describe (stubs : Stubs) : String :=
  Text.record "StubRenderer" [("stubs", Text.quotedList stubs.names)]

/-- A generator in words. -/
def Generator.describe (generator : Generator) : String :=
  Text.openRecord "CodeGenerator"
    [("naming", generator.mapper.layout.describe),
     ("runtime_path", Text.quoted generator.mapper.runtime),
     ("renderer", generator.stubs.describe)]

/-- A mapper of types in words. -/
def TypeMapper.describe (mapper : TypeMapper) : String :=
  Text.openRecord "TypeMapper"
    [("naming", mapper.layout.describe), ("runtime_path", Text.quoted mapper.runtime)]

end Lexicon
