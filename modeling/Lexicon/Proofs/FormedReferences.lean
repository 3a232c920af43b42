import Lexicon.Proofs.Dependencies
import Lexicon.Proofs.FindingOrigins
import Lexicon.Proofs.HopBudget
import Lexicon.Proofs.NamedStructs
import Lexicon.Proofs.NsidCharacters
import Lexicon.Proofs.ParsedDocuments
import Lexicon.Proofs.Registries

/-!
# Lexicon.Proofs.FormedReferences

References of accepted documents can be read where they are used.

A document is accepted if all references in it can be read, wherever they stand.
So neither the validator nor the type mapper comes upon a malformed one later,
as long as the documents of the registry were accepted as well.

## Main definition

`Document.HasNode`: a field type stands in a document, at any depth.

## Main result

`Document.references_formed`: no error is about a malformed reference, and
every reference that is mapped stands for an identifier.

## Proof strategy

That documents, definitions and field types are well formed is kept by every
call of the validator and of the type mapper. What is left is a matter of words:
the message about a definition without a data type begins with a reference, and
a reference holds no blank.
-/

namespace Lexicon

/-! ### Field types in documents -/

/-- A field type stands in a document: a definition holds it, or a field type that stands there
has it as its items or as a property. -/
inductive Document.HasNode (doc : Document) : TypeNode → Prop where
  | held {name : String} {definition : Definition} {node : TypeNode}
      (defined : (name, definition) ∈ doc.definitions) (inside : node ∈ definition.nodes) :
      HasNode doc node
  | items {t : ArrayType} {node : TypeNode} (outer : HasNode doc (.array t))
      (given : t.items = some node) : HasNode doc node
  | property {t : ObjectType} {name : String} {node : TypeNode} (outer : HasNode doc (.object t))
      (given : (name, node) ∈ t.properties) : HasNode doc node

theorem Document.WellFormed.of_hasNode {doc : Document} (wellFormed : doc.WellFormed)
    {node : TypeNode} (has : doc.HasNode node) : node.WellFormed := by
  induction has with
  | held defined inside => exact wellFormed.definitions _ _ defined _ inside
  | items _ given ih => exact ih.of_items given
  | property _ given ih => exact ih.of_property given

theorem Definition.WellFormed.of_target {definition : Definition}
    (wellFormed : definition.WellFormed)
    {reference : String} {node : TypeNode} (target : definition.target reference = .ok node) :
    node.WellFormed := by
  refine wellFormed node ?_
  cases definition <;> cases target <;> exact List.mem_singleton_self _

/-! ### Looking up -/

/-- All documents of a registry are well formed, if there is one. -/
def AllFormed (registry : Option Registry) : Prop :=
  ∀ known, registry = some known → ∀ doc ∈ known.documents, doc.WellFormed

variable {registry : Option Registry}

theorem AllFormed.of_get? (formed : AllFormed registry) {known : Registry}
    (given : registry = some known) {id : Nsid} {doc : Document} (held : known.get? id = some doc) :
    doc.WellFormed :=
  formed known given doc (List.mem_of_find?_eq_some held)

theorem AllFormed.of_owner? (formed : AllFormed registry) {doc owner : Document} {id : Nsid}
    (wellFormed : doc.WellFormed) (owned : TypeMapper.owner? registry doc id = some owner) :
    owner.WellFormed := by
  unfold TypeMapper.owner? at owned
  split at owned
  · cases owned
    exact wellFormed
  · obtain ⟨known, given, held⟩ := Option.bind_eq_some_iff.mp owned
    exact formed.of_get? given held

/-- A reference that can be read is not malformed, wherever it leads. -/
theorem Lookup.ofText_ne_malformed {scope : Option Document} {reference : String}
    (formed : Reference.Formed reference) (reason : IdentifierError) :
    ofText registry scope reference ≠ .malformed reason := by
  obtain ⟨target, parsed⟩ := formed
  rw [ofText_of_parse parsed]
  unfold ofReference inRegistry inDocument
  repeat' split
  all_goals nofun

theorem Lookup.wellFormed_of_found {scope : Option Document} {reference : String}
    (formed : AllFormed registry) (within : ∀ doc, scope = some doc → doc.WellFormed)
    {doc : Document} {definition : Definition}
    (found : ofText registry scope reference = .found doc definition) :
    doc.WellFormed ∧ definition.WellFormed := by
  obtain ⟨target, name, _, addressed, defined⟩ := ofText_eq_found_iff.mp found
  have owner : doc.WellFormed := by
    cases addressed with
    | fragment inside => exact within doc inside
    | own inside same => exact within doc inside
    | registered foreign given held => exact formed.of_get? given held
  exact ⟨owner, owner.of_definition? defined⟩

/-! ### Messages that begin with references -/

/-- A text that cannot be taken for the beginning of another message: it holds no blank or begins
with the mark of local references. -/
def IsReferenceLike (text : String) : Prop := ' ' ∉ text.toList ∨ ∃ rest, text = "#" ++ rest

theorem Reference.Formed.isReferenceLike {text : String} (formed : Reference.Formed text) :
    IsReferenceLike text := by
  obtain ⟨target, parsed⟩ := formed
  exact .inl (blank_notMem_of_parse parsed)

theorem Document.WellFormed.isReferenceLike {doc : Document} (wellFormed : doc.WellFormed)
    (name : String) : IsReferenceLike (((doc.idOf? name).map Nsid.text).getD ("#" ++ name)) := by
  obtain ⟨text, parsed⟩ := wellFormed.identifier
  cases given : doc.id.withFragment name with
  | error reason =>
    -- A name that is no fragment is written behind the mark as it is.
    refine .inr ⟨name, ?_⟩
    rw [idOf?, given]
    rfl
  | ok id =>
    have read := Nsid.parse_text (Nsid.parse_baseText_append parsed given)
    rw [idOf?, given]
    exact .inl (Nsid.blank_notMem_of_parse read)

theorem Cause.message_noDataType_ne {reference : String} (like : IsReferenceLike reference)
    (kind rest : String) :
    (noDataType reference kind).message ≠ "unresolvable reference: " ++ rest := by
  intro same
  have written : (noDataType reference kind).message =
      reference ++ " is a " ++ kind ++ " and carries no data type" := rfl
  rw [written] at same
  rcases like with absent | ⟨name, rfl⟩
  · -- The texts differ behind the first blank.
    have cut : Text.cutAt ' ' (reference ++ " is a " ++ kind ++ " and carries no data type") =
        (reference, some ("is a " ++ kind ++ " and carries no data type")) := by
      rw [← Text.cutAt_append absent]
      congr 1
      apply String.toList_inj.mp
      simp
    have other : Text.cutAt ' ' ("unresolvable reference: " ++ rest) =
        ("unresolvable", some ("reference: " ++ rest)) := by
      have absent : ' ' ∉ "unresolvable".toList := by decide
      rw [← Text.cutAt_append absent]
      congr 1
    rw [same, other] at cut
    have behind := congrArg (fun parts => (parts.2.getD "").toList.head?) cut
    simp at behind
  · have first := congrArg (fun text => text.toList.head?) same
    simp at first

/-! ### The validator -/

namespace Visit

/-- What is looked at is well formed. -/
def WellFormed : Visit → Prop
  | .atNode _ scope node _ => (∀ doc, scope = some doc → doc.WellFormed) ∧ node.WellFormed
  | .atDefinition _ doc definition reference _ =>
    doc.WellFormed ∧ definition.WellFormed ∧ IsReferenceLike reference

theorem formed_of_follow {scope : Option Document} {node : TypeNode} {value : Json}
    {reference : String} {strict : Bool} (wellFormed : node.WellFormed)
    (asked : Move.ofNode scope value node = .follow reference strict) :
    Reference.Formed reference :=
  wellFormed.formed reference (Move.mem_dependencies asked)

theorem WellFormed.of_calls (formed : AllFormed registry) {earlier later : Visit}
    (wellFormed : earlier.WellFormed) (calls : Calls registry earlier later) :
    later.WellFormed := by
  cases calls with
  | follow asked found =>
    have readable := formed_of_follow wellFormed.2 asked
    obtain ⟨doc, definition⟩ := Lookup.wellFormed_of_found formed wellFormed.1 found
    exact ⟨doc, definition, readable.isReferenceLike⟩
  | target typed =>
    exact ⟨fun doc same => Option.some.inj same ▸ wellFormed.1, wellFormed.2.1.of_target typed⟩
  | element given inside => exact ⟨wellFormed.1, wellFormed.2.of_items given⟩
  | member declared found present =>
    exact ⟨wellFormed.1, wellFormed.2.of_property (Json.mem_of_lookup declared)⟩

/-- No finding that arises from something well formed is about a malformed reference. -/
theorem Arises.message_ne_unresolvable {v : Validator} (formed : AllFormed v.registry)
    {visit : Visit} {finding : Finding} (arises : Arises v visit finding)
    (wellFormed : visit.WellFormed) (rest : String) :
    finding.cause.message ≠ "unresolvable reference: " ++ rest := by
  induction arises with
  -- What is handed up was said of something that is well formed as well.
  | followed asked found _ ih => exact ih (wellFormed.of_calls formed (.follow asked found))
  | typed target _ ih => exact ih (wellFormed.of_calls formed (.target target))
  | element given stands _ ih =>
    exact ih (wellFormed.of_calls formed (.element given (List.mem_of_getElem? stands)))
  | member declared found present _ ih =>
    exact ih (wellFormed.of_calls formed (.member declared found present))
  | unresolvable asked malformed =>
    exact absurd malformed
      (Lookup.ofText_ne_malformed (formed_of_follow wellFormed.2 asked) _)
  | untyped refused =>
    obtain rfl := Definition.target_eq_error refused
    exact Cause.message_noDataType_ne wellFormed.2.2 _ rest
  | refused asked =>
    exact Cause.message_ne_unresolvable_of_isOfValue (Move.isOfValue_of_refuse asked) rest
  | verdict against =>
    exact Cause.message_ne_unresolvable_of_isOfValue (Verdict.isOfValue_of_mem_causes against) rest
  | count against =>
    exact Cause.message_ne_unresolvable_of_isOfValue
      (ArrayShape.isOfValue_of_mem_failures against) rest
  | exhausted | undefined | unregistered | missing | undeclared =>
    refine Cause.message_ne_unresolvable ?_ ?_ rest <;> nofun

end Visit

/-! ### The type mapper -/

namespace MapVisit

/-- What is mapped is well formed. -/
def WellFormed : MapVisit → Prop
  | .atNode _ doc node => doc.WellFormed ∧ node.WellFormed
  | .atDefinition _ _ _ owner definition => owner.WellFormed ∧ definition.WellFormed

theorem WellFormed.of_calls (formed : AllFormed registry) {earlier later : MapVisit}
    (wellFormed : earlier.WellFormed) (calls : Calls registry earlier later) :
    later.WellFormed := by
  cases calls with
  | items given => exact ⟨wellFormed.1, wellFormed.2.of_items given⟩
  | follow absolute owned found =>
    have owner := formed.of_owner? wellFormed.1 owned
    exact ⟨owner, owner.of_definition? found⟩
  | transparent noStruct => exact ⟨wellFormed.1, wellFormed.2 _ (List.mem_singleton_self _)⟩

theorem WellFormed.of_reachable (formed : AllFormed registry) {start visit : MapVisit}
    (wellFormed : start.WellFormed)
    (path : Relation.ReflTransGen (Calls registry) start visit) : visit.WellFormed :=
  (path_of_closed (fun _ _ within calls => ⟨within.of_calls formed calls, calls⟩) wellFormed path).1

end MapVisit

/-- A reference that can be read stands for an identifier, in whichever document it stands. -/
theorem Reference.Formed.absolute {reference : String} (formed : Reference.Formed reference)
    (document : Nsid) : ∃ id, (Reference.parse reference).bind (·.absolute document) = .ok id := by
  obtain ⟨target, parsed⟩ := formed
  rw [parsed]
  cases target with
  | external id => exact ⟨id, rfl⟩
  | fragment name =>
    obtain ⟨id, given, _⟩ :=
      document.base.withFragment_of_isName (parse_eq_fragment_iff.mp parsed).2
    exact ⟨id, given⟩

/-! ### Accepted documents -/

namespace Document

/-- With accepted documents only, no error says that a reference cannot be resolved, and every
reference that the mapping of a field type comes upon stands for an identifier. -/
theorem references_formed (doc : Document) (registry : Option Registry)
    (accepted : ∃ document, Document.parse document = .ok doc)
    (registered : ∀ known, registry = some known →
      ∀ other ∈ known.documents, ∃ document, Document.parse document = .ok other) :
    (∀ (options : ValidationOptions) (value : Json) (name : String),
      ∀ violation ∈ Validator.validateDefinition { options, registry } value doc name,
        ∀ rest, violation.message ≠ "unresolvable reference: " ++ rest) ∧
    ∀ (mapper : TypeMapper) (node : TypeNode), mapper.registry = registry → doc.HasNode node →
      mapper.map node doc = MapVisit.mapping registry (.atNode maxHops doc node) ∧
      ∀ (hops : Nat) (inner : Document) (t : RefType),
        Relation.ReflTransGen (MapVisit.Calls registry) (.atNode maxHops doc node)
          (.atNode hops inner (.ref t)) →
        ∃ id, (Reference.parse t.target).bind (·.absolute inner.id) = .ok id := by
  obtain ⟨document, read⟩ := accepted
  have wellFormed : doc.WellFormed := wellFormed_of_parse document doc read
  have formed : AllFormed registry := fun known given =>
    wellFormed_of_accepted (registered known given)
  constructor
  · intro options value name violation inside rest
    rw [Validator.validateDefinition_eq_report] at inside
    obtain ⟨finding, found, rfl⟩ := List.mem_map.mp inside
    -- Where an error arises decides what it says, and no reference on the way is malformed.
    rcases Validator.arises_of_mem_checkDefinition found with rfl | ⟨definition, defined, arises⟩
    · change (Cause.missingDefinition doc.id name).message ≠ _
      refine Cause.message_ne_unresolvable ?_ ?_ rest <;> nofun
    · refine arises.message_ne_unresolvable formed ?_ rest
      exact ⟨wellFormed, wellFormed.of_definition? defined, wellFormed.isReferenceLike name⟩
  · rintro mapper node rfl has
    refine ⟨rfl, fun hops inner t path => ?_⟩
    have start : (MapVisit.atNode maxHops doc node).WellFormed :=
      ⟨wellFormed, wellFormed.of_hasNode has⟩
    exact (start.of_reachable formed path).2.of_ref.absolute inner.id

/-- An alias of another document is followed, and the reference behind it stands there. -/
theorem references_formed_sharingDocument :
    (∃ document, Document.parse document = .ok sharingDocument) ∧
      (∀ other ∈ (Registry.ofDocuments sharingDocuments).documents,
        ∃ document, Document.parse document = .ok other) ∧
      (∀ violation ∈ Validator.validateDefinition
          { options := {}, registry := some (.ofDocuments sharingDocuments) }
          (.obj [("alias", .int 5)]) sharingDocument "main",
        ∀ rest, violation.message ≠ "unresolvable reference: " ++ rest) ∧
      sharingDocument.HasNode (.ref ⟨none, "com.example.defs#alias"⟩) ∧
      ∃ id, (Reference.parse "#thing").bind (·.absolute sharedDocument.id) = .ok id := by
  have accepted := Document.accepted_of_wellFormed wellFormed_sharingDocuments
  have known : (Registry.ofDocuments sharingDocuments).documents = sharingDocuments :=
    Registry.documents_ofDocuments (by decide) (by decide)
  have given : sharingDocument ∈ sharingDocuments := List.mem_cons_of_mem _ List.mem_cons_self
  have registered : ∀ other ∈ (Registry.ofDocuments sharingDocuments).documents,
      ∃ document, Document.parse document = .ok other := known ▸ accepted
  obtain ⟨violations, mappings⟩ := references_formed sharingDocument sharingMapper.registry
    (accepted sharingDocument given) (fun other same => Option.some.inj same ▸ registered)
  have has : sharingDocument.HasNode (.ref ⟨none, "com.example.defs#alias"⟩) :=
    .property (.held List.mem_cons_self (List.mem_singleton_self _))
      (List.mem_cons_of_mem _ List.mem_cons_self)
  have path : Relation.ReflTransGen (MapVisit.Calls sharingMapper.registry)
      (.atNode 32 sharingDocument (.ref ⟨none, "com.example.defs#alias"⟩))
      (.atNode 31 sharedDocument (.ref ⟨none, "#thing"⟩)) := by
    have through : MapVisit.Calls sharingMapper.registry
        (.atNode 32 sharingDocument (.ref ⟨none, "com.example.defs#alias"⟩))
        (.atDefinition 31 ⟨["com", "example"], "defs", some "alias"⟩ true sharedDocument
          (.data (.ref ⟨none, "#thing"⟩))) :=
      .follow (by decide) rfl rfl
    exact .tail (.single through) (.transparent rfl)
  exact ⟨accepted sharingDocument given, registered, violations {} _ _, has,
    (mappings sharingMapper _ rfl has).2 31 sharedDocument _ path⟩

end Document

end Lexicon
