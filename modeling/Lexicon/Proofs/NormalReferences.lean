import Lexicon.Proofs.FormedReferences

/-!
# Lexicon.Proofs.NormalReferences

The normal forms by which unions compare references.

A normal form is a text, made from the text of a reference without reading it.
For a reference that can be read it is the text of the identifier that the
reference stands for. So two references have one normal form exactly if they
address one definition.

## Main definitions

- `UnionResolver.parts`: the document and the definition that a text names.
- `Reference.address`: the definition that a reference addresses.

## Main results

- `UnionResolver.Unmarked.normalize_eq_iff`: normal forms are equal part by part.
- `UnionResolver.normalize_identifies`: the normal form is the identity of the
  addressed definition.
- `UnionResolver.normalize_eq_malformed_iff`: only the empty text is taken for a
  reference without being one.

## Proof strategy

A normal form is joined from parts and is cut at its mark into the same parts,
because no document holds a mark. All that is to know of a normal form is known
of its parts.
-/

namespace Lexicon

/-! ### Identifiers -/

namespace Nsid

variable {id other : Nsid} {text : String}

theorem mark_notMem_baseText (parsed : parse text = .ok id) : '#' ∉ id.baseText.toList := by
  obtain ⟨_, document, fragment, parts⟩ := parse_eq_ok_iff.mp parsed
  rw [parts.baseText_eq]
  exact Text.notMem_of_cutAt parts.cut

theorem fragment_eq_dropMain (parsed : parse text = .ok id) :
    id.fragment = dropMain (some id.definitionName) := by
  unfold definitionName
  cases named : id.fragment with
  | none => exact dropMain_main.symm
  | some name => exact (dropMain_of_ne (isName_of_fragment parsed named).2).symm

/-- Identifiers are told apart by what is written for them. -/
theorem text_inj {otherText : String} (parsed : parse text = .ok id)
    (otherParsed : parse otherText = .ok other) (same : id.text = other.text) : id = other := by
  have read := parse_text parsed
  rw [same, parse_text otherParsed] at read
  exact (Except.ok.inj read).symm

/-- Identifiers are told apart by the definitions that they name. -/
theorem eq_of_definition {otherText : String} (parsed : parse text = .ok id)
    (otherParsed : parse otherText = .ok other) (base : id.base = other.base)
    (name : id.definitionName = other.definitionName) : id = other := by
  have fragments : id.fragment = other.fragment := by
    rw [fragment_eq_dropMain parsed, name, ← fragment_eq_dropMain otherParsed]
  obtain ⟨labels, name, fragment⟩ := id
  obtain ⟨otherLabels, otherName, otherFragment⟩ := other
  cases base
  cases fragments
  rfl

/-- A text with the document and the definition of an identifier reads as the identifier. -/
theorem parse_of_cutAt {s : String} {fragment : Option String} (parsed : parse text = .ok id)
    (cut : Text.cutAt '#' s = (id.baseText, fragment)) (same : dropMain fragment = id.fragment) :
    parse s = .ok id := by
  obtain ⟨_, document, written, parts⟩ := parse_eq_ok_iff.mp parsed
  rw [parts.baseText_eq] at cut
  refine parse_eq_ok_iff.mpr ⟨?_, document, fragment, { parts with cut, fragment := ?_ }⟩
  · rintro rfl
    exact parts.document_ne_empty (congrArg Prod.fst cut).symm
  · exact parseFragment_eq_ok_iff.mpr
      ⟨same.symm, fun name named => (isName_of_fragment parsed named).1⟩

end Nsid

/-! ### Addresses -/

namespace Reference

/-- The document and the name of the definition that a reference addresses, when it stands in the
given document. -/
def address (target : Reference) (document : Nsid) : Nsid × String :=
  match target with
  | fragment name => (document.base, name)
  | external id => (id.base, id.definitionName)

variable {text reference : String} {document : Nsid} {target : Reference}

/-- A reference that can be read stands for the identifier of the definition that it addresses. -/
theorem exists_absolute (identifier : Nsid.parse text = .ok document)
    (parsed : parse reference = .ok target) :
    ∃ id, target.absolute document = .ok id ∧ (∃ written, Nsid.parse written = .ok id) ∧
      target.address document = (id.base, id.definitionName) := by
  cases target with
  | external id => exact ⟨id, rfl, ⟨reference, parse_eq_external_iff.mp parsed⟩, rfl⟩
  | fragment name =>
    obtain ⟨_, named⟩ := parse_eq_fragment_iff.mp parsed
    obtain ⟨id, given, base, definition⟩ := document.base.withFragment_of_isName named
    have read := Nsid.parse_withFragment (Nsid.parse_base ⟨text, identifier⟩) given
    refine ⟨id, given, read, ?_⟩
    rw [base, definition]
    rfl

end Reference

/-! ### Normal forms -/

namespace UnionResolver

variable {resolver : UnionResolver} {reference other text : String} {document : Nsid}

/-- The document that is meant by what stands in front of the mark. -/
def expand (resolver : UnionResolver) (written : String) : String :=
  match resolver.base with
  | some base => if written.isEmpty then base.text else written
  | none => written

/-- The document and the definition that a reference names, and no definition for the main one. -/
def parts (resolver : UnionResolver) (reference : String) : String × Option String :=
  let (written, fragment) := Text.cutAt '#' reference
  (resolver.expand written, Nsid.dropMain fragment)

theorem normalize_eq_joinAt (resolver : UnionResolver) (reference : String) :
    resolver.normalize reference = Text.joinAt '#' (resolver.parts reference) := by
  unfold normalize parts expand
  rcases Text.cutAt '#' reference with ⟨written, fragment⟩
  cases fragment with
  | none => rfl
  | some name =>
    by_cases main : name = mainDefinition
    · subst main
      exact if_pos rfl
    · simp only [if_neg main, Nsid.dropMain_of_ne main]
      rfl

/-- No mark stands in the document that local references are expanded with. -/
def Unmarked (resolver : UnionResolver) : Prop :=
  ∀ base, resolver.base = some base → '#' ∉ base.text.toList

theorem unmarked_asWritten : Unmarked asWritten := nofun

theorem unmarked_within (identifier : Nsid.parse text = .ok document) :
    Unmarked (within document) := by
  rintro _ ⟨⟩
  have absent := Nsid.mark_notMem_baseText identifier
  exact absent

theorem Unmarked.notMem_expand (unmarked : resolver.Unmarked) {written : String}
    (absent : '#' ∉ written.toList) : '#' ∉ (resolver.expand written).toList := by
  unfold expand
  split
  · next base given =>
    split
    · exact unmarked base given
    · exact absent
  · exact absent

/-- A normal form is cut into the parts that it was joined from. -/
theorem Unmarked.cutAt_normalize (unmarked : resolver.Unmarked) (reference : String) :
    Text.cutAt '#' (resolver.normalize reference) = resolver.parts reference := by
  rw [normalize_eq_joinAt]
  rcases cut : Text.cutAt '#' reference with ⟨written, fragment⟩
  refine Text.cutAt_joinAt ?_
  simp only [parts, cut]
  exact unmarked.notMem_expand (Text.notMem_of_cutAt cut)

/-- Normal forms are equal part by part. -/
theorem Unmarked.normalize_eq_iff (unmarked : resolver.Unmarked) :
    resolver.normalize reference = resolver.normalize other ↔
      resolver.parts reference = resolver.parts other := by
  constructor
  · intro same
    rw [← unmarked.cutAt_normalize, same, unmarked.cutAt_normalize]
  · intro same
    rw [normalize_eq_joinAt, same, ← normalize_eq_joinAt]

theorem expand_expand (resolver : UnionResolver) (written : String) :
    resolver.expand (resolver.expand written) = resolver.expand written := by
  unfold expand
  cases resolver.base with
  | none => rfl
  | some base => by_cases given : written.isEmpty <;> simp [given]

/-- A normal form is its own normal form. -/
theorem Unmarked.normalize_normalize (unmarked : resolver.Unmarked) (reference : String) :
    resolver.normalize (resolver.normalize reference) = resolver.normalize reference := by
  refine unmarked.normalize_eq_iff.mpr ?_
  have cut := unmarked.cutAt_normalize reference
  rcases written : Text.cutAt '#' reference with ⟨before, fragment⟩
  simp only [parts, written] at cut ⊢
  simp only [cut, expand_expand, Nsid.dropMain_dropMain]

/-! ### Normal forms of references that can be read -/

theorem parts_of_parse {id : Nsid} (parsed : Nsid.parse reference = .ok id) :
    resolver.parts reference = (id.baseText, id.fragment) := by
  obtain ⟨_, written, fragment, read⟩ := Nsid.parse_eq_ok_iff.mp parsed
  have given : written.isEmpty = false := by simpa using read.document_ne_empty
  have expanded : resolver.expand written = written := by
    unfold expand
    split <;> simp [given]
  simp only [parts, read.cut, expanded, read.baseText_eq,
    (Nsid.parseFragment_eq_ok_iff.mp read.fragment).1]

theorem parts_of_fragment (document : Nsid) (name : String) :
    (within document).parts ("#" ++ name) =
      (document.baseText, Nsid.dropMain (some name)) := by
  have cut : Text.cutAt '#' ("" ++ "#" ++ name) = ("", some name) :=
    Text.cutAt_append (by simp) name
  rw [String.empty_append] at cut
  simp only [parts, cut]
  rfl

/-- A reference has the parts of the identifier that it stands for. -/
theorem parts_of_absolute {target : Reference} {id : Nsid}
    (parsed : Reference.parse reference = .ok target)
    (absolute : target.absolute document = .ok id) :
    (within document).parts reference = (id.baseText, id.fragment) := by
  cases target with
  | external id =>
    cases absolute
    exact parts_of_parse (Reference.parse_eq_external_iff.mp parsed)
  | fragment name =>
    obtain ⟨rfl, named⟩ := Reference.parse_eq_fragment_iff.mp parsed
    obtain ⟨_, rfl⟩ := Nsid.withFragment_eq_ok_iff.mp absolute
    exact parts_of_fragment document name

theorem normalize_of_absolute {target : Reference} {id : Nsid}
    (parsed : Reference.parse reference = .ok target)
    (absolute : target.absolute document = .ok id) :
    (within document).normalize reference = id.text := by
  rw [normalize_eq_joinAt, parts_of_absolute parsed absolute, Nsid.text_eq_joinAt]

/-- References have one normal form exactly if they address one definition. -/
theorem normalize_eq_iff_address {target otherTarget : Reference}
    (identifier : Nsid.parse text = .ok document)
    (parsed : Reference.parse reference = .ok target)
    (otherParsed : Reference.parse other = .ok otherTarget) :
    (within document).normalize reference = (within document).normalize other ↔
      target.address document = otherTarget.address document := by
  obtain ⟨id, absolute, ⟨_, read⟩, address⟩ := Reference.exists_absolute identifier parsed
  obtain ⟨otherId, otherAbsolute, ⟨_, otherRead⟩, otherAddress⟩ :=
    Reference.exists_absolute identifier otherParsed
  rw [normalize_of_absolute parsed absolute, normalize_of_absolute otherParsed otherAbsolute,
    address, otherAddress]
  constructor
  · intro same
    rw [Nsid.text_inj read otherRead same]
  · intro same
    obtain ⟨base, name⟩ := Prod.mk.inj same
    rw [Nsid.eq_of_definition read otherRead base name]

/-- The normal form of a reference is the text of the identifier that it stands for, and so the
identity of the definition that it addresses. A normal form is normal, whatever text it is of. -/
theorem normalize_identifies (document : Nsid)
    (identifier : ∃ text, Nsid.parse text = .ok document) :
    (∀ reference target, Reference.parse reference = .ok target →
      ∃ id, target.absolute document = .ok id ∧
        (within document).normalize reference = id.text) ∧
    (∀ reference other target otherTarget, Reference.parse reference = .ok target →
      Reference.parse other = .ok otherTarget →
      ((within document).normalize reference = (within document).normalize other ↔
        target.address document = otherTarget.address document)) ∧
    (∀ reference, (within document).normalize ((within document).normalize reference) =
      (within document).normalize reference) ∧
    ∀ reference, asWritten.normalize (asWritten.normalize reference) =
      asWritten.normalize reference := by
  obtain ⟨text, identifier⟩ := identifier
  refine ⟨?_, fun _ _ _ _ => normalize_eq_iff_address identifier,
    (unmarked_within identifier).normalize_normalize, unmarked_asWritten.normalize_normalize⟩
  intro reference target parsed
  obtain ⟨id, absolute, _⟩ := Reference.exists_absolute identifier parsed
  exact ⟨id, absolute, normalize_of_absolute parsed absolute⟩

/-- The main definition has one normal form, whether it is written as a name of its own document
or as an identifier, and another definition has another one. -/
theorem normalize_identifies_sharingDocument :
    Nsid.parse "com.example.post" = .ok sharingDocument.id ∧
      (within sharingDocument.id).normalize "#main" = "com.example.post" ∧
      (within sharingDocument.id).normalize "#main" =
        (within sharingDocument.id).normalize "com.example.post#main" ∧
      (within sharingDocument.id).normalize "#main" ≠
        (within sharingDocument.id).normalize "#image" := by
  have identifier : Nsid.parse "com.example.post" = .ok sharingDocument.id := by decide
  obtain ⟨texts, identity, _, _⟩ := normalize_identifies sharingDocument.id ⟨_, identifier⟩
  have main : Reference.parse "#main" = .ok (.fragment "main") := by decide
  have external : Reference.parse "com.example.post#main" = .ok (.external sharingDocument.id) := by
    decide
  have image : Reference.parse "#image" = .ok (.fragment "image") := by decide
  refine ⟨identifier, ?_, (identity _ _ _ _ main external).mpr (by decide), ?_⟩
  · obtain ⟨id, absolute, normal⟩ := texts _ _ main
    cases absolute
    rw [normal]
    decide
  · exact fun same => absurd ((identity _ _ _ _ main image).mp same) (by decide)

/-! ### Normal forms of other texts -/

/-- A text that is taken for a reference is one, or is empty. -/
theorem formed_or_empty_of_parts_eq {id : Nsid} (parsed : Nsid.parse text = .ok id)
    (same : (within document).parts reference = (id.baseText, id.fragment)) :
    Reference.Formed reference ∨ reference = "" := by
  have joined := Text.joinAt_cutAt '#' reference
  rcases cut : Text.cutAt '#' reference with ⟨written, fragment⟩
  simp only [parts, cut] at same
  obtain ⟨expanded, kept⟩ := Prod.mk.inj same
  by_cases given : written = ""
  · subst given
    rw [cut] at joined
    cases fragment with
    | none => exact .inr joined.symm
    | some name =>
      -- Nothing is in front of the mark, so this is the name of an own definition.
      have named : Label.isName name = true := by
        by_cases main : name = mainDefinition
        · subst main
          decide
        · rw [Nsid.dropMain_of_ne main] at kept
          exact (Nsid.isName_of_fragment parsed kept.symm).1
      have own : reference = "#" ++ name := by
        rw [← joined, Text.joinAt, String.empty_append]
        rfl
      exact .inl ⟨.fragment name, Reference.parse_eq_fragment_iff.mpr ⟨own, named⟩⟩
  · have document : written = id.baseText := by
      rw [← expanded]
      simp [expand, within, given]
    subst document
    have read := Nsid.parse_of_cutAt parsed cut kept
    exact .inl ⟨.external id, Reference.parse_eq_external_iff.mpr read⟩

/-- The empty text stands for the main definition of the enclosing document. -/
theorem normalize_empty (document : Nsid) :
    (within document).normalize "" = (within document).normalize "#main" := rfl

/-- A malformed text has the normal form of a reference only if it is empty and the reference
addresses the main definition of the enclosing document. -/
theorem normalize_eq_malformed_iff {target : Reference} {malformed : String}
    (identifier : Nsid.parse text = .ok document)
    (parsed : Reference.parse reference = .ok target) (unread : ¬Reference.Formed malformed) :
    (within document).normalize reference = (within document).normalize malformed ↔
      malformed = "" ∧ target.address document = (document.base, mainDefinition) := by
  have main : Reference.parse "#main" = .ok (.fragment mainDefinition) := by decide
  have empty : (within document).normalize reference = (within document).normalize "" ↔
      target.address document = (document.base, mainDefinition) :=
    normalize_empty document ▸ normalize_eq_iff_address identifier parsed main
  constructor
  · intro same
    obtain ⟨id, absolute, ⟨_, read⟩, _⟩ := Reference.exists_absolute identifier parsed
    have parts := (unmarked_within identifier).normalize_eq_iff.mp same
    rw [parts_of_absolute parsed absolute] at parts
    -- Whatever has the parts of an identifier can be read, unless it is empty.
    obtain rfl := (formed_or_empty_of_parts_eq read parts.symm).resolve_left unread
    exact ⟨rfl, empty.mp same⟩
  · rintro ⟨rfl, addressed⟩
    exact empty.mpr addressed

end UnionResolver

end Lexicon
