import Lexicon.Proofs.DefinitionPasses
import Lexicon.Proofs.DocumentRoundTrip
import Lexicon.Proofs.FieldAgreement

/-!
# Lexicon.Proofs.IndependentDefinitions

The definitions of a document are read independently of each other.

A header with some definitions is a document exactly if the header is one
without any, and with each of the definitions alone. What a definition is read
as depends neither on its place nor on the others: not even on those that it
refers to, which need not be there.

## Main definitions

- `Document.withDefinitions`: a header with definitions.
- `Document.Independent`: what it means that definitions do not depend on each other.

## Main results

- `Document.parse_withDefinitions`: a document is read exactly if its header is, and each definition
  by itself.
- `Document.independent_of_nodup`: definitions of distinct names are independent.
-/

namespace Lexicon

namespace Document

open List (Forall₂)

/-- The members of a header, with the given definitions. -/
def withDefinitions (header raws : List (String × Json)) : Json :=
  .obj (Entries.put header "defs" (.obj raws))

variable {header members raws : List (String × Json)} {doc : Document}

/-! ### Headers -/

/-- The header of a document is read from the given members. -/
structure ReadsHeader (members : List (String × Json)) (doc : Document) : Prop where
  version : parseVersion ⟨"document", members⟩ = .ok doc.lexicon
  id : parseId ⟨"document", members⟩ = .ok doc.id
  revision : Fields.uint64? ⟨"document", members⟩ "revision" = .ok doc.revision
  description : Fields.description ⟨"document", members⟩ = .ok doc.description

theorem parse_eq_ok_iff : parse (.obj members) = .ok doc ↔ ReadsHeader members doc ∧
    ∃ raws, rawDefinitions ⟨"document", members⟩ = .ok raws ∧
      parseDefinitions raws = .ok doc.definitions ∧ checkReferences doc.definitions = .ok () := by
  constructor
  · intro read
    obtain ⟨f, opened, read⟩ := bind_eq_ok_iff.mp read
    cases opened
    obtain ⟨lexicon, version, read⟩ := bind_eq_ok_iff.mp read
    obtain ⟨id, identifier, read⟩ := bind_eq_ok_iff.mp read
    obtain ⟨raws, found, read⟩ := bind_eq_ok_iff.mp read
    obtain ⟨definitions, passed, read⟩ := bind_eq_ok_iff.mp read
    obtain ⟨revision, revised, read⟩ := bind_eq_ok_iff.mp read
    obtain ⟨description, described, read⟩ := bind_eq_ok_iff.mp read
    obtain ⟨⟨⟩, checked, same⟩ := bind_eq_ok_iff.mp read
    cases same
    exact ⟨⟨version, identifier, revised, described⟩, raws, found, passed, checked⟩
  · rintro ⟨⟨version, identifier, revised, described⟩, raws, found, passed, checked⟩
    simp only [parse, Fields.of, ok_bind, version, identifier, found, passed, revised, described,
      checked]
    rfl

/-- The definitions are no part of the header. -/
theorem agreeOn_put (value : Json) :
    Fields.AgreeOn ["lexicon", "id", "revision", "description"]
      ⟨"document", Entries.put header "defs" value⟩ ⟨"document", header⟩ where
  variant := rfl
  raw? := by
    intro key known
    have other : key ≠ "defs" := ne_of_mem_of_not_mem known (by decide)
    simp only [Fields.raw?, Entries.lookup_put, if_neg other]

theorem readsHeader_put (value : Json) :
    ReadsHeader (Entries.put header "defs" value) doc ↔ ReadsHeader header doc := by
  have agree : Fields.AgreeOn _ _ ⟨"document", header⟩ := agreeOn_put value
  have version := parseVersion_congr agree (by simp)
  have id := parseId_congr agree (by simp)
  have revision := agree.uint64? "revision" (by simp)
  have description := agree.description (by simp)
  constructor
  · rintro ⟨versioned, identified, revised, described⟩
    exact ⟨version ▸ versioned, id ▸ identified, revision ▸ revised, description ▸ described⟩
  · rintro ⟨versioned, identified, revised, described⟩
    exact ⟨version ▸ versioned, id ▸ identified, revision ▸ revised, description ▸ described⟩

theorem rawDefinitions_put :
    rawDefinitions ⟨"document", Entries.put header "defs" (.obj raws)⟩ = .ok raws := by
  simp only [rawDefinitions, Fields.raw?, Entries.lookup_put, if_true]

/-! ### Documents -/

/-- A document is read exactly if its header is, and each definition by itself. -/
theorem parse_withDefinitions (distinct : (Entries.keys raws).Nodup) :
    parse (withDefinitions header raws) = .ok doc ↔
      ReadsHeader header doc ∧
        Forall₂ (fun raw full => readEntry raw = .ok full) raws doc.definitions := by
  rw [withDefinitions, parse_eq_ok_iff, readsHeader_put, rawDefinitions_put,
    ← parseDefinitions_eq_ok_iff distinct]
  constructor
  · rintro ⟨header, again, same, passed, checked⟩
    cases same
    exact ⟨header, passed, checked⟩
  · rintro ⟨header, passed, checked⟩
    exact ⟨header, raws, rfl, passed, checked⟩

theorem parse_withDefinitions_nil :
    parse (withDefinitions header []) = .ok doc ↔
      ReadsHeader header doc ∧ doc.definitions = [] := by
  rw [parse_withDefinitions (by simp [Entries.keys]), List.forall₂_nil_left_iff]

theorem parse_withDefinitions_single (raw : String × Json) :
    parse (withDefinitions header [raw]) = .ok doc ↔
      ReadsHeader header doc ∧ ∃ full, readEntry raw = .ok full ∧ doc.definitions = [full] := by
  rw [parse_withDefinitions (by simp [Entries.keys]), List.forall₂_cons_left_iff]
  simp only [List.forall₂_nil_left_iff]
  constructor
  · rintro ⟨header, full, rest, read, rfl, same⟩
    exact ⟨header, full, read, same⟩
  · rintro ⟨header, full, read, same⟩
    exact ⟨header, full, [], read, rfl, same⟩

theorem ReadsHeader.replace (given : ReadsHeader header doc)
    (definitions : List (String × Definition)) :
    ReadsHeader header { doc with definitions } :=
  ⟨given.version, given.id, given.revision, given.description⟩

/-- A definition of a document is what is read from it alone. -/
theorem definition?_of_mem (distinct : (Entries.keys raws).Nodup)
    (read : Forall₂ (fun raw full => readEntry raw = .ok full) raws doc.definitions)
    {name : String} {raw : Json} (inside : (name, raw) ∈ raws) :
    ∃ definition, readEntry (name, raw) = .ok (name, definition) ∧
      doc.definition? name = some definition := by
  have keys : (Entries.keys doc.definitions).Nodup := by
    rwa [Entries.keys_eq_of_forall₂ (fun raw full given => name_of_readEntry raw full given) read]
  obtain ⟨⟨called, definition⟩, held, given⟩ := exists_mem_of_forall₂ read inside
  obtain rfl : called = name := name_of_readEntry _ _ given
  exact ⟨definition, given, Entries.lookup_of_mem keys held⟩

/-! ### Independence -/

/-- The definitions of a document do not depend on each other. -/
structure Independent (header raws : List (String × Json)) : Prop where
  /-- The header is accepted with all of them exactly if it is with none and with each one. -/
  accepted_iff : Succeeds (parse (withDefinitions header raws)) ↔
    Succeeds (parse (withDefinitions header [])) ∧
      ∀ raw ∈ raws, Succeeds (parse (withDefinitions header [raw]))
  /-- The definitions are those that the header has with each one, in order. -/
  definitions : ∀ doc, parse (withDefinitions header raws) = .ok doc →
    Forall₂ (fun raw full => ∃ single, parse (withDefinitions header [raw]) = .ok single ∧
      single.definitions = [full]) raws doc.definitions
  /-- A definition stays what it is in any other document. -/
  kept : ∀ otherHeader others, (Entries.keys others).Nodup →
    ∀ name raw, (name, raw) ∈ raws → (name, raw) ∈ others →
      ∀ doc other, parse (withDefinitions header raws) = .ok doc →
        parse (withDefinitions otherHeader others) = .ok other →
          ∃ definition, doc.definition? name = some definition ∧
            other.definition? name = some definition

theorem succeeds_withDefinitions_iff (distinct : (Entries.keys raws).Nodup) :
    Succeeds (parse (withDefinitions header raws)) ↔
      Succeeds (parse (withDefinitions header [])) ∧
        ∀ raw ∈ raws, Succeeds (parse (withDefinitions header [raw])) := by
  constructor
  · rintro ⟨doc, read⟩
    obtain ⟨given, each⟩ := (parse_withDefinitions distinct).mp read
    refine ⟨⟨_, parse_withDefinitions_nil.mpr ⟨given.replace [], rfl⟩⟩, ?_⟩
    intro raw inside
    obtain ⟨full, _, alone⟩ := exists_mem_of_forall₂ each inside
    exact ⟨_, (parse_withDefinitions_single raw).mpr ⟨given.replace [full], full, alone, rfl⟩⟩
  · rintro ⟨⟨empty, read⟩, each⟩
    obtain ⟨given, _⟩ := parse_withDefinitions_nil.mp read
    -- Every definition is read by itself, and so all of them are.
    have alone : ∀ raw ∈ raws, Succeeds (readEntry raw) := by
      intro raw inside
      obtain ⟨single, read⟩ := each raw inside
      obtain ⟨_, full, read, _⟩ := (parse_withDefinitions_single raw).mp read
      exact ⟨full, read⟩
    obtain ⟨definitions, all⟩ := Succeeds.mapM alone
    exact ⟨_, (parse_withDefinitions distinct).mpr
      ⟨given.replace definitions, mapM_eq_ok_iff.mp all⟩⟩

theorem independent_of_nodup (header : List (String × Json))
    (distinct : (Entries.keys raws).Nodup) : Independent header raws where
  accepted_iff := succeeds_withDefinitions_iff distinct
  definitions := by
    intro doc read
    obtain ⟨given, each⟩ := (parse_withDefinitions distinct).mp read
    refine each.imp fun raw full alone => ⟨{ doc with definitions := [full] }, ?_, rfl⟩
    exact (parse_withDefinitions_single raw).mpr ⟨given.replace [full], full, alone, rfl⟩
  kept := by
    intro otherHeader others otherDistinct name raw inside otherInside doc other read otherRead
    obtain ⟨_, each⟩ := (parse_withDefinitions distinct).mp read
    obtain ⟨_, otherEach⟩ := (parse_withDefinitions otherDistinct).mp otherRead
    obtain ⟨definition, alone, found⟩ := definition?_of_mem distinct each inside
    obtain ⟨again, otherAlone, otherFound⟩ := definition?_of_mem otherDistinct otherEach otherInside
    -- Both are what is read from the same value.
    cases alone.symm.trans otherAlone
    exact ⟨definition, found, otherFound⟩

/-- The header of a post. -/
def postHeader : List (String × Json) :=
  [("lexicon", .int 1), ("id", .str "com.example.post"), ("description", .str "A post.")]

theorem independent_postDocument :
    Independent postHeader (rawsOf postDocument.definitions) ∧
      parse (withDefinitions postHeader (rawsOf postDocument.definitions)) = .ok postDocument :=
  ⟨independent_of_nodup postHeader (by decide), parse_toJson postDocument_wellFormed⟩

end Document

end Lexicon
