import Lexicon.Proofs.Entries
import Lexicon.Proofs.NormalReferences
import Lexicon.Proofs.Transparency
import Lexicon.Proofs.ValidatorConformance

/-!
# Lexicon.Proofs.UnionResolution

Unions as the resolver and as the validator see them.

Both ask a value for its type and look for a member of that normal form. The
resolver reports the member, the validator follows it. Where the resolver has
an error, the validator has one at the union; where the resolver has a member,
the validator goes on as at a reference to it. A validation starts with all hops
(`Validator.check_eq_checkWithin`), and a union behind references with what is
left of them.

## Main results

- `UnionResolver.resolve_eq_some_iff`, `UnionResolver.resolve_eq_error_iff`,
  `UnionResolver.selects_iff`: what the resolver says, stated by normal forms.
- `Validator.unions_agree`: the validator and the resolver agree.
- `UnionResolver.tagged_resolves`: a tagged object resolves to the member that
  it was tagged with.
- `UnionResolver.malformed_resolves`: which malformed types are taken for a
  member.
-/

namespace Lexicon

theorem Union.discriminator_eq_ok_iff {value : Json} {discriminator : String} :
    Union.discriminator value = .ok discriminator ↔
      value.get? typeKey = some (.str discriminator) := by
  unfold Union.discriminator
  split
  · next found => simp [found]
  · next other found => simpa [found] using other discriminator
  · next found => simp [found]

/-! ### The resolver -/

namespace UnionResolver

variable {resolver : UnionResolver} {union : UnionType} {value : Json} {candidate : String}

/-- The resolver gives the first member of a closed union that has the normal form of the type that
the value names. -/
theorem resolve_eq_some_iff {member : String} :
    resolver.resolve value union = .ok (some member) ↔
      union.closed = true ∧ ∃ discriminator, Union.discriminator value = .ok discriminator ∧
        resolver.Selects union.refs discriminator member := by
  unfold resolve
  by_cases closed : union.closed = true
  · cases named : Union.discriminator value with
    | error e => simp [closed]
    | ok discriminator =>
      simp only [← member?_eq_some_iff]
      cases selected : resolver.member? union discriminator <;> simp [closed, selected]
  · simp [closed]

/-- The resolver refuses a value for its type if the union is closed. -/
theorem resolve_eq_error_iff {e : UnionError} :
    resolver.resolve value union = .error e ↔
      union.closed = true ∧ (Union.discriminator value = .error e ∨
        ∃ discriminator, Union.discriminator value = .ok discriminator ∧
          resolver.Omits union.refs discriminator ∧ e = .unknownMember discriminator) := by
  unfold resolve
  by_cases closed : union.closed = true
  · cases named : Union.discriminator value with
    | error e => simp [closed]
    | ok discriminator =>
      simp only [← member?_eq_none_iff]
      cases selected : resolver.member? union discriminator <;> simp [closed, selected, eq_comm]
  · simp [closed]

/-- A closed union that lists no member of the normal form of the type is told so. -/
theorem resolve_eq_unknownMember_iff {discriminator : String} (closed : union.closed = true)
    (named : Union.discriminator value = .ok discriminator) :
    resolver.resolve value union = .error (.unknownMember discriminator) ↔
      resolver.Omits union.refs discriminator := by
  rw [resolve_eq_error_iff]
  simp [closed, named]

/-- A value is a member if it names a type of the same normal form, which a closed union has to
list. -/
theorem selects_iff : resolver.selects value candidate union = true ↔
    ∃ discriminator, Union.discriminator value = .ok discriminator ∧
      resolver.normalize candidate = resolver.normalize discriminator ∧
      (union.closed = false ∨
        ∃ member ∈ union.refs, resolver.normalize member = resolver.normalize discriminator) := by
  unfold selects
  by_cases closed : union.closed = true
  · rw [if_pos closed]
    split
    · next member resolved =>
      obtain ⟨_, discriminator, named, before, after, listed, same, _⟩ :=
        resolve_eq_some_iff.mp resolved
      have inside : member ∈ union.refs := by simp [listed]
      simp only [decide_eq_true_eq, closed, Bool.true_eq_false, false_or]
      constructor
      · intro equal
        exact ⟨discriminator, named, equal.symm.trans same, member, inside, same⟩
      · rintro ⟨other, renamed, equal, _⟩
        obtain rfl := Except.ok.inj (named.symm.trans renamed)
        exact same.trans equal.symm
    · next unresolved =>
      simp only [Bool.false_eq_true, closed, Bool.true_eq_false, false_or, false_iff]
      rintro ⟨discriminator, named, _, member, inside, same⟩
      -- A listed member of the normal form would have been found.
      cases selected : resolver.member? union discriminator with
      | some first =>
        exact unresolved first (resolve_eq_some_iff.mpr
          ⟨closed, discriminator, named, member?_eq_some_iff.mp selected⟩)
      | none => exact member?_eq_none_iff.mp selected member inside same
  · have opened : union.closed = false := by simpa using closed
    rw [if_neg closed]
    cases Union.discriminator value <;> simp [opened, eq_comm]

end UnionResolver

/-! ### The validator -/

namespace Move

variable {scope : Option Document} {union : UnionType} {value : Json}

/-- Where the resolver has an error, the union refuses the value: an object for the same reason, and
any other value for its kind. -/
theorem ofNode_union_of_error {e : UnionError}
    (refused : (UnionResolver.ofScope scope).resolve value union = .error e) :
    ofNode scope value (.union union) =
      .refuse (if value.kind = .object then .union e else .mismatch "union" value.kind) := by
  obtain ⟨closed, reason⟩ := UnionResolver.resolve_eq_error_iff.mp refused
  cases value with
  | obj members =>
    have object : (Json.obj members).kind = .object := rfl
    rw [if_pos object]
    rcases reason with nameless | ⟨discriminator, named, omitted, rfl⟩
    · simp only [ofNode, ofUnion, nameless]
    · have none := UnionResolver.member?_eq_none_iff.mpr omitted
      simp only [ofNode, ofUnion, named, none, closed, if_true]
  | _ => rfl

/-- Only objects name a type. -/
theorem ofNode_union_of_discriminator {discriminator : String}
    (named : Union.discriminator value = .ok discriminator) :
    ofNode scope value (.union union) =
      match (UnionResolver.ofScope scope).member? union discriminator with
      | some member => .follow member union.closed
      | none =>
        if union.closed then .refuse (.union (.unknownMember discriminator)) else .accept := by
  have found := Union.discriminator_eq_ok_iff.mp named
  cases value with
  | obj members => exact ofNode_union_of_named found
  | _ => cases found

theorem ofNode_union_of_resolved {member : String}
    (resolved : (UnionResolver.ofScope scope).resolve value union = .ok (some member)) :
    ofNode scope value (.union union) = .follow member true := by
  obtain ⟨closed, discriminator, named, selected⟩ := UnionResolver.resolve_eq_some_iff.mp resolved
  rw [ofNode_union_of_discriminator named, UnionResolver.member?_eq_some_iff.mpr selected]
  exact congrArg _ closed

/-- An open union follows the first member that the value is, and accepts a value that is none. -/
theorem ofNode_union_of_open {discriminator : String} (opened : union.closed = false)
    (named : Union.discriminator value = .ok discriminator) :
    ofNode scope value (.union union) =
      match union.refs.find? ((UnionResolver.ofScope scope).selects value · union) with
      | some member => .follow member false
      | none => .accept := by
  have same : ∀ member, (UnionResolver.ofScope scope).selects value member union =
      decide ((UnionResolver.ofScope scope).normalize member =
        (UnionResolver.ofScope scope).normalize discriminator) := by
    intro member
    rw [Bool.eq_iff_iff, UnionResolver.selects_iff, decide_eq_true_eq]
    simp [named, opened]
  simp only [ofNode_union_of_discriminator named, UnionResolver.member?, same, opened,
    Bool.false_eq_true, if_false]

end Move

namespace Validator

variable {v : Validator} {scope : Option Document} {node : TypeNode} {value : Json}

/-- A member of an open union may dangle. -/
theorem checkReference_of_dangles {reference : String} (hops : Nat)
    (dangles : Dangles v.registry scope reference) :
    v.checkReference hops scope reference false value = [] := by
  rcases Lookup.dangles_iff.mp dangles with ⟨id, missing⟩ | ⟨id, missing⟩ <;>
    simp [checkReference, missing]

/-- A reference that does not dangle is followed in one way only. -/
theorem checkReference_of_not_dangles {reference : String} (hops : Nat) (strict : Bool)
    (found : ¬Dangles v.registry scope reference) :
    v.checkReference hops scope reference strict value =
      v.checkReference hops scope reference true value := by
  rw [Lookup.dangles_iff, not_or] at found
  unfold checkReference
  cases looked : Lookup.ofText v.registry scope reference with
  | noDefinition id => exact absurd ⟨id, looked⟩ found.1
  | notRegistered id => exact absurd ⟨id, looked⟩ found.2
  | _ => rfl

/-- A node that asks for a reference to be followed is checked as the reference, unless the
reference dangles. -/
theorem checkWithin_eq_ref {reference : String} {strict : Bool} (hops : Nat)
    (description : Option String)
    (asked : Move.ofNode scope value node = .follow reference strict)
    (found : strict = true ∨ hops = 0 ∨ ¬Dangles v.registry scope reference) :
    v.checkWithin hops scope node value =
      v.checkWithin hops scope (.ref ⟨description, reference⟩) value := by
  have ref := Move.ofNode_ref scope value ⟨description, reference⟩
  cases hops with
  | zero => rw [checkWithin_of_follow_zero asked, checkWithin_of_follow_zero ref]
  | succ hops =>
    rw [checkWithin_of_follow_succ hops asked, checkWithin_of_follow_succ hops ref]
    rcases found with rfl | none | found
    · rfl
    · cases none
    · exact checkReference_of_not_dangles hops strict found

/-- The validator and the resolver agree about a union, wherever it stands and however many
references may still be followed. An error of the resolver is the one error at the union, in the
same words if the value is an object. A member of a closed union is checked as a reference to it.
An open union follows the first member that the value is, which may dangle, and accepts a value
that is none. -/
theorem unions_agree (v : Validator) (scope : Option Document) (union : UnionType) (value : Json)
    (hops : Nat) (path : String) :
    (∀ e, (UnionResolver.ofScope scope).resolve value union = .error e →
      report path (v.checkWithin hops scope (.union union) value) =
        [{ path, expected := "union",
           message :=
            if value.kind = .object then e.message
            else (Cause.mismatch "union" value.kind).message }]) ∧
    (∀ member description,
      (UnionResolver.ofScope scope).resolve value union = .ok (some member) →
      report path (v.checkWithin hops scope (.union union) value) =
        report path (v.checkWithin hops scope (.ref ⟨description, member⟩) value)) ∧
    (union.closed = false → ∀ discriminator,
      value.get? Union.typeKey = some (.str discriminator) →
      (union.refs.find? ((UnionResolver.ofScope scope).selects value · union) = none →
        report path (v.checkWithin hops scope (.union union) value) = []) ∧
      ∀ member description,
        union.refs.find? ((UnionResolver.ofScope scope).selects value · union) = some member →
        Move.ofNode scope value (.union union) = .follow member false ∧
        (hops ≠ 0 → Dangles v.registry scope member →
          report path (v.checkWithin hops scope (.union union) value) = []) ∧
        (hops = 0 ∨ ¬Dangles v.registry scope member →
          report path (v.checkWithin hops scope (.union union) value) =
            report path (v.checkWithin hops scope (.ref ⟨description, member⟩) value))) := by
  -- Each answer of the resolver decides the move that the validator makes.
  refine ⟨?_, ?_, ?_⟩
  · intro e refused
    rw [checkWithin_of_refuse hops (Move.ofNode_union_of_error refused)]
    split <;> rfl
  · intro member description resolved
    rw [checkWithin_eq_ref hops description (Move.ofNode_union_of_resolved resolved) (.inl rfl)]
  · intro opened discriminator found
    have asked := @Move.ofNode_union_of_open scope _ _ _ opened
      (Union.discriminator_eq_ok_iff.mpr found)
    constructor
    · intro none
      rw [none] at asked
      rw [checkWithin_of_accept hops asked]
      rfl
    · intro member description first
      rw [first] at asked
      refine ⟨asked, fun positive dangles => ?_, fun followed => ?_⟩
      · obtain ⟨hops, rfl⟩ := Nat.exists_eq_succ_of_ne_zero positive
        rw [checkWithin_of_follow_succ hops asked, checkReference_of_dangles hops dangles]
        rfl
      · rw [checkWithin_eq_ref hops description asked (.inr followed)]

/-- The members of the examples: a definition of the document and one of another document. -/
def sharingUnion (closed : Bool) : UnionType :=
  { description := none, refs := ["#main", "com.example.defs#thing", "#gone"], closed }

/-- A closed union has no use for a text or for a type that is not listed, and holds an object to
the member that it names; an open one accepts an object whose type leads nowhere. -/
theorem unions_agree_sharingDocument :
    sharingValidator.validateInDocument (.str "#main") (.union (sharingUnion true))
          sharingDocument =
        [{ path := "", expected := "union", message := "expected union, found string" }] ∧
      sharingValidator.validateInDocument (.obj [("$type", .str "#other")])
          (.union (sharingUnion true)) sharingDocument =
        [{ path := "", expected := "union",
           message := "\"#other\" is not a member of the closed union" }] ∧
      sharingValidator.validateInDocument
          (.obj [("thing", .int 5), ("$type", .str "com.example.post#main")])
          (.union (sharingUnion true)) sharingDocument =
        sharingValidator.validateInDocument
          (.obj [("thing", .int 5), ("$type", .str "com.example.post#main")])
          (.ref ⟨none, "#main"⟩) sharingDocument ∧
      sharingValidator.validateInDocument (.obj [("$type", .str "com.example.post#gone")])
          (.union (sharingUnion false)) sharingDocument = [] := by
  have agree := fun closed value => unions_agree sharingValidator (some sharingDocument)
    (sharingUnion closed) value maxHops ""
  simp only [← check_eq_checkWithin, ← validateInDocument_eq_report] at agree
  refine ⟨?_, ?_, ?_, ?_⟩
  · exact (agree true _).1 .missingDiscriminator rfl
  · exact (agree true _).1 (.unknownMember "#other") rfl
  · exact (agree true _).2.1 "#main" none rfl
  · have parsed : Reference.parse "#gone" = .ok (.fragment "gone") := by decide
    have gone : Dangles sharingValidator.registry (some sharingDocument) "#gone" :=
      .undefined parsed (.fragment rfl) rfl
    exact (((agree false _).2.2 rfl _ rfl).2 "#gone" none rfl).2.1 (by decide) gone

end Validator

/-! ### Tagged objects -/

namespace Union

variable {fields : List (String × Json)}

/-- The tag comes first, and the other members stay as they are and where they are. -/
theorem tag_eq_cons (distinct : (Entries.keys fields).Nodup) (reference : String) :
    tag reference fields =
      (typeKey, .str reference) :: fields.filter (·.1 ≠ typeKey) := by
  have absent : typeKey ∉ Entries.keys (fields.filter (·.1 ≠ typeKey)) := by
    simp [Entries.keys]
  have rest : (Entries.keys (fields.filter (·.1 ≠ typeKey))).Nodup :=
    distinct.sublist (List.filter_sublist.map Prod.fst)
  exact Entries.ofPairs_of_nodup (List.nodup_cons.mpr ⟨absent, rest⟩)

theorem discriminator_tag (distinct : (Entries.keys fields).Nodup) (reference : String) :
    discriminator (.obj (tag reference fields)) = .ok reference := by
  rw [discriminator_eq_ok_iff, tag_eq_cons distinct, Json.get?, Entries.lookup_cons_self]

end Union

namespace UnionResolver

/-- An object that is tagged with a reference carries it in front of its other members. It is the
members that have the normal form of the reference and that a closed union lists, and a closed union
resolves it to the first of these. -/
theorem tagged_resolves (resolver : UnionResolver) (reference candidate : String)
    (fields : List (String × Json)) (distinct : (Entries.keys fields).Nodup) (union : UnionType) :
    Union.tag reference fields =
      (Union.typeKey, .str reference) :: fields.filter (·.1 ≠ Union.typeKey) ∧
    (resolver.selects (.obj (Union.tag reference fields)) candidate union = true ↔
      resolver.normalize candidate = resolver.normalize reference ∧
        (union.closed = false ∨
          ∃ member ∈ union.refs, resolver.normalize member = resolver.normalize reference)) ∧
    (union.closed = true →
      (∀ member, resolver.resolve (.obj (Union.tag reference fields)) union = .ok (some member) ↔
        resolver.Selects union.refs reference member) ∧
      (resolver.resolve (.obj (Union.tag reference fields)) union =
          .error (.unknownMember reference) ↔
        ∀ member ∈ union.refs, resolver.normalize member ≠ resolver.normalize reference)) := by
  have named := Union.discriminator_tag distinct reference
  refine ⟨Union.tag_eq_cons distinct reference, ?_, fun closed => ⟨fun member => ?_, ?_⟩⟩
  · rw [selects_iff]
    simp [named]
  · rw [resolve_eq_some_iff]
    simp [closed, named]
  · exact resolve_eq_unknownMember_iff closed named

/-- The old tag is dropped, and of two members of one normal form the first is found. -/
theorem tagged_resolves_sharingDocument :
    Union.tag "#main" [("alt", .str "hi"), ("$type", .str "com.example.old")] =
        [("$type", .str "#main"), ("alt", .str "hi")] ∧
      (within sharingDocument.id).selects
        (.obj (Union.tag "#main" [("alt", .str "hi"), ("$type", .str "com.example.old")]))
        "com.example.post#main" ⟨none, ["#gone", "com.example.post", "#main"], true⟩ = true ∧
      (within sharingDocument.id).resolve
          (.obj (Union.tag "#main" [("alt", .str "hi"), ("$type", .str "com.example.old")]))
          ⟨none, ["#gone", "com.example.post", "#main"], true⟩ =
        .ok (some "com.example.post") := by
  obtain ⟨shape, selected, resolved⟩ := tagged_resolves (within sharingDocument.id) "#main"
    "com.example.post#main" [("alt", .str "hi"), ("$type", .str "com.example.old")] (by decide)
    ⟨none, ["#gone", "com.example.post", "#main"], true⟩
  have main : "com.example.post" ∈ ["#gone", "com.example.post", "#main"] :=
    List.mem_cons_of_mem _ List.mem_cons_self
  refine ⟨shape, selected.mpr ⟨rfl, .inr ⟨_, main, rfl⟩⟩, ?_⟩
  refine ((resolved rfl).1 _).mpr ⟨["#gone"], ["#main"], rfl, rfl, ?_⟩
  rw [List.forall_mem_singleton]
  decide

end UnionResolver

/-! ### Malformed types -/

namespace UnionResolver

theorem ofScope_eq_within {doc : Document} {document : Nsid} (same : doc.id.base = document.base) :
    ofScope (some doc) = within document := by
  simp only [ofScope, within, Option.map_some, same]

/-- A malformed type is taken for a member of a closed union exactly if it is empty and the union
lists the main definition of the enclosing document. Otherwise the type is unknown to the resolver
and to the validator. -/
theorem malformed_resolves (document : Nsid) (identifier : ∃ text, Nsid.parse text = .ok document)
    (union : UnionType) (closed : union.closed = true)
    (formed : ∀ member ∈ union.refs, Reference.Formed member) (value : Json)
    (discriminator : String) (named : value.get? Union.typeKey = some (.str discriminator))
    (malformed : ¬Reference.Formed discriminator) :
    ((within document).resolve value union = .error (.unknownMember discriminator) ↔
      (discriminator = "" → ∀ member ∈ union.refs, ∀ target,
        Reference.parse member = .ok target →
        target.address document ≠ (document.base, mainDefinition))) ∧
    ((within document).resolve value union = .error (.unknownMember discriminator) →
      ∀ (v : Validator) (doc : Document), doc.id.base = document.base →
        v.validateInDocument value (.union union) doc =
          [{ path := "", expected := "union",
             message := (UnionError.unknownMember discriminator).message }]) := by
  obtain ⟨text, identifier⟩ := identifier
  have typed := Union.discriminator_eq_ok_iff.mpr named
  constructor
  · rw [resolve_eq_unknownMember_iff closed typed]
    constructor
    · rintro omitted rfl member inside target parsed addressed
      exact omitted member inside
        ((normalize_eq_malformed_iff identifier parsed malformed).mpr ⟨rfl, addressed⟩)
    · intro apart member inside same
      obtain ⟨target, parsed⟩ := formed member inside
      obtain ⟨empty, addressed⟩ :=
        (normalize_eq_malformed_iff identifier parsed malformed).mp same
      exact apart empty member inside target parsed addressed
  · intro unknown v doc same
    rw [← ofScope_eq_within same] at unknown
    have object : value.kind = .object := by
      cases value <;> first | rfl | cases named
    rw [Validator.validateInDocument_eq_report, Validator.check_eq_checkWithin,
      Validator.checkWithin_of_refuse maxHops (Move.ofNode_union_of_error unknown), if_pos object]
    rfl

/-- A name that is taken for a mark and a name is unknown. -/
theorem malformed_resolves_sharingDocument :
    ¬Reference.Formed "com.example.post#main#main" ∧
      (within sharingDocument.id).resolve
          (.obj [("$type", .str "com.example.post#main#main")]) (Validator.sharingUnion true) =
        .error (.unknownMember "com.example.post#main#main") := by
  have malformed : ¬Reference.Formed "com.example.post#main#main" := by
    rintro ⟨target, parsed⟩
    have refused : Reference.parse "com.example.post#main#main" =
        .error (.invalidFragment "com.example.post#main#main" "main#main") := by decide
    exact absurd (refused.symm.trans parsed) nofun
  have formed : ∀ member ∈ (Validator.sharingUnion true).refs, Reference.Formed member := by
    simp only [Validator.sharingUnion, List.forall_mem_cons]
    exact ⟨⟨.fragment "main", by decide⟩,
      ⟨.external ⟨["com", "example"], "defs", some "thing"⟩, by decide⟩,
      ⟨.fragment "gone", by decide⟩, nofun⟩
  exact ⟨malformed, ((malformed_resolves sharingDocument.id ⟨"com.example.post", by decide⟩
    (Validator.sharingUnion true) rfl formed _ _ rfl malformed).1).mpr nofun⟩

/-- The empty text is no reference, and is taken for the main definition of the document. -/
theorem empty_resolves_sharingDocument :
    Nsid.parse "com.example.post" = .ok sharingDocument.id ∧
      ¬Reference.Formed "" ∧ (∀ member ∈ ["#main"], Reference.Formed member) ∧
      (within sharingDocument.id).resolve (.obj [("$type", .str "")]) ⟨none, ["#main"], true⟩ =
        .ok (some "#main") ∧
      Validator.sharingValidator.validateInDocument (.obj [("$type", .str "")])
        (.union ⟨none, ["#main"], true⟩) sharingDocument = [] := by
  refine ⟨by decide, ?_, ?_, rfl, rfl⟩
  · rintro ⟨target, parsed⟩
    exact absurd ((by decide : Reference.parse "" = .error .empty).symm.trans parsed) nofun
  · rw [List.forall_mem_singleton]
    exact ⟨.fragment "main", by decide⟩

end UnionResolver

end Lexicon
