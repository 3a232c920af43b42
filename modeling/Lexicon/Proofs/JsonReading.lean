import Mathlib.Data.List.Basic
import Lexicon.Json.Parser
import Lexicon.Proofs.Entries

/-!
# Lexicon.Proofs.JsonReading

Objects that were read have distinct keys.

The members of an object that is read form a dictionary, where a repeated key
has one place. So no object in a value that was read has two members under one
key, however deep it stands.

## Main definition

`Json.KeysDistinct`: the objects of a value have distinct keys.

## Main result

`Json.keysDistinct_of_parse?`: so do those of every value that was read.
-/

namespace Lexicon

namespace Json

/-- No object in a value has two members under one key. -/
inductive KeysDistinct : Json → Prop where
  | null : KeysDistinct .null
  | bool (b : Bool) : KeysDistinct (.bool b)
  | int (n : Int) : KeysDistinct (.int n)
  | real (x : Binary64) : KeysDistinct (.real x)
  | str (s : String) : KeysDistinct (.str s)
  | arr {elements : List Json} (each : ∀ element ∈ elements, KeysDistinct element) :
      KeysDistinct (.arr elements)
  | obj {members : List (String × Json)} (distinct : (Entries.keys members).Nodup)
      (each : ∀ key value, (key, value) ∈ members → KeysDistinct value) :
      KeysDistinct (.obj members)

variable {value : Json} {s rest : List Char}

/-! ### Numbers and words -/

theorem keysDistinct_of_readMagnitude {negative : Bool}
    (read : readMagnitude negative s = some (value, rest)) : value.KeysDistinct := by
  unfold readMagnitude at read
  dsimp only at read
  split at read
  · cases read
  · simp only [Option.bind_eq_bind, Option.bind_eq_some_iff] at read
    obtain ⟨⟨fraction, behind⟩, _, ⟨power, tail⟩, _, read⟩ := read
    dsimp only at read
    split at read
    · cases read
      exact .int _
    · obtain ⟨x, _, read⟩ := Option.bind_eq_some_iff.mp read
      cases read
      exact .real x

theorem keysDistinct_of_readNumber (read : readNumber s = some (value, rest)) :
    value.KeysDistinct := by
  unfold readNumber at read
  split at read <;> exact keysDistinct_of_readMagnitude read

theorem keysDistinct_of_readWord {word : List Char} {meant : Json} (distinct : meant.KeysDistinct)
    (read : readWord word meant s = some (value, rest)) : value.KeysDistinct := by
  unfold readWord at read
  split at read
  · cases read
    exact distinct
  · cases read

/-! ### Arrays and objects -/

variable {reader : List Char → Option (Json × List Char)}

theorem keysDistinct_of_readElements
    (inner : ∀ s value rest, reader s = some (value, rest) → value.KeysDistinct)
    {fuel : Nat} {done : List Json} (before : ∀ element ∈ done, element.KeysDistinct)
    (read : readElements reader fuel done s = some (value, rest)) : value.KeysDistinct := by
  induction fuel generalizing done s with
  | zero => cases read
  | succ fuel ih =>
    unfold readElements at read
    split at read
    · cases read
    · next element behind given =>
      have each : ∀ other ∈ element :: done, other.KeysDistinct :=
        List.forall_mem_cons.mpr ⟨inner _ _ _ given, before⟩
      split at read
      · exact ih each read
      · cases read
        exact .arr fun other inside => each other (List.mem_reverse.mp inside)
      · cases read

theorem keysDistinct_of_readMembers
    (inner : ∀ s value rest, reader s = some (value, rest) → value.KeysDistinct)
    {fuel : Nat} {done : List (String × Json)}
    (before : ∀ member ∈ done, member.2.KeysDistinct)
    (read : readMembers reader fuel done s = some (value, rest)) : value.KeysDistinct := by
  induction fuel generalizing done s with
  | zero => cases read
  | succ fuel ih =>
    unfold readMembers at read
    split at read
    · split at read
      · cases read
      · next key behind named =>
        split at read
        · split at read
          · cases read
          · next member behind given =>
            have each : ∀ other ∈ (key, member) :: done, other.2.KeysDistinct :=
              List.forall_mem_cons.mpr ⟨inner _ _ _ given, before⟩
            split at read
            · exact ih each read
            · cases read
              -- A repeated key has one place, whatever was read before.
              refine .obj (Entries.nodup_keys_ofPairs _) fun key value inside => ?_
              exact each _ (List.mem_reverse.mp (Entries.mem_of_mem_ofPairs inside))
            · cases read
        · cases read
    · cases read

/-! ### Values -/

theorem keysDistinct_of_readValue_step {depth : Nat}
    (inner : ∀ smaller, depth = smaller + 1 →
      ∀ s value rest, readValue smaller s = some (value, rest) → value.KeysDistinct)
    (read : readValue depth s = some (value, rest)) : value.KeysDistinct := by
  unfold readValue at read
  -- The first character decides what kind of value is read.
  split at read
  · exact keysDistinct_of_readWord .null read
  · exact keysDistinct_of_readWord (.bool true) read
  · exact keysDistinct_of_readWord (.bool false) read
  · obtain ⟨⟨text, behind⟩, _, same⟩ := Option.map_eq_some_iff.mp read
    cases same
    exact .str text
  · split at read
    · cases read
    · next smaller =>
      split at read
      · cases read
        exact .arr (List.forall_mem_nil _)
      · exact keysDistinct_of_readElements (inner smaller rfl) (List.forall_mem_nil _) read
  · split at read
    · cases read
    · next smaller =>
      split at read
      · cases read
        exact .obj List.nodup_nil (by simp)
      · exact keysDistinct_of_readMembers (inner smaller rfl) (List.forall_mem_nil _) read
  · exact keysDistinct_of_readNumber read

theorem keysDistinct_of_readValue (depth : Nat) :
    ∀ s value rest, readValue depth s = some (value, rest) → value.KeysDistinct := by
  -- Only arrays and objects are read with a smaller depth.
  induction depth with
  | zero => exact fun s value rest => keysDistinct_of_readValue_step nofun
  | succ depth ih =>
    exact fun s value rest => keysDistinct_of_readValue_step fun smaller same =>
      Nat.succ.inj same ▸ ih

/-- No object in a value that was read has two members under one key. -/
theorem keysDistinct_of_parse? {text : String} (read : parse? text = some value) :
    value.KeysDistinct := by
  unfold parse? at read
  split at read
  · next other rest spelled =>
    split at read
    · cases read
      exact keysDistinct_of_readValue _ _ _ _ spelled
    · cases read
  · cases read

end Json

end Lexicon
