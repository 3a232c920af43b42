import Lexicon.Number.Binary64

/-!
# Lexicon.Json.Basic

JSON values, their kinds, and typed views of them.

A number written without fraction or exponent that fits a signed or unsigned
64-bit word is an integer; every other number is a double, and a double is
never taken for an integer. Objects are lists of members in written order.

## Main result

`Json.sizeOf_lt_of_lookup`: a member found in an object is smaller than the
object, which is what recursion over looked-up members terminates by.
-/

namespace Lexicon

/-- A JSON value. -/
inductive Json where
  | null
  | bool (value : Bool)
  | int (value : Int)
  | real (value : Binary64)
  | str (value : String)
  | arr (elements : List Json)
  | obj (members : List (String × Json))
deriving Repr

instance : Inhabited Json := ⟨.null⟩

/-- The kind of a JSON value, as messages name it. -/
inductive Kind where
  | null
  | boolean
  | integer
  | number
  | string
  | array
  | object
deriving DecidableEq, Repr

namespace Kind

/-- The lower-case name of a kind. -/
def name : Kind → String
  | null => "null"
  | boolean => "boolean"
  | integer => "integer"
  | number => "number"
  | string => "string"
  | array => "array"
  | object => "object"

end Kind

namespace Json

/-- The kind of a value. -/
def kind : Json → Kind
  | null => .null
  | bool _ => .boolean
  | int _ => .integer
  | real _ => .number
  | str _ => .string
  | arr _ => .array
  | obj _ => .object

/-- Whether the value is `null`. -/
def isNull : Json → Bool
  | null => true
  | _ => false

/-- The text of a string value. -/
def asString? : Json → Option String
  | str s => some s
  | _ => none

/-- The integer of a value that fits a signed 64-bit word. -/
def asInt64? : Json → Option Int64
  | int n =>
    if Int64.minValue.toInt ≤ n ∧ n ≤ Int64.maxValue.toInt then some (Int64.ofInt n) else none
  | _ => none

/-- The integer of a value that fits an unsigned 64-bit word. -/
def asUInt64? : Json → Option UInt64
  | int n => if 0 ≤ n ∧ n.toNat < UInt64.size then some (UInt64.ofNat n.toNat) else none
  | _ => none

/-- The member of that key, when the value is an object that has one. -/
def get? (value : Json) (key : String) : Option Json :=
  match value with
  | obj members => members.lookup key
  | _ => none

/-! ### Sizes -/

theorem mem_of_lookup {α : Type} {key : String} {value : α} {members : List (String × α)}
    (h : members.lookup key = some value) : (key, value) ∈ members := by
  induction members with
  | nil => cases h
  | cons entry rest ih =>
    obtain ⟨k, v⟩ := entry
    rw [List.lookup_cons] at h
    split at h
    · next hk =>
      have : key = k := by simpa using hk
      injection h with h
      subst this h
      simp
    · exact List.mem_cons_of_mem _ (ih h)

theorem sizeOf_lt_of_mem_members {members : List (String × Json)} {key : String} {value : Json}
    (h : (key, value) ∈ members) : sizeOf value < sizeOf (obj members) := by
  have hm := List.sizeOf_lt_of_mem h
  have hp : sizeOf (key, value) = 1 + sizeOf key + sizeOf value := rfl
  have ho : sizeOf (obj members) = 1 + sizeOf members := obj.sizeOf_spec members
  omega

theorem sizeOf_lt_of_lookup {members : List (String × Json)} {key : String} {value : Json}
    (h : members.lookup key = some value) : sizeOf value < sizeOf (obj members) :=
  sizeOf_lt_of_mem_members (mem_of_lookup h)

theorem sizeOf_lt_of_get? {value member : Json} {key : String}
    (h : value.get? key = some member) : sizeOf member < sizeOf value := by
  cases value with
  | obj members => exact sizeOf_lt_of_lookup h
  | _ => simp [get?] at h

theorem sizeOf_lt_of_mem_elements {elements : List Json} {value : Json}
    (h : value ∈ elements) : sizeOf value < sizeOf (arr elements) := by
  have hm := List.sizeOf_lt_of_mem h
  have ha : sizeOf (arr elements) = 1 + sizeOf elements := arr.sizeOf_spec elements
  omega

end Json

end Lexicon
