import Lexicon.Text.Ascii
import Lexicon.Text.Utf8

/-!
# Lexicon.Base64

Decoding Base64 in the standard alphabet.

Four symbols stand for three bytes. The last group may be shorter; whether it
has to be filled up with `=` or must not be is a parameter. Bits of the last
symbol that belong to no byte have to be zero.

## Main definitions

- `Base64.decodeWith`: decodes with or without padding.
- `Base64.decode`: tries the padded form and then the unpadded one.
-/

namespace Lexicon

namespace Base64

/-- Why a text is no Base64. -/
inductive DecodeError where
  /-- A byte that is no symbol, or a misplaced `=`. -/
  | symbol (byte : UInt8) (offset : Nat)
  /-- The last group has one symbol only. -/
  | length (count : Nat)
  /-- The last symbol has bits that belong to no byte. -/
  | lastSymbol (byte : UInt8) (offset : Nat)
  /-- Padding is missing, or there where none is allowed. -/
  | padding
deriving DecidableEq, Repr

namespace DecodeError

/-- The error in words. -/
def message : DecodeError → String
  | symbol byte offset => s!"Invalid symbol {byte}, offset {offset}."
  | length count => s!"Invalid input length: {count}"
  | lastSymbol byte offset => s!"Invalid last symbol {byte}, offset {offset}."
  | padding => "Invalid padding"

end DecodeError

/-- What the end of the text has to look like. -/
inductive Padding where
  | required
  | forbidden
deriving DecidableEq, Repr

/-- The padding byte `=`. -/
def pad : UInt8 := 61

/-- The six bits that a symbol stands for. -/
def sextet? (byte : UInt8) : Option Nat :=
  let n := byte.toNat
  if 65 ≤ n ∧ n ≤ 90 then some (n - 65)
  else if 97 ≤ n ∧ n ≤ 122 then some (n - 97 + 26)
  else if 48 ≤ n ∧ n ≤ 57 then some (n - 48 + 52)
  else if n = 43 then some 62
  else if n = 47 then some 63
  else none

/-- The sextets of symbols; `offset` is the place of the first one. -/
def sextets (offset : Nat) : List UInt8 → Except DecodeError (List Nat)
  | [] => .ok []
  | byte :: rest =>
    match sextet? byte with
    | none => .error (.symbol byte offset)
    | some n => (sextets (offset + 1) rest).map (n :: ·)

/-- The bytes of sextets. Bits beyond the last whole byte are dropped. -/
def pack : List Nat → List UInt8
  | a :: b :: c :: d :: rest =>
    UInt8.ofNat (a * 4 + b / 16) :: UInt8.ofNat (b % 16 * 16 + c / 4) ::
      UInt8.ofNat (c % 4 * 64 + d) :: pack rest
  | [a, b, c] => [UInt8.ofNat (a * 4 + b / 16), UInt8.ofNat (b % 16 * 16 + c / 4)]
  | [a, b] => [UInt8.ofNat (a * 4 + b / 16)]
  | _ => []

/-- Whether the last of the sextets has bits that belong to no byte. -/
def hasLooseBits : List Nat → Bool
  | [_, b] => b % 16 != 0
  | [_, _, c] => c % 4 != 0
  | _ => false

/-- Decodes the last group, of at most four bytes; `offset` is its place. -/
def decodeLast (padding : Padding) (offset : Nat) (bytes : List UInt8) :
    Except DecodeError (List Nat) := do
  let symbols := bytes.takeWhile (· != pad)
  let rest := bytes.dropWhile (· != pad)
  let values ← sextets offset symbols
  -- Padding may only stand behind two symbols or more, and nothing else behind it.
  if !rest.isEmpty && (symbols.length < 2 || rest.any (· != pad)) then
    .error (.symbol pad (offset + symbols.length))
  else if 0 < offset + bytes.length && symbols.length < 2 then
    .error (.length (offset + symbols.length))
  else if (match padding with
      | .required => bytes.length % 4 != 0
      | .forbidden => !rest.isEmpty) then
    .error .padding
  else if hasLooseBits values then
    .error (.lastSymbol (symbols.getLastD 0) (offset + symbols.length - 1))
  else .ok values

/-- A single byte behind the whole groups that is neither a symbol nor padding. -/
def strayByte? (bytes : List UInt8) : Option UInt8 :=
  if bytes.length % 4 = 1 then
    bytes.getLast?.filter fun byte => byte != pad && (sextet? byte).isNone
  else none

/-- Decodes a text of bytes. -/
def decodeWith (padding : Padding) (bytes : List UInt8) : Except DecodeError (List UInt8) :=
  match strayByte? bytes with
  | some byte => .error (.symbol byte (bytes.length - 1))
  | none => do
    -- Four bytes at the end are the last group too: they may hold the padding.
    let whole := bytes.length - (if bytes.length % 4 = 0 then 4 else bytes.length % 4)
    let values ← sextets 0 (bytes.take whole)
    let lastValues ← decodeLast padding whole (bytes.drop whole)
    return pack (values ++ lastValues)

/-- Decodes the padded form, or else the unpadded one, whose error is reported. -/
def decode (text : String) : Except DecodeError (List UInt8) :=
  let bytes := Text.utf8 text
  match decodeWith .required bytes with
  | .ok decoded => .ok decoded
  | .error _ => decodeWith .forbidden bytes

end Base64

end Lexicon
