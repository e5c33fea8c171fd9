import TnsClient.Bytes

set_option autoImplicit false

/-!
# UTF-8

Text is carried as UTF-8. Reading it either succeeds, or says where the first sequence that is not
UTF-8 begins and how many octets of it are at fault. A lenient reader puts the replacement
character in the place of every such sequence.

## Main definitions

* `TnsClient.Utf8.encode`, `TnsClient.Utf8.decode` — the two directions.
* `TnsClient.Utf8.Fault` — the first sequence that is not UTF-8.
* `TnsClient.Utf8.decodeLossy` — reading that replaces what is not UTF-8.

## Main results

* `TnsClient.Utf8.decode_encode` — text is read back from its octets.
-/

namespace TnsClient.Utf8

/-- The octets of a text. -/
def encode (text : String) : Bytes := text.toByteArray.data.toList

/-- The text that octets spell, if they are UTF-8. -/
def decode? (bytes : Bytes) : Option String := String.fromUTF8? ⟨bytes.toArray⟩

/-! ## One sequence at a time -/

/-- What the octets at the front of a byte string are. -/
inductive Front where
  /-- A character of that many octets. -/
  | character (width : Nat)
  /-- That many octets which no continuation makes a character. -/
  | malformed (width : Nat)
  /-- The beginning of a character, cut short by the end of the octets. -/
  | truncated
  deriving DecidableEq, Repr

/-- What a lead octet asks for: the number of octets to follow it, and the least and the greatest
value of the first of them. -/
def following? (lead : UInt8) : Option (Nat × UInt8 × UInt8) :=
  if lead < 0x80 then some (0, 0x80, 0xBF)
  else if lead < 0xC2 then none
  else if lead < 0xE0 then some (1, 0x80, 0xBF)
  else if lead = 0xE0 then some (2, 0xA0, 0xBF)
  else if lead = 0xED then some (2, 0x80, 0x9F)
  else if lead < 0xF0 then some (2, 0x80, 0xBF)
  else if lead = 0xF0 then some (3, 0x90, 0xBF)
  else if lead < 0xF4 then some (3, 0x80, 0xBF)
  else if lead = 0xF4 then some (3, 0x80, 0x8F)
  else none

/-- Walks over the octets owed after `seen` good ones; `low` and `high` bound the next one. -/
def walk (seen : Nat) : (owed : Nat) → (low high : UInt8) → Bytes → Front
  | 0, _, _, _ => .character seen
  | _ + 1, _, _, [] => .truncated
  | owed + 1, low, high, byte :: rest =>
    if low ≤ byte ∧ byte ≤ high then walk (seen + 1) owed 0x80 0xBF rest else .malformed seen

/-- The front of the byte string `lead :: rest`. -/
def front (lead : UInt8) (rest : Bytes) : Front :=
  match following? lead with
  | some (owed, low, high) => walk 1 owed low high rest
  | none => .malformed 1

/-! ## The first fault -/

/-- A sequence that is not UTF-8: where it begins, and its width, or none if it is the beginning
of a character that the octets do not finish. -/
structure Fault where
  /-- The number of octets in front of the sequence. -/
  index : Nat
  /-- The number of octets that no continuation makes a character. -/
  width : Option Nat
  deriving DecidableEq, Repr

/-- The message for a fault. -/
def Fault.message (fault : Fault) : String :=
  match fault.width with
  | some width => s!"invalid utf-8 sequence of {width} bytes from index {fault.index}"
  | none => s!"incomplete utf-8 byte sequence from index {fault.index}"

/-- The first fault of a byte string that stands behind `index` octets. -/
def fault? (index : Nat) : Bytes → Option Fault
  | [] => none
  | lead :: rest =>
    match front lead rest with
    | .character width => fault? (index + width) (rest.drop (width - 1))
    | .malformed width => some ⟨index, some width⟩
    | .truncated => some ⟨index, none⟩
termination_by bytes => bytes.length
decreasing_by simp only [List.length_drop, List.length_cons]; omega

/-- Reads text, or reports the first fault. -/
def decode (bytes : Bytes) : Except Fault String :=
  match decode? bytes with
  | some text => .ok text
  | none => .error ((fault? 0 bytes).getD ⟨bytes.length, none⟩)

@[simp] theorem decode?_encode (text : String) : decode? (encode text) = some text := by
  simp only [decode?, encode, Array.toArray_toList]
  exact dif_pos text.isValidUTF8

/-- **Text round trip.** -/
@[simp] theorem decode_encode (text : String) : decode (encode text) = .ok text := by
  simp [decode]

/-! ## Lenient reading -/

/-- The octets of the replacement character U+FFFD. -/
def replacement : Bytes := [0xEF, 0xBF, 0xBD]

/-- Puts the replacement character in the place of every sequence that is not UTF-8. -/
def repair : Bytes → Bytes
  | [] => []
  | lead :: rest =>
    match front lead rest with
    | .character width =>
      lead :: rest.take (width - 1) ++ repair (rest.drop (width - 1))
    | .malformed width => replacement ++ repair (rest.drop (width - 1))
    | .truncated => replacement
termination_by bytes => bytes.length
decreasing_by all_goals (simp only [List.length_drop, List.length_cons]; omega)

/-- Reads text, putting the replacement character in the place of what is not UTF-8. -/
def decodeLossy (bytes : Bytes) : String :=
  match decode? bytes with
  | some text => text
  | none => (decode? (repair bytes)).getD ""

end TnsClient.Utf8
