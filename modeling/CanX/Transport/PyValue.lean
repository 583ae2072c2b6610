import CanX.Dbc.Asset
import CanX.Domain.Frame

/-! The plain values that Python hands to an encoder, and the texts that reach the renderer. -/

namespace CanX.Transport

open Dbc Domain

/-- The plain values of a payload. The keys of a map are literals of the source. -/
inductive PyValue where
  | none
  | bool (value : Bool)
  | int (value : Int)
  | float (value : Rat)
  | str (value : Text)
  | bytes (data : Bytes)
  | list (elements : List PyValue)
  | dict (entries : List (String × PyValue))

def directionValue : Direction → String
  | .rx => "rx"
  | .tx => "tx"

def timestampQualityValue : Domain.TimestampQuality → String
  | .hardware => "hardware"
  | .host => "host"
  | .estimated => "estimated"

section Texts

/-- The text as UTF-8 carries it. -/
def characters (value : Text) : String := String.ofList (value.map fun point => Char.ofNat point.val)

private theorem codePoint_ofNat {point : CodePoint} (scalar : point.surrogate = false) :
    codePoint (Char.ofNat point.val) = point := by
  have below : point.val < 0x110000 := point.isLt
  have valid : point.val.isValidChar := by
    simp only [CodePoint.surrogate, Bool.and_eq_false_iff, decide_eq_false_iff_not] at scalar
    unfold Nat.isValidChar
    omega
  have kept : (Char.ofNat point.val).toNat = point.val := by
    rw [Char.ofNat, dif_pos valid]
    rfl
  rw [codePoint, kept]
  exact Fin.ofNat_val_eq_self point

/-- UTF-8 gives back a text without surrogates. -/
theorem text_characters {value : Text} (encodable : value.encodable = true) :
    text (characters value) = value := by
  rw [text, characters, String.toList_ofList, List.map_map]
  conv_rhs => rw [← List.map_id value]
  refine List.map_congr_left ?_
  intro point member
  have scalar := List.all_eq_true.mp encodable point member
  exact codePoint_ofNat (by simpa using scalar)

theorem toNat_below (character : Char) : character.toNat < 0x110000 := by
  have valid := character.valid
  simp only [UInt32.isValidChar, Nat.isValidChar] at valid
  change character.val.toNat < 0x110000
  omega

theorem characters_text (literal : String) : characters (text literal) = literal := by
  rw [text, characters, List.map_map]
  have kept : (fun point : CodePoint => Char.ofNat point.val) ∘ codePoint = id := by
    funext character
    simp only [Function.comp, codePoint, id, Fin.val_ofNat, Nat.mod_eq_of_lt (toNat_below character),
      Char.ofNat_toNat]
  rw [kept, List.map_id, String.ofList_toList]

theorem text_encodable (literal : String) : (text literal).encodable = true := by
  simp only [Text.encodable, text, List.all_map, List.all_eq_true]
  intro character _
  have valid := character.valid
  simp only [UInt32.isValidChar, Nat.isValidChar] at valid
  simp only [Function.comp, codePoint, CodePoint.surrogate, Fin.val_ofNat,
    Nat.mod_eq_of_lt (toNat_below character)]
  change character.val.toNat < 0xD800 ∨ _ at valid
  simp only [Char.toNat, Bool.not_eq_true', Bool.and_eq_false_iff, decide_eq_false_iff_not]
  omega

theorem text_named {literal : String} (named : literal ≠ "") : text literal ≠ [] := by
  intro empty
  rw [text, List.map_eq_nil_iff] at empty
  exact named (String.toList_eq_nil_iff.mp empty)

end Texts

end CanX.Transport
