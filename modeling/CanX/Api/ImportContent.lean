import CanX.Dbc.Asset
import CanX.Transition.Outcome
import CanX.Numeric.Base64

/-! How the Base64 text of an import request becomes bytes: in steps of bounded length, each decoded on its own. The
library decoder is a parameter, `none` where it raises. -/

namespace CanX.Api.ImportContent

open Dbc Numeric

section Source

def maxDbcImportBytes : Nat := 16 * 1024 * 1024

def maxImportBase64Chars : Nat := 4 * ((maxDbcImportBytes + 2) / 3)

def decodeChunkChars : Nat := 256 * 1024

def contentTooLargeMessage : String := s!"The DBC content must be at most {maxDbcImportBytes} bytes."

def contentEmptyMessage : String := "The DBC content must not be empty."

def contentNotBase64Message : String := "The DBC content is not valid Base64."

/-- A refused request: the transport rules raise a `ValueError`, the decode an `ApiRequestError` that names the
content field. -/
inductive Refusal where
  | value (message : String)
  | request (message : String)
  deriving DecidableEq

def requireImportableTransport (content : Text) : Except Refusal Unit :=
  if content = [] then .error (.value contentEmptyMessage)
  else if maxImportBase64Chars < content.length then .error (.value contentTooLargeMessage)
  else .ok ()

/-- `=`. -/
def padding : CodePoint := 0x3D

/-- `range(0, total, chunk)`. -/
def starts (chunk total : Nat) : List Nat := (List.range ((total + chunk - 1) / chunk)).map (· * chunk)

variable (b64decode : Text → Option Bytes)

def decodeStep (chunk : Nat) (content : Text) (start : Nat) : Except Refusal Bytes :=
  let step := (content.drop start).take chunk
  if padding ∈ step ∧ start + chunk < content.length then .error (.request contentNotBase64Message)
  else
    match b64decode step with
    | none => .error (.request contentNotBase64Message)
    | some part => .ok part

def decodeSteps (chunk : Nat) (content : Text) : Except Refusal Bytes := do
  let parts ← (starts chunk content.length).mapM (decodeStep b64decode chunk content)
  return parts.flatten

def decodeStrictBase64 (content : Text) : Except Refusal Bytes := decodeSteps b64decode decodeChunkChars content

def decodeImportContent (content : Text) : Except Refusal Bytes := do
  requireImportableTransport content
  let raw ← decodeStrictBase64 b64decode content
  if raw = [] then .error (.request contentEmptyMessage)
  else if maxDbcImportBytes < raw.length then .error (.request contentTooLargeMessage)
  else .ok raw

end Source

section Steps

/-- The value of a digit of the alphabet of RFC 4648. -/
def digit (point : CodePoint) : Option (Fin 64) :=
  if 0x41 ≤ point.val ∧ point.val ≤ 0x5A then some (Fin.ofNat 64 (point.val - 0x41))
  else if 0x61 ≤ point.val ∧ point.val ≤ 0x7A then some (Fin.ofNat 64 (point.val - 0x61 + 26))
  else if 0x30 ≤ point.val ∧ point.val ≤ 0x39 then some (Fin.ofNat 64 (point.val - 0x30 + 52))
  else if point.val = 0x2B then some 62
  else if point.val = 0x2F then some 63
  else none

def rfc4648 : Alphabet CodePoint where
  digit := digit
  padding := padding
  padding_none := by decide

/-- The library decoder on one step: strict Base64. -/
def Strict (b64decode : Text → Option Bytes) : Prop :=
  ∀ step, step.length ≤ decodeChunkChars → b64decode step = rfc4648.decode step

variable {b64decode : Text → Option Bytes} {chunk : Nat} {content : Text}

theorem starts_zero (positive : 0 < chunk) : starts chunk 0 = [] := by
  have none : (0 + chunk - 1) / chunk = 0 := Nat.div_eq_of_lt (by omega)
  rw [starts, none]
  rfl

/-- One step, and those of what is left. -/
theorem starts_succ {total : Nat} (positive : 0 < chunk) (more : 0 < total) :
    starts chunk total = 0 :: (starts chunk (total - chunk)).map (· + chunk) := by
  have count : (total + chunk - 1) / chunk = (total - chunk + chunk - 1) / chunk + 1 := by
    by_cases long : chunk ≤ total
    · have sum : total + chunk - 1 = total - chunk + chunk - 1 + chunk := by omega
      rw [sum, Nat.add_div_right _ positive]
    · have short : (total - chunk + chunk - 1) / chunk = 0 := Nat.div_eq_of_lt (by omega)
      have one : (total + chunk - 1) / chunk = 1 := by
        rw [Nat.div_eq_iff positive]
        omega
      rw [short, one]
  rw [starts, starts, count, List.range_succ_eq_map, List.map_cons, Nat.zero_mul, List.map_map, List.map_map]
  congr 1
  refine List.map_congr_left ?_
  intro start _
  exact Nat.succ_mul start chunk

private theorem decodeStep_shift (start : Nat) (within : chunk ≤ content.length) :
    decodeStep b64decode chunk content (start + chunk) = decodeStep b64decode chunk (content.drop chunk) start := by
  have later : start + chunk + chunk < content.length ↔ start + chunk < (content.drop chunk).length := by
    rw [List.length_drop]
    omega
  rw [decodeStep, decodeStep, List.drop_drop, Nat.add_comm chunk start]
  simp only [later]

/-- The steps of a text are its first one and those of the rest. -/
theorem decodeSteps_cons (positive : 0 < chunk) (long : chunk < content.length) :
    decodeSteps b64decode chunk content = (do
      let part ← decodeStep b64decode chunk content 0
      let rest ← decodeSteps b64decode chunk (content.drop chunk)
      return part ++ rest) := by
  have shifted : (decodeStep b64decode chunk content ∘ fun start => start + chunk) =
      decodeStep b64decode chunk (content.drop chunk) := by
    funext start
    exact decodeStep_shift start (Nat.le_of_lt long)
  rw [decodeSteps, decodeSteps, starts_succ positive (Nat.lt_trans positive long), List.mapM_cons, List.mapM_map,
    shifted, List.length_drop]
  simp only [bind_assoc, pure_bind, List.flatten_cons]

private theorem decodeStep_last (short : content.length ≤ chunk) (decoder : b64decode content = rfc4648.decode content)
    {part : Bytes} : decodeStep b64decode chunk content 0 = .ok part ↔ rfc4648.decode content = some part := by
  have whole : (content.drop 0).take chunk = content := List.take_of_length_le short
  have final : ¬ (padding ∈ content ∧ 0 + chunk < content.length) := by omega
  rw [decodeStep, whole, if_neg final, decoder]
  cases rfc4648.decode content with
  | none => simp
  | some bytes => simp

private theorem decodeStep_first (long : chunk < content.length)
    (decoder : b64decode (content.take chunk) = rfc4648.decode (content.take chunk)) {part : Bytes} :
    decodeStep b64decode chunk content 0 = .ok part ↔
      padding ∉ content.take chunk ∧ rfc4648.decode (content.take chunk) = some part := by
  have more : 0 + chunk < content.length := by omega
  rw [decodeStep, List.drop_zero, decoder]
  by_cases padded : padding ∈ content.take chunk
  · rw [if_pos ⟨padded, more⟩]
    simp [padded]
  · rw [if_neg (fun both => padded both.1)]
    cases rfc4648.decode (content.take chunk) with
    | none => simp
    | some bytes => simp [padded]

private theorem decodeSteps_short (positive : 0 < chunk) (short : content.length ≤ chunk)
    (decoder : b64decode content = rfc4648.decode content) {raw : Bytes} :
    decodeSteps b64decode chunk content = .ok raw ↔ rfc4648.decode content = some raw := by
  by_cases empty : content = []
  · rw [empty, decodeSteps, List.length_nil, starts_zero positive, Alphabet.decode_nil]
    exact ⟨fun same => congrArg some (Except.ok.inj same), fun same => congrArg Except.ok (Option.some.inj same)⟩
  · have steps : starts chunk content.length = [0] := by
      rw [starts_succ positive (List.length_pos_iff.mpr empty), Nat.sub_eq_zero_of_le short, starts_zero positive]
      rfl
    rw [decodeSteps, steps, ← decodeStep_last short decoder, List.mapM_cons, List.mapM_nil]
    simp only [bind_assoc, pure_bind, List.flatten_cons, List.flatten_nil, List.append_nil, bind_pure]

/-- The steps decode what one decode of the whole text does. -/
theorem decodeSteps_ok (positive : 0 < chunk) (quanta : chunk % 4 = 0)
    (strict : ∀ step : Text, step.length ≤ chunk → b64decode step = rfc4648.decode step) {raw : Bytes} :
    decodeSteps b64decode chunk content = .ok raw ↔ rfc4648.decode content = some raw := by
  induction size : content.length using Nat.strong_induction_on generalizing content raw with
  | _ length ih =>
    by_cases short : content.length ≤ chunk
    · exact decodeSteps_short positive short (strict content short)
    · have long : chunk < content.length := Nat.lt_of_not_le short
      have shorter : (content.drop chunk).length < length := by
        rw [List.length_drop]
        omega
      have taken : (content.take chunk).length = chunk := List.length_take_of_le (Nat.le_of_lt long)
      have more : content.drop chunk ≠ [] := by
        rw [Ne, List.drop_eq_nil_iff]
        exact short
      have decoder := strict (content.take chunk) (Nat.le_of_eq taken)
      have later : ∀ rest, decodeSteps b64decode chunk (content.drop chunk) = .ok rest ↔
          rfc4648.decode (content.drop chunk) = some rest := fun rest => ih _ shorter rfl
      have whole : rfc4648.decode (content.take chunk ++ content.drop chunk) = _ :=
        Alphabet.decode_append (taken.symm ▸ quanta) more
      rw [List.take_append_drop] at whole
      rw [decodeSteps_cons positive long, whole]
      simp only [bind_ok, decodeStep_first long decoder, later]
      by_cases padded : padding ∈ content.take chunk
      · have refused : rfc4648.padding ∈ content.take chunk := padded
        rw [if_pos refused]
        simp [padded]
      · have plain : rfc4648.padding ∉ content.take chunk := padded
        rw [if_neg plain]
        simp only [Option.bind_eq_some_iff, Option.map_eq_some_iff]
        constructor
        · intro found
          obtain ⟨part, ⟨_, here⟩, rest, there, joined⟩ := found
          exact ⟨part, here, rest, there, Except.ok.inj joined⟩
        · intro found
          obtain ⟨part, here, rest, there, joined⟩ := found
          exact ⟨part, ⟨padded, here⟩, rest, there, congrArg Except.ok joined⟩

end Steps

section Import

variable {b64decode : Text → Option Bytes} {content : Text} {raw : Bytes}

private theorem decodeStrictBase64_ok (strict : Strict b64decode) :
    decodeStrictBase64 b64decode content = .ok raw ↔ rfc4648.decode content = some raw :=
  decodeSteps_ok (by decide) (by decide) strict

/-- No text that the transport rules refuse decodes to bytes within the bounds. -/
theorem requireImportableTransport_ok (decoded : rfc4648.decode content = some raw) (some_ : 1 ≤ raw.length)
    (bounded : raw.length ≤ maxDbcImportBytes) : requireImportableTransport content = .ok () := by
  obtain ⟨fewer, shorter⟩ := Alphabet.decode_length decoded
  have nonempty : content ≠ [] := by
    rintro rfl
    simp only [List.length_nil] at fewer
    omega
  have fits : content.length ≤ maxImportBase64Chars :=
    calc content.length ≤ 4 * ((raw.length + 2) / 3) := shorter
      _ ≤ 4 * ((maxDbcImportBytes + 2) / 3) :=
        Nat.mul_le_mul_left 4 (Nat.div_le_div_right (Nat.add_le_add_right bounded 2))
  rw [requireImportableTransport, if_neg nonempty, if_neg (Nat.not_lt.mpr fits)]

private theorem requireImportableTransport_bind {next : Unit → Except Refusal Bytes}
    (given : (requireImportableTransport content >>= next) = .ok raw) : next () = .ok raw := by
  obtain ⟨_, _, continued⟩ := bind_ok.mp given
  exact continued

/-- The bytes of an import are those of one strict decode of its whole text, where these are some and not too many.
A text that is not spelled as strict Base64 is refused, and one of no bytes or of too many. -/
theorem decodeImportContent_ok (strict : Strict b64decode) :
    (∀ raw, decodeImportContent b64decode content = .ok raw ↔
      rfc4648.decode content = some raw ∧ 1 ≤ raw.length ∧ raw.length ≤ maxDbcImportBytes) ∧
    ((¬ rfc4648.Spelled content ∨
        ∃ raw, rfc4648.decode content = some raw ∧ ¬ (1 ≤ raw.length ∧ raw.length ≤ maxDbcImportBytes)) →
      ∃ refusal, decodeImportContent b64decode content = .error refusal) := by
  have exact_ : ∀ raw, decodeImportContent b64decode content = .ok raw ↔
      rfc4648.decode content = some raw ∧ 1 ≤ raw.length ∧ raw.length ≤ maxDbcImportBytes := by
    intro raw
    constructor
    · intro imported
      obtain ⟨parts, decoded, checked⟩ := bind_ok.mp (requireImportableTransport_bind imported)
      split at checked
      · cases checked
      · split at checked
        · cases checked
        · rename_i nonempty bounded
          obtain rfl := Except.ok.inj checked
          exact ⟨(decodeStrictBase64_ok strict).mp decoded, List.length_pos_iff.mpr nonempty,
            Nat.le_of_not_lt bounded⟩
    · intro ⟨decoded, nonempty, bounded⟩
      rw [decodeImportContent, requireImportableTransport_ok decoded nonempty bounded,
        (decodeStrictBase64_ok strict).mpr decoded, ok_bind, ok_bind,
        if_neg (List.length_pos_iff.mp nonempty), if_neg (Nat.not_lt.mpr bounded)]
  refine ⟨exact_, ?_⟩
  intro refused
  cases imported : decodeImportContent b64decode content with
  | error refusal => exact ⟨refusal, rfl⟩
  | ok raw =>
    obtain ⟨decoded, bounds⟩ := (exact_ raw).mp imported
    rcases refused with unspelled | ⟨other, same, outside⟩
    · exact absurd (Alphabet.decode_spelled.mp (by rw [decoded]; rfl)) unspelled
    · obtain rfl := Option.some.inj (decoded.symm.trans same)
      exact absurd bounds outside

/-- Quanta of zeros in front of a text are zero bytes in front of its own. -/
theorem decode_zeros {back : Text} (more : back ≠ []) (decoded : rfc4648.decode back = some raw) (count : Nat) :
    rfc4648.decode (List.replicate (4 * count) 0x41 ++ back) = some (List.replicate (3 * count) 0 ++ raw) := by
  induction count with
  | zero => exact decoded
  | succ count ih =>
    have later : List.replicate (4 * count) 0x41 ++ back ≠ [] := List.append_ne_nil_of_right_ne_nil _ more
    have zeros : rfc4648.whole 0x41 0x41 0x41 0x41 = some [0, 0, 0] := by decide
    rw [Nat.mul_succ, Nat.mul_succ]
    exact (Alphabet.decode_cons later).trans (by rw [zeros, ih]; rfl)

/-- A step of zeros that ends on its boundary, and a byte in a padded quantum after it. -/
theorem decodeImportContent_steps :
    decodeImportContent rfc4648.decode (List.replicate decodeChunkChars 0x41 ++ text "TQ==") =
      .ok (List.replicate 196608 0 ++ [0x4D]) := by
  have decoded : rfc4648.decode (List.replicate decodeChunkChars 0x41 ++ text "TQ==") =
      some (List.replicate 196608 0 ++ [0x4D]) :=
    decode_zeros (List.cons_ne_nil _ _) (by decide +kernel) 65536
  have length : (List.replicate 196608 (0 : UInt8) ++ [0x4D]).length = 196609 := by
    rw [List.length_append, List.length_replicate]
    rfl
  exact ((decodeImportContent_ok fun _ _ => rfl).1 _).mpr
    ⟨decoded, by rw [length]; decide, by rw [length]; decide⟩

end Import

end CanX.Api.ImportContent
