import Mathlib.Data.List.Basic

/-! Payloads in a row, each behind its length in four bytes, and the loop that reads them back. -/

namespace CanX.Numeric

section Words

/-- Four bytes, the most significant first. -/
def wordBytes (value : Nat) : List UInt8 :=
  [UInt8.ofNat (value / 0x1000000), UInt8.ofNat (value / 0x10000), UInt8.ofNat (value / 0x100), UInt8.ofNat value]

def wordOf (bytes : List UInt8) : Nat := bytes.foldl (fun high byte => 256 * high + byte.toNat) 0

theorem wordBytes_length (value : Nat) : (wordBytes value).length = 4 := rfl

private theorem wordOf_wordBytes {value : Nat} (small : value ≤ 0xFFFFFFFF) : wordOf (wordBytes value) = value := by
  simp only [wordOf, wordBytes, List.foldl_cons, List.foldl_nil, UInt8.toNat_ofNat']
  omega

end Words

section Chunks

variable {Fault Value : Type} {read : List UInt8 → Except Fault Value} {cutLength cutPayload : Fault}

def chunkOf (payload : List UInt8) : List UInt8 := wordBytes payload.length ++ payload

/-- Each payload is read before the next length is looked at. -/
def readChunks (read : List UInt8 → Except Fault Value) (cutLength cutPayload : Fault) (contents : List UInt8) :
    Except Fault (List Value) :=
  if contents = [] then .ok []
  else if contents.length < 4 then .error cutLength
  else if (contents.drop 4).length < wordOf (contents.take 4) then .error cutPayload
  else do
    let value ← read ((contents.drop 4).take (wordOf (contents.take 4)))
    let values ← readChunks read cutLength cutPayload ((contents.drop 4).drop (wordOf (contents.take 4)))
    return value :: values
termination_by contents.length
decreasing_by
  simp only [List.length_drop]
  omega

private theorem readChunks_chunk {payload rest : List UInt8} (short : payload.length ≤ 0xFFFFFFFF) :
    readChunks read cutLength cutPayload (chunkOf payload ++ rest) = (do
      let value ← read payload
      let values ← readChunks read cutLength cutPayload rest
      return value :: values) := by
  have length : (chunkOf payload ++ rest).length = 4 + payload.length + rest.length := by
    simp only [chunkOf, List.length_append, wordBytes_length]
  have nonempty : chunkOf payload ++ rest ≠ [] := by
    intro empty
    rw [empty, List.length_nil] at length
    omega
  have head : (chunkOf payload ++ rest).take 4 = wordBytes payload.length := by
    rw [chunkOf, List.append_assoc]
    exact List.take_left' rfl
  have tail : (chunkOf payload ++ rest).drop 4 = payload ++ rest := by
    rw [chunkOf, List.append_assoc]
    exact List.drop_left' rfl
  rw [readChunks, if_neg nonempty, if_neg (by omega), head, tail, wordOf_wordBytes short,
    if_neg (by rw [List.length_append]; omega), List.take_left, List.drop_left]

/-- What was written in chunks is read payload by payload. -/
theorem readChunks_chunks {payloads : List (List UInt8)} (short : ∀ payload ∈ payloads, payload.length ≤ 0xFFFFFFFF) :
    readChunks read cutLength cutPayload (payloads.flatMap chunkOf) = payloads.mapM read := by
  induction payloads with
  | nil =>
    rw [List.flatMap_nil, readChunks, if_pos rfl]
    rfl
  | cons payload rest ih =>
    obtain ⟨here, there⟩ := List.forall_mem_cons.mp short
    rw [List.flatMap_cons, readChunks_chunk here, ih there, List.mapM_cons]

end Chunks

end CanX.Numeric
