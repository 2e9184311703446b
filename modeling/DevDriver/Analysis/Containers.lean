import DevDriver.Analysis.ClientMetadata
import DevDriver.Model.TransferProtocol

/-!
# Payload arrays that hold a payload

A payload is received into the front of an array and leaves the bytes behind it as they were.
These are the bytes that a field has when it was received, and when it was not.
-/

namespace DevDriver.Analysis

open Library Model

variable {p : List UInt8} {offset width count : ℕ}

theorem writeBytes_of_lt {i : Fin kMaxPayloadSizeInBytes} (h : i.val < p.length) (d : Payload) :
    writeBytes p d i = p[i.val] := dif_pos h

theorem writeBytes_of_le {i : Fin kMaxPayloadSizeInBytes} (h : p.length ≤ i.val) (d : Payload) :
    writeBytes p d i = d i := dif_neg (Nat.not_lt.mpr h)

theorem payloadField_congr {d d' : Payload} (hmax : offset + width ≤ kMaxPayloadSizeInBytes)
    (h : ∀ i : Fin kMaxPayloadSizeInBytes, i.val < offset + width → d i = d' i) :
    payloadField d offset width = payloadField d' offset width := by
  rw [payloadField, payloadField]
  congr 1
  apply List.map_congr_left
  intro k hk
  have hk : k < width := List.mem_range.mp hk
  apply h
  change (offset + k) % kMaxPayloadSizeInBytes < offset + width
  rw [Nat.mod_eq_of_lt (by omega)]
  omega

theorem payloadField_received (offset width : ℕ) (h : offset + width ≤ p.length)
    (hp : p.length ≤ kMaxPayloadSizeInBytes) (d d' : Payload) :
    payloadField (writeBytes p d) offset width = payloadField (writeBytes p d') offset width := by
  apply payloadField_congr (h.trans hp)
  intro i hi
  have hlt : i.val < p.length := hi.trans_le h
  rw [writeBytes_of_lt hlt, writeBytes_of_lt hlt]

theorem readBytes_congr {d d' : Payload}
    (h : ∀ i : Fin kMaxPayloadSizeInBytes, i.val < count → d i = d' i) :
    readBytes count d = readBytes count d' := by
  rw [readBytes, readBytes]
  congr 1
  funext i
  exact h _ (lt_of_lt_of_le i.isLt (min_le_left _ _))

theorem readBytes_response {data : List UInt8} (h : count ≤ data.length ∨ count ≤ p.length)
    (d d' : Payload) : readBytes count (writeBytes data (writeBytes p d)) =
      readBytes count (writeBytes data (writeBytes p d')) := by
  apply readBytes_congr
  intro i hi
  by_cases hdata : i.val < data.length
  · rw [writeBytes_of_lt hdata, writeBytes_of_lt hdata]
  · have hpayload : i.val < p.length := by omega
    have hbehind : data.length ≤ i.val := Nat.le_of_not_lt hdata
    rw [writeBytes_of_le hbehind, writeBytes_of_le hbehind, writeBytes_of_lt hpayload,
      writeBytes_of_lt hpayload]

theorem getElem?_readBytes {i : ℕ} (hi : i < count) (hmax : i < kMaxPayloadSizeInBytes)
    (d : Payload) : (readBytes count d)[i]? = some (d ⟨i, hmax⟩) := by
  have hlength : i < (readBytes count d).length := by
    rw [readBytes, List.length_ofFn]
    omega
  rw [List.getElem?_eq_getElem hlength]
  exact congrArg some (List.getElem_ofFn hlength)

theorem payloadField_first {code : UInt8} {rest : List UInt8} (hp : p = code :: rest)
    (d : Payload) : payloadField (writeBytes p d) 0 1 = code.toNat := by
  have hfield := payloadField_writeBytes [] [code] rest d
    (show p = [] ++ [code] ++ rest by simp [hp])
    (show 1 ≤ kMaxPayloadSizeInBytes by decide)
  simpa [leNat] using hfield

def staleByte (i : ℕ) (b : UInt8) : SizedPayloadContainer :=
  ⟨0, fun j => if j.val = i then b else 0⟩

theorem payloadField_empty (b : UInt8) :
    payloadField (writeBytes [] (staleByte 0 b).payload) 0 1 = b.toNat := by
  simp [payloadField, writeBytes, staleByte, leNat]

theorem payloadField_stale (h : p.length ≤ offset + 3)
    (hmax : offset + 3 < kMaxPayloadSizeInBytes) :
    ∃ x < 2 ^ 24, ∀ b, payloadField (writeBytes p (staleByte (offset + 3) b).payload) offset 4 =
      x + 2 ^ 24 * b.toNat := by
  let byte (k : ℕ) : UInt8 := if h : offset + k < p.length then p[offset + k] else 0
  have hbyte : ∀ b k, k < 3 → writeBytes p (staleByte (offset + 3) b).payload
      (Fin.ofNat _ (offset + k)) = byte k := by
    intro b k hk
    have hval : (Fin.ofNat kMaxPayloadSizeInBytes (offset + k)).val = offset + k :=
      Nat.mod_eq_of_lt (by omega)
    simp only [byte, writeBytes, hval, staleByte]
    split
    · rfl
    · rw [if_neg (by omega)]
  have hlast : ∀ b, writeBytes p (staleByte (offset + 3) b).payload
      (Fin.ofNat _ (offset + 3)) = b := by
    intro b
    have hval : (Fin.ofNat kMaxPayloadSizeInBytes (offset + 3)).val = offset + 3 :=
      Nat.mod_eq_of_lt hmax
    rw [writeBytes_of_le (by rw [hval]; exact h)]
    exact if_pos hval
  have h0 := (byte 0).toNat_lt
  have h1 := (byte 1).toNat_lt
  have h2 := (byte 2).toNat_lt
  refine ⟨(byte 0).toNat + 256 * (byte 1).toNat + 65536 * (byte 2).toNat, by omega, fun b => ?_⟩
  have hbytes : (List.range 4).map (fun k => writeBytes p (staleByte (offset + 3) b).payload
      (Fin.ofNat _ (offset + k))) = [byte 0, byte 1, byte 2, b] := by
    simp only [List.range, List.range.loop, List.map_cons, List.map_nil]
    rw [hbyte b 0 (by omega), hbyte b 1 (by omega), hbyte b 2 (by omega), hlast]
  rw [payloadField, hbytes]
  simp only [leNat]
  omega

theorem payloadField_stale_ne (offset : ℕ) (h : p.length ≤ offset + 3)
    (hmax : offset + 3 < kMaxPayloadSizeInBytes) :
    ∃ x < 2 ^ 24, payloadField (writeBytes p (staleByte (offset + 3) 0).payload) offset 4 = x ∧
      payloadField (writeBytes p (staleByte (offset + 3) 1).payload) offset 4 = x + 2 ^ 24 := by
  obtain ⟨x, hx, hfield⟩ := payloadField_stale h hmax
  exact ⟨x, hx, by simpa using hfield 0, by simpa using hfield 1⟩

end DevDriver.Analysis
