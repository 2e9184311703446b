import DevDriver.Model.Utilities

/-!
# What hex strings encode and decode

`leadingBytes` reads the valid digit pairs that a text begins with.  One lemma for each loop says
what it writes; the claims about buffer sizes are arithmetic on the lengths.
-/

namespace DevDriver.Analysis

namespace HexStrings

open Library Model

def pair (fmt : HexStringFmt) (byte : UInt8) : List UInt8 :=
  [fmt.digit (byte >>> 4), fmt.digit (byte &&& 0xf)]

def toLower (c : UInt8) : UInt8 := if 65 ≤ c ∧ c ≤ 90 then c + 32 else c

theorem forall_byte {P : UInt8 → Prop} (h : ∀ n : Fin 256, P (UInt8.ofNat n)) (c : UInt8) :
    P c := by
  have hbyte := h ⟨c.toNat, c.toNat_lt⟩
  rwa [UInt8.ofNat_toNat] at hbyte

variable (fmt : HexStringFmt)

theorem decode_pair (byte : UInt8) :
    hexDigitToValue (fmt.digit (byte >>> 4)) ≠ 0xff ∧
      hexDigitToValue (fmt.digit (byte &&& 0xf)) ≠ 0xff ∧
      hexDigitToValue (fmt.digit (byte >>> 4)) <<< 4 |||
        hexDigitToValue (fmt.digit (byte &&& 0xf)) = byte := by
  revert byte
  apply forall_byte
  cases fmt <;> decide +kernel

theorem digit_value (c : UInt8) (h : hexDigitToValue c ≠ 0xff) :
    hexDigitToValue c < 16 ∧ toLower (fmt.digit (hexDigitToValue c)) = toLower c := by
  revert c
  apply forall_byte
  cases fmt <;> decide +kernel

theorem nibbles {hi lo : UInt8} (hhi : hi < 16) (hlo : lo < 16) :
    (hi <<< 4 ||| lo) >>> 4 = hi ∧ (hi <<< 4 ||| lo) &&& 0xf = lo := by
  have hall : ∀ n m : Fin 16,
      (UInt8.ofNat n <<< 4 ||| UInt8.ofNat m) >>> 4 = UInt8.ofNat n ∧
        (UInt8.ofNat n <<< 4 ||| UInt8.ofNat m) &&& 0xf = UInt8.ofNat m := by decide +kernel
  have h := hall ⟨hi.toNat, hhi⟩ ⟨lo.toNat, hlo⟩
  rwa [UInt8.ofNat_toNat, UInt8.ofNat_toNat] at h

theorem store_eq_some {pBuffer : List UInt8} {index : ℕ} (h : index < pBuffer.length)
    (value : UInt8) : store pBuffer index value = some (overwrite pBuffer index [value]) :=
  if_pos h

def hexText (fmt : HexStringFmt) (bytes : List UInt8) : List UInt8 := bytes.flatMap (pair fmt)

variable (bytes : List UInt8)

theorem length_hexText : (hexText fmt bytes).length = 2 * bytes.length := by
  induction bytes with
  | nil => rfl
  | cons byte bytes ih =>
    rw [hexText, List.flatMap_cons, List.length_append, ← hexText, ih, List.length_cons]
    show 2 + _ = _
    omega

theorem encodeLoop_eq {strIdx : ℕ} {pStrBuff : List UInt8} (h : strIdx < pStrBuff.length) :
    encodeLoop fmt bytes strIdx pStrBuff =
      some (strIdx + (hexText fmt (bytes.take ((pStrBuff.length - 1 - strIdx) / 2))).length,
        overwrite pStrBuff strIdx
          (hexText fmt (bytes.take ((pStrBuff.length - 1 - strIdx) / 2)))) := by
  induction bytes generalizing strIdx pStrBuff with
  | nil =>
    rw [List.take_nil, encodeLoop]
    show _ = some (strIdx, overwrite pStrBuff strIdx [])
    rw [overwrite_nil]
  | cons byte bytes ih =>
    rw [encodeLoop]
    by_cases hroom : strIdx + 2 < pStrBuff.length
    · have hcount : (pStrBuff.length - 1 - strIdx) / 2 =
          (pStrBuff.length - 1 - (strIdx + 2)) / 2 + 1 := by omega
      have hfirst : (overwrite pStrBuff strIdx [fmt.digit (byte >>> 4)]).length =
          pStrBuff.length := length_overwrite (by rw [List.length_singleton]; omega)
      have hboth : overwrite (overwrite pStrBuff strIdx [fmt.digit (byte >>> 4)]) (strIdx + 1)
          [fmt.digit (byte &&& 0xf)] = overwrite pStrBuff strIdx (pair fmt byte) :=
        overwrite_overwrite (Nat.le_of_lt h) _ _
      have hlength : (overwrite pStrBuff strIdx (pair fmt byte)).length = pStrBuff.length :=
        length_overwrite (Nat.le_of_lt hroom)
      rw [if_pos hroom, store_eq_some h, Option.bind_eq_bind, Option.bind_some,
        store_eq_some (by omega), Option.bind_some, hboth,
        ih (by omega), hlength, hcount, List.take_succ_cons, hexText, hexText, List.flatMap_cons,
        List.length_append, ← overwrite_overwrite (Nat.le_of_lt h)]
      rw [← Nat.add_assoc]
      rfl
    · have hnone : (pStrBuff.length - 1 - strIdx) / 2 = 0 := by omega
      rw [if_neg hroom, hnone, List.take_zero]
      show _ = some (strIdx, overwrite pStrBuff strIdx [])
      rw [overwrite_nil]

theorem encodeToHexString_eq {pBytes pStrBuff : List UInt8} (hbytes : pBytes ≠ [])
    (hbuff : pStrBuff ≠ []) :
    encodeToHexString fmt pBytes pStrBuff =
      some ((hexText fmt (pBytes.take ((pStrBuff.length - 1) / 2))).length + 1,
        overwrite pStrBuff 0 (hexText fmt (pBytes.take ((pStrBuff.length - 1) / 2)) ++ [0])) := by
  have hpos : 0 < pStrBuff.length := List.length_pos_of_ne_nil hbuff
  have hloop := encodeLoop_eq fmt pBytes hpos
  rw [Nat.sub_zero, Nat.zero_add] at hloop
  generalize htext : hexText fmt (pBytes.take ((pStrBuff.length - 1) / 2)) = text at hloop ⊢
  have hfits : text.length + 1 ≤ pStrBuff.length := by
    rw [← htext, length_hexText, List.length_take]
    omega
  have hlength : (overwrite pStrBuff 0 text).length = pStrBuff.length :=
    length_overwrite (by omega)
  rw [encodeToHexString,
    if_pos ⟨Nat.ne_of_gt (List.length_pos_of_ne_nil hbytes), Nat.ne_of_gt hpos⟩, hloop]
  simp only [Option.bind_eq_bind, Option.bind_some]
  rw [store_eq_some (by omega), Option.bind_some]
  have hover := overwrite_overwrite (Nat.zero_le pStrBuff.length) text [0]
  rw [Nat.zero_add] at hover
  rw [hover]

/-! ## Decoding -/

def leadingBytes : List UInt8 → List UInt8
  | c₁ :: c₂ :: text =>
    if hexDigitToValue c₁ ≠ 0xff ∧ hexDigitToValue c₂ ≠ 0xff then
      (hexDigitToValue c₁ <<< 4 ||| hexDigitToValue c₂) :: leadingBytes text
    else []
  | _ => []

theorem leadingBytes_hexText : leadingBytes (hexText fmt bytes) = bytes := by
  induction bytes with
  | nil => rfl
  | cons byte bytes ih =>
    obtain ⟨hhigh, hlow, hbyte⟩ := decode_pair fmt byte
    show leadingBytes (fmt.digit (byte >>> 4) :: fmt.digit (byte &&& 0xf) :: hexText fmt bytes) = _
    rw [leadingBytes, if_pos ⟨hhigh, hlow⟩, hbyte, ih]

/-- What is decoded is written the same way again, up to the case of the digits. -/
theorem hexText_leadingBytes (text : List UInt8) (count : ℕ) :
    (hexText fmt ((leadingBytes text).take count)).map toLower =
      (text.take (2 * ((leadingBytes text).take count).length)).map toLower := by
  fun_induction leadingBytes text generalizing count with
  | case1 c₁ c₂ text hvalid ih =>
    cases count with
    | zero => rfl
    | succ count =>
      obtain ⟨hhi, hhigh⟩ := digit_value fmt c₁ hvalid.1
      obtain ⟨hlo, hlow⟩ := digit_value fmt c₂ hvalid.2
      obtain ⟨hfirst, hsecond⟩ := nibbles hhi hlo
      rw [List.take_succ_cons, List.length_cons, Nat.mul_succ, List.take_succ_cons,
        List.take_succ_cons, hexText, List.flatMap_cons, ← hexText, List.map_append, ih]
      rw [pair, hfirst, hsecond, List.map_cons, List.map_cons, List.map_cons, List.map_cons, hhigh,
        hlow]
      rfl
  | case2 => rw [List.take_nil]; rfl
  | case3 => rw [List.take_nil]; rfl

theorem decodeLoop_eq (text : List UInt8) {byteIdx : ℕ} {pBytes : List UInt8}
    (h : byteIdx ≤ pBytes.length) :
    decodeLoop text byteIdx pBytes =
      some (byteIdx + ((leadingBytes text).take (pBytes.length - byteIdx)).length,
        overwrite pBytes byteIdx ((leadingBytes text).take (pBytes.length - byteIdx))) := by
  have hend : decodeLoop [] byteIdx pBytes = some (byteIdx + 0, overwrite pBytes byteIdx []) := by
    rw [overwrite_nil]
    rfl
  fun_induction leadingBytes text generalizing byteIdx pBytes with
  | case1 c₁ c₂ text hvalid ih =>
    rw [decodeLoop]
    by_cases hroom : byteIdx < pBytes.length
    · have hlength : (overwrite pBytes byteIdx
          [hexDigitToValue c₁ <<< 4 ||| hexDigitToValue c₂]).length = pBytes.length :=
        length_overwrite hroom
      have hcount : pBytes.length - byteIdx = pBytes.length - (byteIdx + 1) + 1 := by omega
      rw [if_pos hroom, if_pos ⟨hvalid.2, hvalid.1⟩, store_eq_some hroom, Option.bind_eq_bind,
        Option.bind_some, ih (by omega) (by rw [overwrite_nil]; rfl), hlength, hcount,
        List.take_succ_cons, List.length_cons]
      have hover := overwrite_overwrite h [hexDigitToValue c₁ <<< 4 ||| hexDigitToValue c₂]
        ((leadingBytes text).take (pBytes.length - (byteIdx + 1)))
      rw [List.length_singleton] at hover
      rw [hover, List.singleton_append, Nat.add_assoc, Nat.add_comm 1]
    · have hfull : pBytes.length - byteIdx = 0 := by omega
      rw [if_neg hroom, hfull, List.take_zero]
      exact hend
  | case2 c₁ c₂ text hinvalid =>
    have hloop : decodeLoop (c₁ :: c₂ :: text) byteIdx pBytes = some (byteIdx, pBytes) := by
      rw [decodeLoop]
      split
      · exact if_neg fun hvalid => hinvalid ⟨hvalid.2, hvalid.1⟩
      · rfl
    rw [hloop, List.take_nil]
    exact hend
  | case3 text hshort =>
    rw [decodeLoop, List.take_nil]
    · exact hend
    · exact hshort

theorem decodeFromHexString_eq (pBytes : List UInt8) {text : List UInt8}
    (h : text.length % 2 = 0) :
    decodeFromHexString text pBytes =
      some (((leadingBytes text).take pBytes.length).length,
        overwrite pBytes 0 ((leadingBytes text).take pBytes.length)) := by
  have hloop := decodeLoop_eq text (Nat.zero_le pBytes.length)
  rw [Nat.sub_zero, Nat.zero_add] at hloop
  unfold decodeFromHexString
  split
  · exact hloop
  · rename_i hempty
    have hnothing : (leadingBytes text).take pBytes.length = [] := by
      by_cases hbytes : pBytes.length = 0
      · rw [hbytes, List.take_zero]
      · have htext : text = [] := by
          by_contra hne
          exact hempty ⟨h, hbytes, Nat.ne_of_gt (List.length_pos_of_ne_nil hne)⟩
        rw [htext]
        exact List.take_nil
    rw [hnothing, overwrite_nil]
    rfl

/-- The encoder writes the pairs that leave room for the terminator, and the decoder the leading
valid pairs that have room. -/
theorem hexStrings_exact (fmt : HexStringFmt) (pBytes pStrBuff pBytesOut text : List UInt8) :
    (pBytes = [] ∨ pStrBuff = [] → encodeToHexString fmt pBytes pStrBuff = some (0, pStrBuff)) ∧
    (pBytes ≠ [] → pStrBuff ≠ [] → ∃ count pStrBuff',
      count ≤ pBytes.length ∧ 2 * count + 1 ≤ pStrBuff.length ∧
      (count < pBytes.length → pStrBuff.length < 2 * (count + 1) + 1) ∧
      encodeToHexString fmt pBytes pStrBuff = some (2 * count + 1, pStrBuff') ∧
      pStrBuff' = hexText fmt (pBytes.take count) ++ 0 :: pStrBuff.drop (2 * count + 1) ∧
      decodeFromHexString (pStrBuff'.take (2 * count)) pBytesOut =
        some (min count pBytesOut.length, overwrite pBytesOut 0
          ((pBytes.take count).take pBytesOut.length))) ∧
    (text.length % 2 = 1 → decodeFromHexString text pBytesOut = some (0, pBytesOut)) ∧
    (text.length % 2 = 0 → ∃ bytes, bytes = (leadingBytes text).take pBytesOut.length ∧
      decodeFromHexString text pBytesOut = some (bytes.length, overwrite pBytesOut 0 bytes) ∧
      (hexText fmt bytes).map toLower = (text.take (2 * bytes.length)).map toLower) := by
  refine ⟨fun h => ?_, fun hbytes hbuff => ?_, fun hodd => ?_, fun heven => ?_⟩
  · apply if_neg
    rintro ⟨hbytes, hbuff⟩
    rcases h with rfl | rfl
    · exact hbytes rfl
    · exact hbuff rfl
  · have hpos : 0 < pStrBuff.length := List.length_pos_of_ne_nil hbuff
    have hcount : pBytes.take ((pStrBuff.length - 1) / 2) =
        pBytes.take (min ((pStrBuff.length - 1) / 2) pBytes.length) := List.take_eq_take_min
    generalize hk : min ((pStrBuff.length - 1) / 2) pBytes.length = count at hcount
    have hle : count ≤ pBytes.length := by omega
    have htake : (pBytes.take count).length = count := List.length_take_of_le hle
    have htext : (hexText fmt (pBytes.take count)).length = 2 * count := by
      rw [length_hexText, htake]
    have hencode := encodeToHexString_eq fmt hbytes hbuff
    rw [hcount, htext] at hencode
    have hbuffer : overwrite pStrBuff 0 (hexText fmt (pBytes.take count) ++ [0]) =
        hexText fmt (pBytes.take count) ++ 0 :: pStrBuff.drop (2 * count + 1) := by
      rw [overwrite, List.take_zero, List.nil_append, Nat.zero_add, List.length_append, htext,
        List.append_assoc]
      rfl
    refine ⟨count, _, hle, by omega, by omega, hencode, hbuffer, ?_⟩
    rw [hbuffer, ← htext, List.take_left, decodeFromHexString_eq _ (by rw [htext]; omega),
      leadingBytes_hexText, List.length_take, htake, Nat.min_comm]
  · exact if_neg fun h => absurd h.1 (by omega)
  · exact ⟨_, rfl, decodeFromHexString_eq pBytesOut heven, hexText_leadingBytes fmt text _⟩

end HexStrings

end DevDriver.Analysis
