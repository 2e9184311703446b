import DevDriver.Model.TransferClient

/-!
# Transfer messages read back

What a container sends is its payload, with the rest of the array behind it on a session of an
older version, and a container that receives such a message reads the fields of the payload,
whatever it held before.
-/

namespace DevDriver.Analysis

open Library Model SizedPayloadContainer

section Fields

variable (c : SizedPayloadContainer)

theorem command_fill (kind : TransferMessage) (rest : List UInt8) :
    (c.fill (leBytes 4 kind.toCode ++ rest)).command = kind := by
  have hfield : payloadField (c.fill (leBytes 4 kind.toCode ++ rest)).payload 0 4 =
      leNat (leBytes 4 kind.toCode) := by
    have h := payloadField_writeBytes [] (leBytes 4 kind.toCode) rest c.payload rfl
      (by rw [length_leBytes]; decide)
    rw [length_leBytes] at h
    exact h
  unfold command
  rw [hfield, leNat_leBytes_of_lt]
  · exact TransferMessage.ofCode_toCode kind
  · cases kind <;> decide

variable (command : ℕ)

theorem secondField_fill (field rest : List UInt8) (hfield : field.length = 4) :
    payloadField (c.fill (leBytes 4 command ++ (field ++ rest))).payload 4 4 = leNat field := by
  have h := payloadField_writeBytes (leBytes 4 command) field rest c.payload rfl
    (by rw [length_leBytes, hfield]; decide)
  rw [length_leBytes, hfield] at h
  exact h

theorem thirdField_fill (second field rest : List UInt8) (hsecond : second.length = 4)
    (hfield : field.length = 4) :
    payloadField (c.fill (leBytes 4 command ++ (second ++ (field ++ rest)))).payload 8 4 =
      leNat field := by
  have h := payloadField_writeBytes (leBytes 4 command ++ second) field rest c.payload
    (List.append_assoc _ _ _).symm
    (by rw [List.length_append, length_leBytes, hsecond, hfield]; decide)
  rw [List.length_append, length_leBytes, hsecond, hfield] at h
  exact h

theorem fourthField_fill (second third field rest : List UInt8) (hsecond : second.length = 4)
    (hthird : third.length = 4) (hfield : field.length = 4) :
    payloadField (c.fill (leBytes 4 command ++ (second ++ (third ++ (field ++ rest))))).payload
      12 4 = leNat field := by
  have hdata : leBytes 4 command ++ (second ++ (third ++ (field ++ rest))) =
      (leBytes 4 command ++ (second ++ third)) ++ (field ++ rest) := by
    simp only [List.append_assoc]
  have h := payloadField_writeBytes _ field rest c.payload hdata
    (by simp only [List.length_append, length_leBytes, hsecond, hthird, hfield]; decide)
  simp only [List.length_append, length_leBytes, hsecond, hthird, hfield] at h
  exact h

end Fields

/-- `m` is what a session of the version `v` is handed for a container with the payload `data`:
the payload alone, or the whole array with the payload at its front. -/
structure IsSent (v : Version) (data m : List UInt8) : Prop where
  payload : ∃ rest, m = data ++ rest
  size : m.length = if transferRefactorVersion ≤ v then data.length else kMaxPayloadSizeInBytes

variable {data : List UInt8}

theorem IsSent.length_le {v : Version} {m : List UInt8} (h : IsSent v data m)
    (hdata : data.length ≤ kMaxPayloadSizeInBytes) : m.length ≤ kMaxPayloadSizeInBytes := by
  rw [h.size]
  split
  · exact hdata
  · exact le_refl _

theorem length_readBytes (count : ℕ) (p : Payload) :
    (readBytes count p).length = min count kMaxPayloadSizeInBytes := List.length_ofFn

theorem getElem_readBytes {count i : ℕ} {p : Payload} (h : i < (readBytes count p).length)
    (hi : i < kMaxPayloadSizeInBytes) : (readBytes count p)[i] = p ⟨i, hi⟩ :=
  List.getElem_ofFn h

theorem readBytes_fill (hdata : data.length ≤ kMaxPayloadSizeInBytes) (c : SizedPayloadContainer) :
    ∃ rest,
      readBytes kMaxPayloadSizeInBytes (c.fill data).payload = data ++ rest := by
  refine ⟨(readBytes kMaxPayloadSizeInBytes (c.fill data).payload).drop data.length, ?_⟩
  conv_lhs => rw [← List.take_append_drop data.length
    (readBytes kMaxPayloadSizeInBytes (c.fill data).payload)]
  congr 1
  apply List.ext_getElem
  · rw [List.length_take, length_readBytes, Nat.min_self, Nat.min_eq_left hdata]
  · intro i h₁ h₂
    rw [List.getElem_take, getElem_readBytes _ (h₂.trans_le hdata)]
    exact dif_pos h₂

theorem isSent_sentBytes (hdata : data.length ≤ kMaxPayloadSizeInBytes) (v : Version)
    (c : SizedPayloadContainer) : IsSent v data ((c.fill data).sentBytes v) := by
  unfold sentBytes
  by_cases hv : transferRefactorVersion ≤ v
  · rw [if_pos hv]
    have hread : readBytes (c.fill data).payloadSize (c.fill data).payload = data :=
      readBytes_writeBytes hdata c.payload
    refine ⟨⟨[], ?_⟩, ?_⟩
    · rw [hread, List.append_nil]
    · rw [hread, if_pos hv]
  · rw [if_neg hv]
    refine ⟨readBytes_fill hdata c, ?_⟩
    rw [if_neg hv, length_readBytes, Nat.min_self]

/-! ## Messages that are received -/

section Received

variable {v : Version} {m : List UInt8}

theorem IsSent.command {kind : TransferMessage} {rest : List UInt8}
    (h : IsSent v (leBytes 4 kind.toCode ++ rest) m) (c : SizedPayloadContainer) :
    (c.fill m).command = kind := by
  obtain ⟨padding, rfl⟩ := h.payload
  rw [List.append_assoc]
  exact command_fill c kind _

variable {r : Result}

theorem IsSent.status_command (h : IsSent v (transferStatus r) m) (c : SizedPayloadContainer) :
    (c.fill m).command = .transferStatus := h.command c

theorem IsSent.chunk_command {data : List UInt8} (h : IsSent v (transferDataChunk data) m)
    (c : SizedPayloadContainer) : (c.fill m).command = .transferDataChunk := h.command c

theorem IsSent.chunk_data {data : List UInt8} (h : IsSent v (transferDataChunk data) m)
    (hm : m.length ≤ kMaxPayloadSizeInBytes) (c : SizedPayloadContainer) :
    ∃ rest, (c.fill m).chunkData = data ++ rest := by
  obtain ⟨rest, hread⟩ := readBytes_fill hm c
  obtain ⟨padding, rfl⟩ := h.payload
  refine ⟨padding ++ rest, ?_⟩
  unfold chunkData
  rw [hread, transferDataChunk]
  simp only [List.append_assoc]
  rw [List.drop_left' (length_leBytes 4 _)]

variable {size : ℕ} {crc : UInt32}

theorem IsSent.sentinel_command (h : IsSent v (transferDataSentinel r crc) m)
    (c : SizedPayloadContainer) : (c.fill m).command = .transferDataSentinel := by
  unfold transferDataSentinel at h
  rw [List.append_assoc] at h
  exact h.command c

def Result.Coded (r : Result) : Prop := Result.ofCode r.toCode = r ∧ r.toCode < 2 ^ 32

theorem leNat_result (hr : Result.Coded r) : Result.ofCode (leNat (leBytes 4 r.toCode)) = r := by
  rw [leNat_leBytes_of_lt (lt_of_lt_of_eq hr.2 (by decide))]
  exact hr.1

theorem IsSent.status_result (h : IsSent v (transferStatus r) m) (hr : Result.Coded r)
    (c : SizedPayloadContainer) : (c.fill m).result = r := by
  obtain ⟨padding, rfl⟩ := h.payload
  unfold result transferStatus
  rw [List.append_assoc, secondField_fill _ _ _ _ (length_leBytes 4 _)]
  exact leNat_result hr

theorem IsSent.sentinel_result (h : IsSent v (transferDataSentinel r crc) m) (hr : Result.Coded r)
    (c : SizedPayloadContainer) : (c.fill m).result = r := by
  obtain ⟨padding, rfl⟩ := h.payload
  unfold result transferDataSentinel
  simp only [List.append_assoc]
  rw [secondField_fill _ _ _ _ (length_leBytes 4 _)]
  exact leNat_result hr

theorem ofNat_leNat (crc : UInt32) : UInt32.ofNat (leNat (leBytes 4 crc.toNat)) = crc := by
  rw [leNat_leBytes_of_lt (lt_of_lt_of_eq crc.toNat_lt (by decide))]
  exact UInt32.ofNat_toNat

theorem IsSent.sentinel_crc (h : IsSent v (transferDataSentinel r crc) m)
    (c : SizedPayloadContainer) : (c.fill m).sentinelCrc32 = crc := by
  obtain ⟨padding, rfl⟩ := h.payload
  unfold sentinelCrc32 transferDataSentinel
  simp only [List.append_assoc]
  rw [thirdField_fill _ _ _ _ _ (length_leBytes 4 _) (length_leBytes 4 _)]
  exact ofNat_leNat crc

theorem IsSent.header_command (h : IsSent v (transferDataHeader r size) m)
    (c : SizedPayloadContainer) : (c.fill m).command = .transferDataHeader := by
  unfold transferDataHeader at h
  rw [List.append_assoc] at h
  exact h.command c

theorem IsSent.header_result (h : IsSent v (transferDataHeader r size) m) (hr : Result.Coded r)
    (c : SizedPayloadContainer) : (c.fill m).result = r := by
  obtain ⟨padding, rfl⟩ := h.payload
  unfold result transferDataHeader
  simp only [List.append_assoc]
  rw [secondField_fill _ _ _ _ (length_leBytes 4 _)]
  exact leNat_result hr

theorem IsSent.header_size (h : IsSent v (transferDataHeader r size) m)
    (c : SizedPayloadContainer) :
    (c.fill m).headerSizeInBytes = size % 2 ^ 32 := by
  obtain ⟨padding, rfl⟩ := h.payload
  unfold headerSizeInBytes transferDataHeader
  simp only [List.append_assoc]
  rw [thirdField_fill _ _ _ _ _ (length_leBytes 4 _) (length_leBytes 4 _), leNat_leBytes]
  rfl

theorem IsSent.headerV2_command (h : IsSent v (transferDataHeaderV2 size) m)
    (c : SizedPayloadContainer) : (c.fill m).command = .transferDataHeader := h.command c

theorem IsSent.headerV2_size (h : IsSent v (transferDataHeaderV2 size) m)
    (c : SizedPayloadContainer) : (c.fill m).headerV2SizeInBytes = size % 2 ^ 32 := by
  obtain ⟨padding, rfl⟩ := h.payload
  unfold headerV2SizeInBytes transferDataHeaderV2
  rw [List.append_assoc, secondField_fill _ _ _ _ (length_leBytes 4 _), leNat_leBytes]
  rfl

variable {blockId : BlockId} {type : TransferType} {sizeInBytes : ℕ}

section

variable (h : IsSent v (transferRequest blockId type sizeInBytes) m)

include h

theorem IsSent.request_command
    (c : SizedPayloadContainer) : (c.fill m).command = .transferRequest := by
  unfold transferRequest at h
  simp only [List.append_assoc] at h
  exact h.command c

theorem IsSent.request_blockId
    (c : SizedPayloadContainer) : (c.fill m).requestBlockId = blockId := by
  obtain ⟨padding, rfl⟩ := h.payload
  unfold requestBlockId transferRequest
  simp only [List.append_assoc]
  rw [secondField_fill _ _ _ _ (length_leBytes 4 _)]
  exact ofNat_leNat blockId

theorem IsSent.request_type (htype : type = .pull ∨ type = .push) (c : SizedPayloadContainer) :
    (c.fill m).requestType = type := by
  obtain ⟨padding, rfl⟩ := h.payload
  unfold requestType transferRequest
  simp only [List.append_assoc]
  rw [thirdField_fill _ _ _ _ _ (length_leBytes 4 _) (length_leBytes 4 _)]
  rcases htype with rfl | rfl <;> rfl

theorem IsSent.request_size
    (c : SizedPayloadContainer) : (c.fill m).requestSizeInBytes = sizeInBytes % 2 ^ 32 := by
  obtain ⟨padding, rfl⟩ := h.payload
  unfold requestSizeInBytes transferRequest
  simp only [List.append_assoc]
  rw [fourthField_fill _ _ _ _ _ _ (length_leBytes 4 _) (length_leBytes 4 _)
    (length_leBytes 4 _), leNat_leBytes]
  rfl

end

end Received

end DevDriver.Analysis
