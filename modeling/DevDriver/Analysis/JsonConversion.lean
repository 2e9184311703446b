import DevDriver.Analysis.JsonEncoding

/-!
# Converting a document

The bytes of a document are parsed back to the document, unless a string has the one length to which
the null byte cannot be added in 32 bits.
-/

namespace DevDriver.Analysis

open Library Library.MessagePack
open Model

def numberTree : JsonNumber → Item
  | .int value => .int value.toInt
  | .uint value => .int value.toNat
  | .int64 value => .int value.toInt
  | .uint64 value => .int value.toNat
  | .double bits => .double bits.toNat

section Tree

variable (text : List UInt8 → List UInt8)

mutual

def treeWith : Json → Item
  | .null => .nil
  | .bool value => .bool value
  | .number value => numberTree value
  | .string bytes => .str (text bytes)
  | .array elements => .array (elementTrees elements)
  | .object members => .map (memberTrees members)

def elementTrees : List Json → List Item
  | [] => []
  | d :: ds => treeWith d :: elementTrees ds

def memberTrees : List (List UInt8 × Json) → List (Item × Item)
  | [] => []
  | (key, d) :: ds => (.str key, treeWith d) :: memberTrees ds

end

end Tree

def tree (d : Json) : Item := treeWith id d

def stored (bytes : List UInt8) : List UInt8 := bytes ++ [0]

theorem getStringCopy_stored (bytes : List UInt8) : getStringCopy (stored bytes) = bytes := by
  rw [getStringCopy, stored, if_pos (by simp), List.dropLast_concat]

mutual

theorem structuredValue_treeWith : ∀ d, structuredValue (treeWith stored d) = tree d
  | .null | .bool _ => rfl
  | .number value => by cases value <;> rfl
  | .string bytes => by
    rw [treeWith, structuredValue, getStringCopy_stored]
    rfl
  | .array elements => by
    rw [treeWith, structuredValue, structuredElements_elementTrees elements]
    rfl
  | .object members => by
    rw [treeWith, structuredValue, structuredMembers_memberTrees members]
    rfl

theorem structuredElements_elementTrees :
    ∀ ds, structuredElements (elementTrees stored ds) = elementTrees id ds
  | [] => rfl
  | d :: ds => by
    rw [elementTrees, structuredElements, structuredValue_treeWith d,
      structuredElements_elementTrees ds, elementTrees, tree]

theorem structuredMembers_memberTrees :
    ∀ ds, structuredMembers (memberTrees stored ds) = memberTrees id ds
  | [] => rfl
  | (key, d) :: ds => by
    rw [memberTrees, structuredMembers, structuredValue_treeWith d,
      structuredMembers_memberTrees ds, memberTrees, tree]

end

theorem kUint16Max_eq : kUint16Max = 65535 := rfl

theorem kUint32Max_eq : kUint32Max = 4294967295 := rfl

variable {parser : JsonParser} {bytes text : List UInt8} {n : ℕ}

theorem readHead_encodeU64 (h : n < 2 ^ 64) (rest : List UInt8) :
    readHead (MpackWriter.encodeU64 n ++ rest) = some (.int n, rest) := by
  have h16 := kUint16Max_eq
  have h32 := kUint32Max_eq
  rw [MpackWriter.encodeU64]
  split
  · exact readHead_fixuint (by omega) rest
  · split
    · exact numbered_beBytes (w := 1) (fun n => .int n) (by omega) rest
    · split
      · exact numbered_beBytes (w := 2) (fun n => .int n) (by omega) rest
      · split
        · exact numbered_beBytes (w := 4) (fun n => .int n) (by omega) rest
        · exact numbered_beBytes (w := 8) (fun n => .int n) (by omega) rest

theorem numbered_toNat {w : ℕ} {i : ℤ} (hlow : 0 ≤ i) (hhigh : i < (256 ^ w : ℕ))
    (rest : List UInt8) :
    numbered w (fun n => .int n) (beBytes w i.toNat ++ rest) = some (.int i, rest) := by
  rw [numbered_beBytes _ (by omega), Int.toNat_of_nonneg hlow]

theorem readHead_encodeI64 {i : ℤ} (hlow : -2 ^ 63 ≤ i) (hhigh : i < 2 ^ 63)
    (rest : List UInt8) : readHead (MpackWriter.encodeI64 i ++ rest) = some (.int i, rest) := by
  have h16 := kUint16Max_eq
  have h32 := kUint32Max_eq
  rw [MpackWriter.encodeI64]
  split
  · split
    · by_cases hneg : i < 0
      · exact readHead_fixint (by omega) hneg rest
      · have hbyte : twosComplement 1 i = i.toNat := by rw [twosComplement, if_neg hneg]
        have hread := readHead_fixuint (n := i.toNat) (by omega) rest
        rw [Int.toNat_of_nonneg (by omega)] at hread
        rw [hbyte]
        exact hread
    · split
      · exact numbered_toNat (w := 1) (by omega) (by omega) rest
      · split
        · exact numbered_toNat (w := 2) (by omega) (by omega) rest
        · split
          · exact numbered_toNat (w := 4) (by omega) (by omega) rest
          · exact numbered_toNat (w := 8) (by omega) (by omega) rest
  · split
    · exact numbered_twosComplement (w := 1) (by omega) (by omega) rest
    · split
      · exact numbered_twosComplement (w := 2) (by omega) (by omega) rest
      · split
        · exact numbered_twosComplement (w := 4) (by omega) (by omega) rest
        · exact numbered_twosComplement (w := 8) (by omega) (by omega) rest

theorem readHead_encodeStr (h : n < 2 ^ 32) (rest : List UInt8) :
    readHead (MpackWriter.encodeStr n ++ rest) = some (.str n, rest) := by
  have h16 := kUint16Max_eq
  rw [MpackWriter.encodeStr]
  split
  · exact readHead_fixstr (by omega) rest
  · split
    · exact numbered_beBytes (w := 1) .str (by omega) rest
    · split
      · exact numbered_beBytes (w := 2) .str (by omega) rest
      · exact numbered_beBytes (w := 4) .str (by omega) rest

theorem readHead_encodeDouble (bits : UInt64) (rest : List UInt8) :
    readHead (MpackWriter.encodeDouble bits ++ rest) = some (.double bits.toNat, rest) :=
  numbered_beBytes (w := 8) .double bits.toNat_lt rest

theorem readItem_numberBytes (depth : ℕ) (value : JsonNumber) (rest : List UInt8) :
    readItem (depth + 1) (numberBytes value ++ rest) = some (numberTree value, rest) := by
  cases value with
  | int value =>
    have hlow := value.le_toInt
    have hhigh := value.toInt_lt
    exact readItem_of_readHead (readHead_encodeI64 (by omega) (by omega) rest)
  | uint value =>
    have hhigh := value.toNat_lt
    exact readItem_of_readHead (readHead_encodeU64 (by omega) rest)
  | int64 value =>
    exact readItem_of_readHead (readHead_encodeI64 value.le_toInt value.toInt_lt rest)
  | uint64 value => exact readItem_of_readHead (readHead_encodeU64 value.toNat_lt rest)
  | double bits => exact readItem_of_readHead (readHead_encodeDouble bits rest)

/-! ## Reading the bytes back -/

mutual

def nesting : Json → ℕ
  | .array elements => elementNesting elements + 1
  | .object members => memberNesting members + 1
  | _ => 1

def elementNesting : List Json → ℕ
  | [] => 1
  | d :: ds => max (nesting d) (elementNesting ds)

def memberNesting : List (List UInt8 × Json) → ℕ
  | [] => 1
  | (_, d) :: ds => max (nesting d) (memberNesting ds)

end

def TerminatedValue : Json → Prop
  | .string bytes => bytes.length ≠ kUint32Max
  | _ => True

abbrev Terminated (d : Json) : Prop := Every (fun _ => True) TerminatedValue d

theorem readItem_stringBytes (h : bytes.length < kUint32Max) (depth : ℕ) (rest : List UInt8) :
    readItem (depth + 1) (stringBytes bytes ++ rest) = some (.str (stored bytes), rest) := by
  have h32 := kUint32Max_eq
  have hcount : (bytes.length + 1) % 2 ^ 32 = (stored bytes).length := by
    rw [stored, List.length_append, List.length_singleton, Nat.mod_eq_of_lt (by omega)]
  have hsmall : (stored bytes).length < 2 ^ 32 := hcount ▸ Nat.mod_lt _ (by norm_num)
  rw [stringBytes, hcount, List.append_assoc, List.append_assoc, ← List.append_assoc bytes,
    ← stored, readItem_of_readHead (readHead_encodeStr hsmall _), readBody_str]

theorem readItem_stringBytes_of_longest (h : bytes.length = kUint32Max) (depth : ℕ)
    (rest : List UInt8) :
    ∃ more, readItem (depth + 1) (stringBytes bytes ++ rest) = some (.str [], more) := by
  have hcount : (bytes.length + 1) % 2 ^ 32 = 0 := by norm_num [h]
  refine ⟨bytes ++ [0] ++ rest, ?_⟩
  rw [stringBytes, hcount, List.append_assoc, List.append_assoc,
    readItem_of_readHead (readHead_encodeStr (by norm_num) _), ← List.append_assoc]
  exact readBody_str _ [] _

theorem readItem_keyBytes {key : List UInt8} (h : AcceptedKey key) (depth : ℕ)
    (rest : List UInt8) : readItem (depth + 1) (keyBytes key ++ rest) = some (.str key, rest) := by
  have h32 := kUint32Max_eq
  rw [AcceptedKey] at h
  rw [keyBytes, List.append_assoc, readItem_of_readHead (readHead_encodeStr (by omega) _),
    readBody_str]

theorem readItem_array (hn : n < kUint32Max) (depth : ℕ) (content : List UInt8) :
    readItem (depth + 1) (0xdd :: (beBytes 4 n ++ content)) =
      (readTimes (readItem depth) n content).map fun (items, rest) => (.array items, rest) := by
  have h32 := kUint32Max_eq
  have hhead : readHead (0xdd :: (beBytes 4 n ++ content)) = some (.array n, content) :=
    numbered_beBytes (w := 4) .array (by omega) content
  exact readItem_of_readHead hhead

theorem readItem_map (hn : n < kUint16Max) (depth : ℕ) (content : List UInt8) :
    readItem (depth + 1) (0xde :: (beBytes 2 n ++ content)) =
      (readTimes (readPair (readItem depth)) n content).map
        fun (items, rest) => (.map items, rest) := by
  have h16 := kUint16Max_eq
  have hhead : readHead (0xde :: (beBytes 2 n ++ content)) = some (.map n, content) :=
    numbered_beBytes (w := 2) .map (by omega) content
  exact readItem_of_readHead hhead

mutual

theorem readItem_jsonBytes : ∀ (d : Json) {depth : ℕ} (rest : List UInt8), DocumentAccepted d →
    Terminated d → nesting d ≤ depth →
    readItem depth (jsonBytes d ++ rest) = some (treeWith stored d, rest)
  | .null, depth + 1, rest, _, _, _ => rfl
  | .bool false, depth + 1, rest, _, _, _ => rfl
  | .bool true, depth + 1, rest, _, _, _ => rfl
  | .number value, depth + 1, rest, _, _, _ => readItem_numberBytes depth value rest
  | .string bytes, depth + 1, rest, haccepted, hterminated, _ =>
    readItem_stringBytes (lt_of_le_of_ne haccepted hterminated) depth rest
  | .array elements, depth + 1, rest, haccepted, hterminated, hdepth => by
    have hinside := readTimes_elementBytes elements rest haccepted.1 hterminated.1
      (Nat.le_of_succ_le_succ hdepth)
    rw [jsonBytes, List.cons_append, List.append_assoc, readItem_array haccepted.2, hinside]
    rfl
  | .object members, depth + 1, rest, haccepted, hterminated, hdepth => by
    have hinside := readTimes_memberBytes members rest haccepted.1 hterminated.1
      (Nat.le_of_succ_le_succ hdepth)
    rw [jsonBytes, List.cons_append, List.append_assoc, readItem_map haccepted.2, hinside]
    rfl

theorem readTimes_elementBytes : ∀ (ds : List Json) {depth : ℕ} (rest : List UInt8),
    EveryElement AcceptedKey AcceptedValue ds → EveryElement (fun _ => True) TerminatedValue ds →
    elementNesting ds ≤ depth →
    readTimes (readItem depth) ds.length (elementBytes ds ++ rest) =
      some (elementTrees stored ds, rest)
  | [], _, _, _, _, _ => rfl
  | d :: ds, _, rest, haccepted, hterminated, hdepth => by
    have hboth := max_le_iff.mp hdepth
    have hfirst := readItem_jsonBytes d (elementBytes ds ++ rest) haccepted.1 hterminated.1 hboth.1
    have hnext := readTimes_elementBytes ds rest haccepted.2 hterminated.2 hboth.2
    simp [elementBytes, readTimes, elementTrees, hfirst, hnext]

theorem readTimes_memberBytes : ∀ (ds : List (List UInt8 × Json)) {depth : ℕ} (rest : List UInt8),
    EveryMember AcceptedKey AcceptedValue ds → EveryMember (fun _ => True) TerminatedValue ds →
    memberNesting ds ≤ depth →
    readTimes (readPair (readItem depth)) ds.length (memberBytes ds ++ rest) =
      some (memberTrees stored ds, rest)
  | [], _, _, _, _, _ => rfl
  | (key, d) :: ds, depth, rest, haccepted, hterminated, hdepth => by
    have hboth := max_le_iff.mp hdepth
    have hfirst := readItem_jsonBytes d (memberBytes ds ++ rest) haccepted.2.1 hterminated.2.1
      hboth.1
    have hnext := readTimes_memberBytes ds rest haccepted.2.2 hterminated.2.2 hboth.2
    have hkey : readItem depth (keyBytes key ++ (jsonBytes d ++ (memberBytes ds ++ rest))) =
        some (.str key, jsonBytes d ++ (memberBytes ds ++ rest)) := by
      cases depth with
      | zero => exact absurd hboth.1 (by cases d <;> simp [nesting])
      | succ depth => exact readItem_keyBytes haccepted.1 depth _
    simp [memberBytes, readTimes, readPair, memberTrees, hkey, hfirst, hnext]

end

mutual

theorem readItem_ne_of_not_terminated : ∀ (d : Json) {depth : ℕ} {rest more : List UInt8}
    {item : Item}, DocumentAccepted d → ¬ Terminated d → nesting d ≤ depth →
    readItem depth (jsonBytes d ++ rest) = some (item, more) → structuredValue item ≠ tree d
  | .null, _, _, _, _, _, hnot, _, _ => absurd trivial hnot
  | .bool _, _, _, _, _, _, hnot, _, _ => absurd trivial hnot
  | .number _, _, _, _, _, _, hnot, _, _ => absurd trivial hnot
  | .string bytes, depth + 1, rest, more, item, _, hnot, _, hread => by
    have hlength : bytes.length = kUint32Max := not_not.mp hnot
    obtain ⟨more', hempty⟩ := readItem_stringBytes_of_longest hlength depth rest
    rw [jsonBytes, hempty] at hread
    obtain ⟨rfl, -⟩ := Prod.mk.inj (Option.some.inj hread)
    intro heq
    have hbytes : ([] : List UInt8) = bytes := Item.str.inj heq
    rw [← hbytes] at hlength
    exact absurd hlength (by simp)
  | .array elements, depth + 1, rest, more, item, haccepted, hnot, hdepth, hread => by
    rw [jsonBytes, List.cons_append, List.append_assoc, readItem_array haccepted.2] at hread
    obtain ⟨⟨items, more'⟩, hitems, heq⟩ := Option.map_eq_some_iff.mp hread
    obtain ⟨rfl, -⟩ := Prod.mk.inj heq
    have hinside : ¬ EveryElement (fun _ => True) TerminatedValue elements :=
      fun hall => hnot ⟨hall, trivial⟩
    exact fun htree => readTimes_elements_ne elements haccepted.1 hinside
      (Nat.le_of_succ_le_succ hdepth) hitems (Item.array.inj htree)
  | .object members, depth + 1, rest, more, item, haccepted, hnot, hdepth, hread => by
    rw [jsonBytes, List.cons_append, List.append_assoc, readItem_map haccepted.2] at hread
    obtain ⟨⟨items, more'⟩, hitems, heq⟩ := Option.map_eq_some_iff.mp hread
    obtain ⟨rfl, -⟩ := Prod.mk.inj heq
    have hinside : ¬ EveryMember (fun _ => True) TerminatedValue members :=
      fun hall => hnot ⟨hall, trivial⟩
    exact fun htree => readTimes_members_ne members haccepted.1 hinside
      (Nat.le_of_succ_le_succ hdepth) hitems (Item.map.inj htree)

theorem readTimes_elements_ne : ∀ (ds : List Json) {depth : ℕ} {rest more : List UInt8}
    {items : List Item}, EveryElement AcceptedKey AcceptedValue ds →
    ¬ EveryElement (fun _ => True) TerminatedValue ds → elementNesting ds ≤ depth →
    readTimes (readItem depth) ds.length (elementBytes ds ++ rest) = some (items, more) →
    structuredElements items ≠ elementTrees id ds
  | [], _, _, _, _, _, hnot, _, _ => absurd trivial hnot
  | d :: ds, depth, rest, more, items, haccepted, hnot, hdepth, hread => by
    have hboth := max_le_iff.mp hdepth
    rw [elementBytes, List.append_assoc, List.length_cons, readTimes] at hread
    obtain ⟨⟨item, more₁⟩, hitem, hread⟩ := Option.bind_eq_some_iff.mp hread
    obtain ⟨⟨items', more₂⟩, hitems, hread⟩ := Option.bind_eq_some_iff.mp hread
    obtain ⟨rfl, -⟩ := Prod.mk.inj (Option.some.inj hread)
    intro heq
    obtain ⟨hhead, htail⟩ := List.cons.inj heq
    by_cases hterminated : Terminated d
    · rw [readItem_jsonBytes d _ haccepted.1 hterminated hboth.1] at hitem
      obtain ⟨-, rfl⟩ := Prod.mk.inj (Option.some.inj hitem)
      exact readTimes_elements_ne ds haccepted.2 (fun hall => hnot ⟨hterminated, hall⟩) hboth.2
        hitems htail
    · exact readItem_ne_of_not_terminated d haccepted.1 hterminated hboth.1 hitem hhead

theorem readTimes_members_ne : ∀ (ds : List (List UInt8 × Json)) {depth : ℕ}
    {rest more : List UInt8} {items : List (Item × Item)},
    EveryMember AcceptedKey AcceptedValue ds →
    ¬ EveryMember (fun _ => True) TerminatedValue ds → memberNesting ds ≤ depth →
    readTimes (readPair (readItem depth)) ds.length (memberBytes ds ++ rest) =
      some (items, more) → structuredMembers items ≠ memberTrees id ds
  | [], _, _, _, _, _, hnot, _, _ => absurd trivial hnot
  | (key, d) :: ds, 0, rest, more, items, _, _, hdepth, _ =>
    absurd (max_le_iff.mp hdepth).1 (by cases d <;> simp [nesting])
  | (key, d) :: ds, depth + 1, rest, more, items, haccepted, hnot, hdepth, hread => by
    have hboth := max_le_iff.mp hdepth
    rw [memberBytes, List.append_assoc, List.append_assoc, List.length_cons, readTimes,
      readPair, readItem_keyBytes haccepted.1] at hread
    obtain ⟨⟨item, more₁⟩, hitem, hread⟩ := Option.bind_eq_some_iff.mp hread
    obtain ⟨⟨key', more₂⟩, hkey, hitem⟩ := Option.bind_eq_some_iff.mp hitem
    obtain ⟨-, rfl⟩ := Prod.mk.inj (Option.some.inj hkey)
    obtain ⟨⟨value, more₃⟩, hvalue, hitem⟩ := Option.bind_eq_some_iff.mp hitem
    cases hitem
    obtain ⟨⟨items', more₄⟩, hitems, hread⟩ := Option.bind_eq_some_iff.mp hread
    obtain ⟨rfl, -⟩ := Prod.mk.inj (Option.some.inj hread)
    intro heq
    obtain ⟨hhead, htail⟩ := List.cons.inj heq
    have hvalues := (Prod.mk.inj hhead).2
    by_cases hterminated : Terminated d
    · rw [readItem_jsonBytes d _ haccepted.2.1 hterminated hboth.1] at hvalue
      obtain ⟨-, rfl⟩ := Prod.mk.inj (Option.some.inj hvalue)
      exact readTimes_members_ne ds haccepted.2.2
        (fun hall => hnot ⟨trivial, hterminated, hall⟩) hboth.2 hitems htail
    · exact readItem_ne_of_not_terminated d haccepted.2.1 hterminated hboth.1 hvalue hvalues

end

/-! ## Sizes -/

mutual

def encodedSize : Json → ℕ
  | .null | .bool _ => 1
  | .number value => (numberBytes value).length
  | .string bytes => (keyBytes (stored bytes)).length
  | .array elements => 5 + elementsSize elements
  | .object members => 3 + membersSize members

def elementsSize : List Json → ℕ
  | [] => 0
  | d :: ds => encodedSize d + elementsSize ds

def membersSize : List (List UInt8 × Json) → ℕ
  | [] => 0
  | (key, d) :: ds => (keyBytes key).length + (encodedSize d + membersSize ds)

end

theorem length_stringBytes (h : bytes.length < kUint32Max) :
    (stringBytes bytes).length = (keyBytes (stored bytes)).length := by
  have h32 := kUint32Max_eq
  have hcount : (bytes.length + 1) % 2 ^ 32 = (stored bytes).length := by
    rw [stored, List.length_append, List.length_singleton, Nat.mod_eq_of_lt (by omega)]
  rw [stringBytes, hcount, keyBytes, List.append_assoc, ← stored]

mutual

theorem length_jsonBytes :
    ∀ d, DocumentAccepted d → Terminated d → (jsonBytes d).length = encodedSize d
  | .null, _, _ | .bool _, _, _ | .number _, _, _ => rfl
  | .string bytes, haccepted, hterminated =>
    length_stringBytes (lt_of_le_of_ne haccepted hterminated)
  | .array elements, haccepted, hterminated => by
    have hinside := length_elementBytes elements haccepted.1 hterminated.1
    rw [jsonBytes, List.length_cons, List.length_append, length_beBytes, hinside, encodedSize]
    omega
  | .object members, haccepted, hterminated => by
    have hinside := length_memberBytes members haccepted.1 hterminated.1
    rw [jsonBytes, List.length_cons, List.length_append, length_beBytes, hinside, encodedSize]
    omega

theorem length_elementBytes : ∀ ds, EveryElement AcceptedKey AcceptedValue ds →
    EveryElement (fun _ => True) TerminatedValue ds → (elementBytes ds).length = elementsSize ds
  | [], _, _ => rfl
  | d :: ds, haccepted, hterminated => by
    rw [elementBytes, List.length_append, length_jsonBytes d haccepted.1 hterminated.1,
      length_elementBytes ds haccepted.2 hterminated.2, elementsSize]

theorem length_memberBytes : ∀ ds, EveryMember AcceptedKey AcceptedValue ds →
    EveryMember (fun _ => True) TerminatedValue ds → (memberBytes ds).length = membersSize ds
  | [], _, _ => rfl
  | (key, d) :: ds, haccepted, hterminated => by
    rw [memberBytes, List.length_append, List.length_append,
      length_jsonBytes d haccepted.2.1 hterminated.2.1,
      length_memberBytes ds haccepted.2.2 hterminated.2.2, membersSize]

end

theorem length_encodeStr_pos (n : ℕ) : 0 < (MpackWriter.encodeStr n).length := by
  rw [MpackWriter.encodeStr]
  split_ifs <;> simp

theorem length_numberBytes_pos (value : JsonNumber) : 0 < (numberBytes value).length := by
  cases value with
  | int value | int64 value =>
    rw [numberBytes, MpackWriter.encodeI64]
    split_ifs <;> simp
  | uint value | uint64 value =>
    rw [numberBytes, MpackWriter.encodeU64]
    split_ifs <;> simp
  | double bits => exact Nat.succ_pos _

mutual

theorem nesting_le_length : ∀ d, nesting d ≤ (jsonBytes d).length
  | .null | .bool _ => le_rfl
  | .number value => length_numberBytes_pos value
  | .string bytes => by
    have hhead := length_encodeStr_pos ((bytes.length + 1) % 2 ^ 32)
    simp only [nesting, jsonBytes, stringBytes, List.length_append]
    omega
  | .array elements => by
    have hinside := elementNesting_le_length elements
    simp only [nesting, jsonBytes, List.length_cons, List.length_append, length_beBytes]
    omega
  | .object members => by
    have hinside := memberNesting_le_length members
    simp only [nesting, jsonBytes, List.length_cons, List.length_append, length_beBytes]
    omega

theorem elementNesting_le_length : ∀ ds, elementNesting ds ≤ (elementBytes ds).length + 1
  | [] => le_rfl
  | d :: ds => by
    have hfirst := nesting_le_length d
    have hnext := elementNesting_le_length ds
    simp only [elementNesting, elementBytes, List.length_append]
    omega

theorem memberNesting_le_length : ∀ ds, memberNesting ds ≤ (memberBytes ds).length + 1
  | [] => le_rfl
  | (_, d) :: ds => by
    have hfirst := nesting_le_length d
    have hnext := memberNesting_le_length ds
    simp only [memberNesting, memberBytes, List.length_append]
    omega

end

/-! ## The conversion -/

def FewMembersValue : Json → Prop
  | .object members => members.length < kUint16Max
  | _ => True

/-- No array or object has too many members for the reader. -/
def FewMembers (d : Json) : Prop := Every (fun _ => True) FewMembersValue d

def ShortValue : Json → Prop
  | .string bytes => bytes.length < kUint32Max
  | .array elements => elements.length < kUint32Max
  | _ => True

/-- Every string and every array is shorter than `UINT32_MAX`, and no key is longer. -/
def ShortEnough (d : Json) : Prop := Every AcceptedKey ShortValue d

/-- The text is converted, and the value read is the document. -/
def Converted (parser : JsonParser) (text : List UInt8) (d : Json) : Prop :=
  ∃ root, createFromJson parser text = (.success, some root) ∧ structuredValue root = tree d

theorem fewMembers_and_shortEnough_iff (d : Json) :
    FewMembers d ∧ ShortEnough d ↔ DocumentAccepted d ∧ Terminated d := by
  have hvalues : ∀ v, FewMembersValue v ∧ ShortValue v ↔ AcceptedValue v ∧ TerminatedValue v := by
    intro v
    cases v <;> simp [FewMembersValue, ShortValue, AcceptedValue, TerminatedValue,
      lt_iff_le_and_ne]
  have hleft : Every AcceptedKey (fun v => AcceptedValue v ∧ TerminatedValue v) d ↔
      Every (fun _ => True) FewMembersValue d ∧ Every AcceptedKey ShortValue d :=
    every_and_iff (by simp) (fun v => (hvalues v).symm) d
  have hright : Every AcceptedKey (fun v => AcceptedValue v ∧ TerminatedValue v) d ↔
      Every AcceptedKey AcceptedValue d ∧ Every (fun _ => True) TerminatedValue d :=
    every_and_iff (by simp) (fun _ => Iff.rfl) d
  exact hleft.symm.trans hright

variable {d : Json}

theorem createFromJson_of_document (h : parser.document text = some d) :
    createFromJson parser text =
      match (RjReaderHandler.init ((2 * text.length) % 2 ^ 64)).parse d.events with
      | (_, false) => (.invalidParameter, none)
      | (handler, true) =>
        match handler.finishBuffer with
        | (.success, buffer) => MessagePackReader.init buffer
        | (result, _) => (result, none) := by
  cases text with
  | nil => exact absurd h (by simp [parser.documentEmpty])
  | cons byte bytes =>
    unfold createFromJson
    generalize parser.document (byte :: bytes) = document at h ⊢
    subst h
    rfl

theorem invalidParameter_ne_success : Result.invalidParameter ≠ .success := by decide

theorem not_converted_of_failed (h : parser.document text = some d)
    (hfailed : Failed ((RjReaderHandler.init ((2 * text.length) % 2 ^ 64)).parse d.events)) :
    ¬ Converted parser text d := by
  rintro ⟨root, hcreate, -⟩
  rw [createFromJson_of_document h] at hcreate
  split at hcreate
  case h_1 => exact absurd (congrArg Prod.fst hcreate) invalidParameter_ne_success
  case h_2 handler hparse =>
    rw [hparse] at hfailed
    rw [RjReaderHandler.finishBuffer, if_pos (hfailed rfl)] at hcreate
    exact absurd (congrArg Prod.fst hcreate) (by simp)

theorem createFromJson_of_fits (h : parser.document text = some d) (haccepted : DocumentAccepted d)
    (hfits : (jsonBytes d).length ≤ max 16 ((2 * text.length) % 2 ^ 64)) :
    createFromJson parser text = MessagePackReader.init (jsonBytes d) := by
  rw [createFromJson_of_document h, (parse_init d _).1 ⟨haccepted, hfits⟩]
  rfl

/-- **A document is converted exactly when its encoding fits in twice the length of its text, or in
16 bytes, and none of its strings, keys and arrays is too long.** -/
theorem json_converted_iff (parser : JsonParser) (text : List UInt8) (d : Json)
    (h : parser.document text = some d) (hfew : FewMembers d) :
    Converted parser text d ↔
      ShortEnough d ∧ encodedSize d ≤ max 16 ((2 * text.length) % 2 ^ 64) := by
  by_cases haccepted :
      DocumentAccepted d ∧ (jsonBytes d).length ≤ max 16 ((2 * text.length) % 2 ^ 64)
  case neg =>
    have hnot := not_converted_of_failed h ((parse_init d _).2 haccepted)
    refine iff_of_false hnot fun hboth => haccepted ?_
    have hkinds := (fewMembers_and_shortEnough_iff d).mp ⟨hfew, hboth.1⟩
    exact ⟨hkinds.1, by rw [length_jsonBytes d hkinds.1 hkinds.2]; exact hboth.2⟩
  obtain ⟨haccepted, hfits⟩ := haccepted
  have hcreate := createFromJson_of_fits h haccepted hfits
  have hnesting := nesting_le_length d
  by_cases hterminated : Terminated d
  · have hread := readItem_jsonBytes d [] haccepted hterminated hnesting
    rw [List.append_nil] at hread
    have hshort := ((fewMembers_and_shortEnough_iff d).mpr ⟨haccepted, hterminated⟩).2
    refine iff_of_true ⟨treeWith stored d, ?_, structuredValue_treeWith d⟩ ⟨hshort, ?_⟩
    · rw [hcreate, MessagePackReader.init, hread]
    · rwa [← length_jsonBytes d haccepted hterminated]
  · refine iff_of_false ?_ fun hboth =>
      hterminated ((fewMembers_and_shortEnough_iff d).mp ⟨hfew, hboth.1⟩).2
    rintro ⟨root, hroot, htree⟩
    rw [hcreate, MessagePackReader.init] at hroot
    split at hroot
    case h_1 root' more hread =>
      have heq : root' = root := Option.some.inj (congrArg Prod.snd hroot)
      rw [← List.append_nil (jsonBytes d)] at hread
      exact readItem_ne_of_not_terminated d haccepted hterminated (by simpa using hnesting)
        hread (heq ▸ htree)
    case h_2 => exact absurd (congrArg Prod.fst hroot) invalidParameter_ne_success

/-- An object with the string "bc" under the key "a", and two numbers under the key "n". -/
def smallObject : Json :=
  .object
    [([0x61], .string [0x62, 0x63]), ([0x6e], .array [.number (.uint 1), .number (.int (-2))])]

def smallObjectText : List UInt8 :=
  [0x7b, 0x22, 0x61, 0x22, 0x3a, 0x22, 0x62, 0x63, 0x22, 0x2c, 0x22, 0x6e, 0x22, 0x3a, 0x5b, 0x31,
    0x2c, 0x2d, 0x32, 0x5d, 0x7d]

/-- The parser for one text, which refuses all other texts. -/
def smallObjectParser : JsonParser where
  document text := if text = smallObjectText then some smallObject else none
  documentEmpty := rfl

theorem json_converted_object : Converted smallObjectParser smallObjectText smallObject :=
  (json_converted_iff smallObjectParser smallObjectText smallObject rfl (by
    simp [FewMembers, smallObject, Every, EveryElement, EveryMember, FewMembersValue,
      kUint16Max])).mpr
    ⟨by simp [ShortEnough, smallObject, Every, EveryElement, EveryMember, ShortValue, AcceptedKey,
      kUint32Max], by decide⟩

def nestedArrays : ℕ → Json
  | 0 => .array []
  | n + 1 => .array [nestedArrays n]

/-- The parser for the texts of nested arrays, without anything between the brackets.  It refuses
all other texts. -/
def bracketParser : JsonParser where
  document text :=
    let count := (text.takeWhile (· = 0x5b)).length
    if 0 < count ∧ text = List.replicate count 0x5b ++ List.replicate count 0x5d then
      some (nestedArrays (count - 1))
    else none
  documentEmpty := rfl

/-- The text [[[[]]]] is not converted: its four heads of five bytes do not fit in sixteen. -/
theorem json_converted_fails :
    bracketParser.document [0x5b, 0x5b, 0x5b, 0x5b, 0x5d, 0x5d, 0x5d, 0x5d] =
      some (nestedArrays 3) ∧ FewMembers (nestedArrays 3) ∧
    createFromJson bracketParser [0x5b, 0x5b, 0x5b, 0x5b, 0x5d, 0x5d, 0x5d, 0x5d] =
      (.invalidParameter, none) ∧
    ¬ Converted bracketParser [0x5b, 0x5b, 0x5b, 0x5b, 0x5d, 0x5d, 0x5d, 0x5d]
      (nestedArrays 3) := by
  have hrefused : createFromJson bracketParser
      [0x5b, 0x5b, 0x5b, 0x5b, 0x5d, 0x5d, 0x5d, 0x5d] = (.invalidParameter, none) := rfl
  refine ⟨rfl, by simp [FewMembers, nestedArrays, Every, EveryElement, FewMembersValue],
    hrefused, ?_⟩
  rintro ⟨root, hcreate, -⟩
  rw [hrefused] at hcreate
  exact absurd (congrArg Prod.fst hcreate) invalidParameter_ne_success

end DevDriver.Analysis
