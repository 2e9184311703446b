import DevDriver.Library.LittleEndian

/-!
# MessagePack

The binary format in which an item begins with a byte that says what it is: the item itself, or the
head of a longer one, with the number of bytes, elements or members that follow.  Numbers are
big-endian.
-/

namespace DevDriver.Library.MessagePack

/-- The `w` low bytes of `n`, most significant first. -/
def beBytes (w n : ℕ) : List UInt8 := (leBytes w n).reverse

/-- The number a list of bytes encodes, most significant byte first. -/
def beNat (bytes : List UInt8) : ℕ := leNat bytes.reverse

/-- The number whose two's complement of `w` bytes is `n`. -/
def signed (w n : ℕ) : ℤ := if n < 256 ^ w / 2 then n else (n : ℤ) - (256 ^ w : ℕ)

/-- The two's complement of `w` bytes of a number. -/
def twosComplement (w : ℕ) (i : ℤ) : ℕ := (if i < 0 then i + (256 ^ w : ℕ) else i).toNat

@[simp] theorem length_beBytes (w n : ℕ) : (beBytes w n).length = w := by
  rw [beBytes, List.length_reverse, length_leBytes]

variable {w n : ℕ}

theorem beNat_beBytes (h : n < 256 ^ w) : beNat (beBytes w n) = n := by
  rw [beNat, beBytes, List.reverse_reverse, leNat_leBytes_of_lt h]

variable {i : ℤ}

theorem twosComplement_lt (hlow : -(256 ^ w : ℕ) ≤ i) (hhigh : i < (256 ^ w : ℕ)) :
    twosComplement w i < 256 ^ w := by
  rw [twosComplement]
  split <;> omega

theorem signed_twosComplement (hlow : -(256 ^ w / 2 : ℕ) ≤ i) (hhigh : i < (256 ^ w / 2 : ℕ)) :
    signed w (twosComplement w i) = i := by
  rw [signed, twosComplement]
  split <;> split <;> omega

/-! ## Heads -/

/-- What the first bytes of an item say. -/
inductive Head where
  | nil
  | bool (value : Bool)
  | int (value : ℤ)
  | double (bits : ℕ)
  | str (length : ℕ)
  | array (count : ℕ)
  | map (count : ℕ)

/-- A number of `w` bytes. -/
def readNumber (w : ℕ) (input : List UInt8) : Option (ℕ × List UInt8) :=
  if w ≤ input.length then some (beNat (input.take w), input.drop w) else none

/-- A head that goes on with a number of `w` bytes. -/
def numbered (w : ℕ) (head : ℕ → Head) (input : List UInt8) : Option (Head × List UInt8) :=
  (readNumber w input).map fun (n, rest) => (head n, rest)

/-- The head of the next item. -/
def readHead : List UInt8 → Option (Head × List UInt8)
  | [] => none
  | tag :: rest =>
    if tag.toNat < 0x80 then some (.int tag.toNat, rest)
    else if tag.toNat < 0x90 then some (.map (tag.toNat - 0x80), rest)
    else if tag.toNat < 0xa0 then some (.array (tag.toNat - 0x90), rest)
    else if tag.toNat < 0xc0 then some (.str (tag.toNat - 0xa0), rest)
    else if 0xe0 ≤ tag.toNat then some (.int (signed 1 tag.toNat), rest)
    else match tag.toNat with
      | 0xc0 => some (.nil, rest)
      | 0xc2 => some (.bool false, rest)
      | 0xc3 => some (.bool true, rest)
      | 0xcb => numbered 8 .double rest
      | 0xcc => numbered 1 (fun n => .int n) rest
      | 0xcd => numbered 2 (fun n => .int n) rest
      | 0xce => numbered 4 (fun n => .int n) rest
      | 0xcf => numbered 8 (fun n => .int n) rest
      | 0xd0 => numbered 1 (fun n => .int (signed 1 n)) rest
      | 0xd1 => numbered 2 (fun n => .int (signed 2 n)) rest
      | 0xd2 => numbered 4 (fun n => .int (signed 4 n)) rest
      | 0xd3 => numbered 8 (fun n => .int (signed 8 n)) rest
      | 0xd9 => numbered 1 .str rest
      | 0xda => numbered 2 .str rest
      | 0xdb => numbered 4 .str rest
      | 0xdc => numbered 2 .array rest
      | 0xdd => numbered 4 .array rest
      | 0xde => numbered 2 .map rest
      | 0xdf => numbered 4 .map rest
      | _ => none

theorem numbered_beBytes (head : ℕ → Head) (h : n < 256 ^ w) (rest : List UInt8) :
    numbered w head (beBytes w n ++ rest) = some (head n, rest) := by
  have hlength := length_beBytes w n
  rw [numbered, readNumber, if_pos (by simp), List.take_left' hlength, List.drop_left' hlength,
    beNat_beBytes h, Option.map_some]

theorem numbered_twosComplement (hlow : -(256 ^ w / 2 : ℕ) ≤ i) (hhigh : i < (256 ^ w / 2 : ℕ))
    (rest : List UInt8) :
    numbered w (fun n => .int (signed w n)) (beBytes w (twosComplement w i) ++ rest) =
      some (.int i, rest) := by
  rw [numbered_beBytes _ (twosComplement_lt (by omega) (by omega)),
    signed_twosComplement hlow hhigh]

theorem toNat_ofNat_of_lt (h : n < 256) : (UInt8.ofNat n).toNat = n := by
  rw [UInt8.toNat_ofNat', Nat.mod_eq_of_lt h]

theorem readHead_fixuint (h : n < 0x80) (rest : List UInt8) :
    readHead (UInt8.ofNat n :: rest) = some (.int n, rest) := by
  rw [readHead, toNat_ofNat_of_lt (by omega), if_pos h]

theorem readHead_fixint (hlow : -32 ≤ i) (hhigh : i < 0) (rest : List UInt8) :
    readHead (UInt8.ofNat (twosComplement 1 i) :: rest) = some (.int i, rest) := by
  have hsigned : signed 1 (twosComplement 1 i) = i := signed_twosComplement (by omega) (by omega)
  have hbyte : twosComplement 1 i < 256 := twosComplement_lt (by omega) (by omega)
  have hneg : 0xe0 ≤ twosComplement 1 i := by rw [twosComplement, if_pos hhigh]; omega
  rw [readHead, toNat_ofNat_of_lt hbyte, if_neg (by omega), if_neg (by omega), if_neg (by omega),
    if_neg (by omega), if_pos hneg, hsigned]

theorem readHead_fixstr (h : n < 32) (rest : List UInt8) :
    readHead (UInt8.ofNat (0xa0 + n) :: rest) = some (.str n, rest) := by
  rw [readHead, toNat_ofNat_of_lt (by omega), if_neg (by omega), if_neg (by omega),
    if_neg (by omega), if_pos (by omega), Nat.add_sub_cancel_left]

/-- An item. -/
inductive Item where
  | nil
  | bool (value : Bool)
  | int (value : ℤ)
  | double (bits : ℕ)
  | str (bytes : List UInt8)
  | array (elements : List Item)
  | map (members : List (Item × Item))

/-- A number of things one after another. -/
def readTimes {α : Type} (read : List UInt8 → Option (α × List UInt8)) :
    ℕ → List UInt8 → Option (List α × List UInt8)
  | 0, input => some ([], input)
  | n + 1, input => do
    let (a, rest) ← read input
    let (as, rest) ← readTimes read n rest
    return (a :: as, rest)

/-- Two things one after another. -/
def readPair {α : Type} (read : List UInt8 → Option (α × List UInt8)) (input : List UInt8) :
    Option ((α × α) × List UInt8) := do
  let (a, rest) ← read input
  let (b, rest) ← read rest
  return ((a, b), rest)

/-- What follows a head, when `read` reads the items inside. -/
def readBody (read : List UInt8 → Option (Item × List UInt8)) (head : Head)
    (rest : List UInt8) : Option (Item × List UInt8) :=
  match head with
  | .nil => some (.nil, rest)
  | .bool value => some (.bool value, rest)
  | .int value => some (.int value, rest)
  | .double bits => some (.double bits, rest)
  | .str length =>
    if length ≤ rest.length then some (.str (rest.take length), rest.drop length) else none
  | .array count => (readTimes read count rest).map fun (items, rest) => (.array items, rest)
  | .map count => (readTimes (readPair read) count rest).map fun (items, rest) => (.map items, rest)

/-- The next item, when it nests no deeper than the given depth. -/
def readItem : ℕ → List UInt8 → Option (Item × List UInt8)
  | 0, _ => none
  | depth + 1, input =>
    (readHead input).bind fun (head, rest) => readBody (readItem depth) head rest

theorem readItem_of_readHead {depth : ℕ} {input rest : List UInt8} {head : Head}
    (h : readHead input = some (head, rest)) :
    readItem (depth + 1) input = readBody (readItem depth) head rest := by
  rw [readItem, h, Option.bind_some]

theorem readBody_str (read : List UInt8 → Option (Item × List UInt8)) (bytes rest : List UInt8) :
    readBody read (.str bytes.length) (bytes ++ rest) = some (.str bytes, rest) := by
  rw [readBody, if_pos (by simp), List.take_left, List.drop_left]

end DevDriver.Library.MessagePack
