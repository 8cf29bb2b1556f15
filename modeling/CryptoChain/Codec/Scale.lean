import CryptoChain.Node.Abci
import Mathlib.Algebra.Group.Nat.Basic

/-!
The SCALE codec of `parity_scale_codec` for the types `TransactionChange` is built from:
little-endian fixed-width integers, fixed byte arrays, compact lengths, and byte strings and
UTF-8 strings prefixed by their compact length. A decoder reads from the front of its input
and returns the value with the input it has not read.

* `decodeU64_append`, `decodeH256_append`, `decodeCompact_append`: each decoder applied to
  an encoding followed by any bytes returns the encoded value and exactly those bytes.
* `decodeString_append`: the same for strings of ASCII characters, the only strings the
  codec of `TransactionChange` writes.
-/

namespace CryptoChain

namespace Scale

/-! ### Little-endian numbers -/

/-- `n` in `k` bytes, the least significant first. -/
def leBytes : ℕ → ℕ → Bytes
  | 0, _ => []
  | k + 1, n => (n % 256).toUInt8 :: leBytes k (n / 256)

/-- The number whose bytes, the least significant first, are given. -/
def ofLeBytes : Bytes → ℕ
  | [] => 0
  | b :: bs => b.toNat + 256 * ofLeBytes bs

@[simp] lemma length_leBytes (k n : ℕ) : (leBytes k n).length = k := by
  induction k generalizing n <;> simp [leBytes, *]

lemma ofLeBytes_leBytes (k n : ℕ) : ofLeBytes (leBytes k n) = n % 256 ^ k := by
  induction k generalizing n with
  | zero => simp [leBytes, ofLeBytes, Nat.mod_one]
  | succ k ih =>
    have h : (n % 256).toUInt8.toNat = n % 256 :=
      UInt8.toNat_ofNat_of_lt (Nat.mod_lt _ (by decide))
    rw [leBytes, ofLeBytes, ih, h, Nat.pow_succ', Nat.mod_mul]

/-- `input.read(&mut buf)` for a buffer of `n` bytes. -/
def readBytes (n : ℕ) (input : Bytes) : Except String (Bytes × Bytes) :=
  if n ≤ input.length then .ok (input.take n, input.drop n)
  else .error "Not enough data to fill buffer"

lemma readBytes_append {bs : Bytes} (rest : Bytes) :
    readBytes bs.length (bs ++ rest) = .ok (bs, rest) := by
  simp [readBytes]

lemma readBytes_leBytes (k n : ℕ) (rest : Bytes) :
    readBytes k (leBytes k n ++ rest) = .ok (leBytes k n, rest) := by
  simpa using @readBytes_append (leBytes k n) rest

lemma toNat_toUInt8 {m : ℕ} (h : m < 256) : m.toUInt8.toNat = m := UInt8.toNat_ofNat_of_lt h

/-! ### Fixed-width values -/

/-- `u64::encode`: eight bytes, little endian. -/
def encodeU64 (v : BitVec 64) : Bytes := leBytes 8 v.toNat

/-- `u64::decode`. -/
def decodeU64 (input : Bytes) : Except String (BitVec 64 × Bytes) := do
  let (bs, rest) ← readBytes 8 input
  pure (BitVec.ofNat 64 (ofLeBytes bs), rest)

lemma decodeU64_append (v : BitVec 64) (rest : Bytes) :
    decodeU64 (encodeU64 v ++ rest) = .ok (v, rest) := by
  have h : readBytes 8 (encodeU64 v ++ rest) = .ok (encodeU64 v, rest) := readBytes_leBytes _ _ _
  have hv : BitVec.ofNat 64 (ofLeBytes (encodeU64 v)) = v := by
    have hlt : v.toNat < 256 ^ 8 := by simpa using v.isLt
    apply BitVec.eq_of_toNat_eq
    rw [encodeU64, ofLeBytes_leBytes, Nat.mod_eq_of_lt hlt, BitVec.toNat_ofNat,
      Nat.mod_eq_of_lt v.isLt]
  simp only [decodeU64, h, hv, bind, Except.bind, pure, Except.pure]

/-- `<[u8; 32]>::decode`, the bytes of a hash or a transaction id. -/
def decodeH256 (input : Bytes) : Except String (H256 × Bytes) :=
  if h : 32 ≤ input.length then .ok (⟨input.take 32, by simp [h]⟩, input.drop 32)
  else .error "Not enough data to fill buffer"

lemma decodeH256_append (x : H256) (rest : Bytes) :
    decodeH256 (x.bytes ++ rest) = .ok (x, rest) := by
  obtain ⟨bytes, hl⟩ := x
  unfold decodeH256
  rw [dif_pos (by simp [hl])]
  simp only [Except.ok.injEq, Prod.mk.injEq, H256.mk.injEq]
  exact ⟨List.take_left' hl, List.drop_left' hl⟩

/-! ### Compact lengths -/

/-- `Compact<u32>::encode`: six bits in one byte, fourteen in two, thirty in four, each
shifted past a two-bit mode, or the mode `3` followed by the four bytes of the number. -/
def encodeCompact (n : ℕ) : Bytes :=
  if n < 64 then leBytes 1 (4 * n)
  else if n < 16384 then leBytes 2 (4 * n + 1)
  else if n < 1073741824 then leBytes 4 (4 * n + 2)
  else 3 :: leBytes 4 n

/-- `Compact<u32>::decode`, which accepts only the shortest encoding of each number. -/
def decodeCompact (input : Bytes) : Except String (ℕ × Bytes) :=
  match input with
  | [] => .error "Not enough data to fill buffer"
  | pre :: rest =>
    match pre.toNat % 4 with
    | 0 => .ok (pre.toNat / 4, rest)
    | 1 => do
      let (bs, rest) ← readBytes 2 input
      let x := ofLeBytes bs / 4
      if 63 < x then pure (x, rest) else .error "out of range decoding Compact<u32>"
    | 2 => do
      let (bs, rest) ← readBytes 4 input
      let x := ofLeBytes bs / 4
      if 16383 < x then pure (x, rest) else .error "out of range decoding Compact<u32>"
    | _ => do
      if pre.toNat / 4 = 0 then
        let (bs, rest) ← readBytes 4 rest
        let x := ofLeBytes bs
        if 1073741823 < x then pure (x, rest) else .error "out of range decoding Compact<u32>"
      else .error "out of range decoding Compact<u32>"

lemma decodeCompact_append {n : ℕ} (hn : n < 4294967296) (rest : Bytes) :
    decodeCompact (encodeCompact n ++ rest) = .ok (n, rest) := by
  unfold encodeCompact
  split_ifs with h₁ h₂ h₃
  · simp (disch := omega) only [leBytes, List.cons_append, List.nil_append, decodeCompact,
      toNat_toUInt8, Nat.mod_eq_of_lt, show 4 * n % 4 = 0 by omega,
      Nat.mul_div_cancel_left n (by decide : 0 < 4)]
  · have hb := readBytes_leBytes 2 (4 * n + 1) rest
    have hv : ofLeBytes (leBytes 2 (4 * n + 1)) / 4 = n := by
      rw [ofLeBytes_leBytes, Nat.mod_eq_of_lt (by omega)]; omega
    simp only [leBytes, List.cons_append] at hb hv ⊢
    simp (disch := omega) only [decodeCompact, toNat_toUInt8, Nat.mod_lt,
      show (4 * n + 1) % 256 % 4 = 1 by omega, hb, hv, bind, Except.bind, pure, Except.pure]
    simp [show 63 < n by omega]
  · have hb := readBytes_leBytes 4 (4 * n + 2) rest
    have hv : ofLeBytes (leBytes 4 (4 * n + 2)) / 4 = n := by
      rw [ofLeBytes_leBytes, Nat.mod_eq_of_lt (by omega)]; omega
    simp only [leBytes, List.cons_append] at hb hv ⊢
    simp (disch := omega) only [decodeCompact, toNat_toUInt8, Nat.mod_lt,
      show (4 * n + 2) % 256 % 4 = 2 by omega, hb, hv, bind, Except.bind, pure, Except.pure]
    simp [show 16383 < n by omega]
  · have hv : ofLeBytes (leBytes 4 n) = n := by
      rw [ofLeBytes_leBytes, Nat.mod_eq_of_lt (by omega)]
    simp only [List.cons_append, decodeCompact, readBytes_leBytes, hv, bind, Except.bind,
      pure, Except.pure]
    simp [show 1073741823 < n by omega, UInt8.size]

/-! ### Byte strings and UTF-8 strings -/

/-- `Vec<u8>::encode`: the compact length, then the bytes. -/
def encodeBytes (bs : Bytes) : Bytes := encodeCompact bs.length ++ bs

/-- `Vec<u8>::decode` on a byte slice: the compact length, checked against the bytes the
slice has left (`remaining_len`) before the buffer is read. -/
def decodeBytes (input : Bytes) : Except String (Bytes × Bytes) := do
  let (len, rest) ← decodeCompact input
  if rest.length < len then .error "Not enough data to decode vector"
  else readBytes len rest

lemma decodeBytes_append {bs : Bytes} (h : bs.length < 4294967296) (rest : Bytes) :
    decodeBytes (encodeBytes bs ++ rest) = .ok (bs, rest) := by
  simp only [decodeBytes, encodeBytes, List.append_assoc, decodeCompact_append h, bind,
    Except.bind]
  rw [if_neg (by simp), readBytes_append]

/-- A continuation byte, `0b10xx_xxxx`. -/
def isCont (b : UInt8) : Bool := 0x80 ≤ b && b ≤ 0xBF

/-- The second bytes UTF-8 allows after the first byte `b` of a three-byte character: no
overlong encoding and no surrogate. -/
def secondOf3 (b c : UInt8) : Bool :=
  (b == 0xE0 && 0xA0 ≤ c && c ≤ 0xBF) || (0xE1 ≤ b && b ≤ 0xEC && isCont c) ||
    (b == 0xED && 0x80 ≤ c && c ≤ 0x9F) || (0xEE ≤ b && b ≤ 0xEF && isCont c)

/-- The second bytes UTF-8 allows after the first byte `b` of a four-byte character: no
overlong encoding and nothing above `U+10FFFF`. -/
def secondOf4 (b c : UInt8) : Bool :=
  (b == 0xF0 && 0x90 ≤ c && c ≤ 0xBF) || (0xF1 ≤ b && b ≤ 0xF3 && isCont c) ||
    (b == 0xF4 && 0x80 ≤ c && c ≤ 0x8F)

/-- `String::from_utf8`: the characters of well-formed UTF-8, nothing otherwise. -/
def fromUtf8 : Bytes → Option (List Char)
  | [] => some []
  | b :: bs =>
    if b < 0x80 then (Char.ofNat b.toNat :: ·) <$> fromUtf8 bs
    else match bs with
      | c₁ :: bs₁ =>
        if 0xC2 ≤ b && b ≤ 0xDF && isCont c₁ then
          (Char.ofNat (b.toNat % 32 * 64 + c₁.toNat % 64) :: ·) <$> fromUtf8 bs₁
        else match bs₁ with
          | c₂ :: bs₂ =>
            if secondOf3 b c₁ && isCont c₂ then
              (Char.ofNat (b.toNat % 16 * 4096 + c₁.toNat % 64 * 64 + c₂.toNat % 64) :: ·) <$>
                fromUtf8 bs₂
            else match bs₂ with
              | c₃ :: bs₃ =>
                if secondOf4 b c₁ && isCont c₂ && isCont c₃ then
                  (Char.ofNat (b.toNat % 8 * 262144 + c₁.toNat % 64 * 4096 +
                    c₂.toNat % 64 * 64 + c₃.toNat % 64) :: ·) <$> fromUtf8 bs₃
                else none
              | [] => none
          | [] => none
      | [] => none

/-- `String::encode`: the UTF-8 bytes of the string as a byte string. -/
def encodeString (s : List Char) : Bytes := encodeBytes (s.flatMap String.utf8EncodeChar)

/-- `String::decode` as `parity_scale_codec` 1.3 writes it: `String::from_utf8` of the decoded
bytes, refusing ill-formed UTF-8. Earlier versions decode with `String::from_utf8_lossy`, which
never fails and reads each ill-formed sequence as `U+FFFD`; the strings `TransactionChange`
writes are ASCII, which both read alike. -/
def decodeString (input : Bytes) : Except String (List Char × Bytes) := do
  let (bs, rest) ← decodeBytes input
  match fromUtf8 bs with
  | some s => pure (s, rest)
  | none => .error "Invalid utf8 sequence"

/-! ### ASCII strings -/

section Ascii

variable {s : List Char} (h : ∀ c ∈ s, c.toNat < 128)

lemma toNat_toUInt8_val {c : Char} (hc : c.toNat < 128) : c.val.toUInt8.toNat = c.toNat :=
  toNat_toUInt8 (show c.toNat < 256 by omega)

/-- An ASCII character is one byte of UTF-8. -/
lemma utf8EncodeChar_of_ascii {c : Char} (hc : c.toNat < 128) :
    String.utf8EncodeChar c = [c.val.toUInt8] := by
  have hv : c.val ≤ 0x7f := by
    rw [UInt32.le_def, BitVec.le_def]; show c.toNat ≤ 127; omega
  simp [String.utf8EncodeChar, hv]

include h in
lemma flatMap_utf8EncodeChar_of_ascii :
    s.flatMap String.utf8EncodeChar = s.map (·.val.toUInt8) := by
  induction s with
  | nil => rfl
  | cons c s ih =>
    rw [List.flatMap_cons, utf8EncodeChar_of_ascii (h c (List.mem_cons_self _ _)),
      ih fun d hd => h d (List.mem_cons_of_mem _ hd)]
    rfl

lemma fromUtf8_cons_of_lt {b : UInt8} (hb : b < 0x80) (bs : Bytes) :
    fromUtf8 (b :: bs) = (Char.ofNat b.toNat :: ·) <$> fromUtf8 bs := by
  rw [fromUtf8.eq_def]
  dsimp only
  rw [if_pos hb]

include h in
lemma fromUtf8_ascii : fromUtf8 (s.map (·.val.toUInt8)) = some s := by
  induction s with
  | nil => rfl
  | cons c s ih =>
    have hc := h c (List.mem_cons_self _ _)
    have hb : c.val.toUInt8 < 0x80 := by
      rw [UInt8.lt_def, BitVec.lt_def]
      show c.val.toUInt8.toNat < 128
      rw [toNat_toUInt8_val hc]; exact hc
    rw [List.map_cons, fromUtf8_cons_of_lt hb, ih fun d hd => h d (List.mem_cons_of_mem _ hd),
      toNat_toUInt8_val hc, Char.ofNat_toNat]
    rfl

include h in
/-- An ASCII string decodes back from its encoding, leaving what follows. -/
lemma decodeString_append (hlen : s.length < 4294967296) (rest : Bytes) :
    decodeString (encodeString s ++ rest) = .ok (s, rest) := by
  have hl : (s.map (·.val.toUInt8)).length < 4294967296 := by simpa using hlen
  simp only [decodeString, encodeString, flatMap_utf8EncodeChar_of_ascii h,
    decodeBytes_append hl, fromUtf8_ascii h, bind, Except.bind, pure, Except.pure]

end Ascii

end Scale

end CryptoChain
