import CryptoChain.Codec.Scale
import CryptoChain.Codec.ChronoParse
import CryptoChain.Wallet.Coin
import CryptoChain.Wallet.Storage

/-!
The SCALE codec of `TransactionChange` (`client-common/src/balance/transaction_change.rs`):
the transaction id, the address, the balance change and the block height in their own
encodings, then the block time as the string `to_rfc3339` writes, which `decode` parses back
with `DateTime::from_str`.

* `decodeCoin_append`, `decodeExtendedAddr_append`, `decodeBalanceChange_append`: each field
  decodes back from its encoding and leaves what follows.
* `TransactionChange.decode_encode_append`: `decode` on an encoding followed by any bytes
  returns the change and exactly those bytes, with the block time read back as
  `fromStr_toRfc3339` gives it: a leap second outside the 59th second of a minute comes back
  as the second after it.
* `TransactionChange.decode_encode_append_iff`: so `decode` returns the change it was given
  exactly when its block time is not such a leap second, and
  `leap_second_block_time_moves` is one that is.
-/

namespace CryptoChain

open Chrono

/-- Modelled from the spec: `BalanceChange`, the coins a transaction brings to an address or
takes from it. -/
inductive BalanceChange where
  | incoming (c : Coin)
  | outgoing (c : Coin)

/-- `TransactionChange`. -/
structure TransactionChange where
  transactionId : H256
  address : ExtendedAddr
  balanceChange : BalanceChange
  blockHeight : BitVec 64
  blockTime : NaiveDateTime

namespace Scale

/-! ### The fields -/

/-- Modelled from the spec: `Coin::encode`, its `u64`. -/
def encodeCoin (c : Coin) : Bytes := encodeU64 c.value

/-- Modelled from the spec: `Coin::decode` reads a `u64` and refuses one above `MAX_COIN`. -/
def decodeCoin (input : Bytes) : Except String (Coin × Bytes) := do
  let (v, rest) ← decodeU64 input
  if h : v.toNat ≤ maxCoin then pure (⟨v, h⟩, rest) else .error "Out of bounds coin value"

/-- Modelled from the spec: `ExtendedAddr::encode` as `#[derive(Encode)]` writes it, the
index of the variant, then its field. -/
def encodeExtendedAddr : ExtendedAddr → Bytes
  | .orTree root => 0 :: root.bytes

/-- Modelled from the spec: the derived `ExtendedAddr::decode`. -/
def decodeExtendedAddr : Bytes → Except String (ExtendedAddr × Bytes)
  | [] => .error "Not enough data to fill buffer"
  | b :: rest =>
    if b = 0 then do
      let (root, rest) ← decodeH256 rest
      pure (.orTree root, rest)
    else .error "No such variant in enum ExtendedAddr"

/-- Modelled from the spec: the derived `BalanceChange::encode`. -/
def encodeBalanceChange : BalanceChange → Bytes
  | .incoming c => 0 :: encodeCoin c
  | .outgoing c => 1 :: encodeCoin c

/-- Modelled from the spec: the derived `BalanceChange::decode`. -/
def decodeBalanceChange : Bytes → Except String (BalanceChange × Bytes)
  | [] => .error "Not enough data to fill buffer"
  | b :: rest =>
    if b = 0 then do
      let (c, rest) ← decodeCoin rest
      pure (.incoming c, rest)
    else if b = 1 then do
      let (c, rest) ← decodeCoin rest
      pure (.outgoing c, rest)
    else .error "No such variant in enum BalanceChange"

lemma decodeCoin_append (c : Coin) (rest : Bytes) :
    decodeCoin (encodeCoin c ++ rest) = .ok (c, rest) := by
  simp only [decodeCoin, encodeCoin, decodeU64_append, ok_bind, dif_pos c.le_max]
  rfl

lemma decodeExtendedAddr_append (a : ExtendedAddr) (rest : Bytes) :
    decodeExtendedAddr (encodeExtendedAddr a ++ rest) = .ok (a, rest) := by
  cases a with
  | orTree root =>
    simp only [encodeExtendedAddr, List.cons_append, decodeExtendedAddr, if_true,
      decodeH256_append, ok_bind]
    rfl

lemma decodeBalanceChange_append (b : BalanceChange) (rest : Bytes) :
    decodeBalanceChange (encodeBalanceChange b ++ rest) = .ok (b, rest) := by
  cases b with
  | incoming c =>
    simp only [encodeBalanceChange, List.cons_append, decodeBalanceChange, if_true,
      decodeCoin_append, ok_bind]
    rfl
  | outgoing c =>
    simp only [encodeBalanceChange, List.cons_append, decodeBalanceChange,
      show (1 : UInt8) ≠ 0 by decide, if_false, if_true, decodeCoin_append, ok_bind]
    rfl

end Scale

namespace TransactionChange

open Scale

/-- `TransactionChange::encode_to`. -/
def encode (x : TransactionChange) : Bytes :=
  x.transactionId.bytes ++ encodeExtendedAddr x.address ++ encodeBalanceChange x.balanceChange ++
    encodeU64 x.blockHeight ++ encodeString x.blockTime.toRfc3339

/-- The fields `TransactionChange::decode` reads, the block time still as its string. -/
def decodeFields (input : Bytes) :
    Except String ((H256 × ExtendedAddr × BalanceChange × BitVec 64 × List Char) × Bytes) := do
  let (transactionId, input) ← decodeH256 input
  let (address, input) ← decodeExtendedAddr input
  let (balanceChange, input) ← decodeBalanceChange input
  let (blockHeight, input) ← decodeU64 input
  let (blockTime, input) ← decodeString input
  pure ((transactionId, address, balanceChange, blockHeight, blockTime), input)

/-- `TransactionChange::decode`: a block time that does not parse is `Unable to parse block
time`. The outer `error` is a panic of `DateTime::from_str`. -/
def decode (input : Bytes) : Except String (Except String (TransactionChange × Bytes)) :=
  match decodeFields input with
  | .error e => .ok (.error e)
  | .ok ((transactionId, address, balanceChange, blockHeight, text), rest) =>
    match fromStr text with
    | .error panic => .error panic
    | .ok (.error _) => .ok (.error "Unable to parse block time")
    | .ok (.ok blockTime) =>
      .ok (.ok (⟨transactionId, address, balanceChange, blockHeight, blockTime⟩, rest))

lemma decodeFields_encode_append (x : TransactionChange) (s : Bytes) :
    decodeFields (x.encode ++ s) = .ok ((x.transactionId, x.address, x.balanceChange,
      x.blockHeight, x.blockTime.toRfc3339), s) := by
  simp only [decodeFields, encode, List.append_assoc, decodeH256_append, ok_bind,
    decodeExtendedAddr_append, decodeBalanceChange_append, decodeU64_append,
    decodeString_append x.blockTime.toRfc3339_ascii x.blockTime.length_toRfc3339_lt]
  rfl

/-- **The codec round trip.** `decode` on an encoding followed by any bytes returns the
change, with its block time as `from_str` reads back its RFC 3339 text, and exactly the bytes
that follow. -/
lemma decode_encode_append (x : TransactionChange) (s : Bytes) :
    decode (x.encode ++ s) = .ok (.ok ({ x with blockTime := x.blockTime.leapNormal }, s)) := by
  rw [decode, decodeFields_encode_append]
  simp only [fromStr_toRfc3339]

/-- `decode` returns the change it was given, and exactly the bytes that follow, for every
block time but a leap second outside the 59th second of a minute, which it reads as the
second after it. -/
theorem decode_encode_append_iff (x : TransactionChange) (s : Bytes) :
    decode (x.encode ++ s) = .ok (.ok ({ x with blockTime := x.blockTime.leapNormal }, s)) ∧
    (decode (x.encode ++ s) = .ok (.ok (x, s)) ↔
      x.blockTime.time.frac < 1000000000 ∨ x.blockTime.time.secs % 60 = 59) := by
  refine ⟨decode_encode_append x s, ?_⟩
  rw [decode_encode_append, ← NaiveTime.leapNormal_eq_self_iff]
  obtain ⟨transactionId, address, balanceChange, blockHeight, ⟨date, time⟩⟩ := x
  simp [NaiveDateTime.leapNormal]

end TransactionChange

/-- A change whose block time is the leap second at midnight of 1970-01-01. -/
def leapSecondChange : TransactionChange where
  transactionId := H256.zero
  address := .orTree H256.zero
  balanceChange := .incoming Coin.zero
  blockHeight := 0
  blockTime := ⟨⟨1970, 1, 1, by decide⟩, ⟨0, 1000000000, by decide, by decide⟩⟩

/-- The leap second at `00:00:00` is written `00:00:01` and comes back as that second. -/
theorem leap_second_block_time_moves :
    TransactionChange.decode leapSecondChange.encode = .ok (.ok ({ leapSecondChange with
      blockTime := ⟨⟨1970, 1, 1, by decide⟩, ⟨1, 0, by decide, by decide⟩⟩ }, [])) ∧
    TransactionChange.decode leapSecondChange.encode ≠ .ok (.ok (leapSecondChange, [])) := by
  have h := TransactionChange.decode_encode_append leapSecondChange []
  rw [List.append_nil] at h
  rw [h]
  refine ⟨rfl, fun he => ?_⟩
  have := congrArg (fun r => match r with
    | .ok (.ok (x, _)) => x.blockTime.time.secs
    | _ => 0) he
  simp [leapSecondChange, NaiveDateTime.leapNormal, NaiveTime.leapNormal] at this

end CryptoChain
