import Mathlib.Data.List.Basic
import Mathlib.Tactic.Common

/-!
The node's side of the ABCI query surface, `chain-abci/src/app/query.rs`: the
data `ChainNodeApp::query_handler` reads and the response it builds.

* `Bytes`, `H256`: byte strings and the 32-byte hashes of `chain_core::common`.
  `H256.copyFromSlice` is `<[u8; 32]>::copy_from_slice`, which panics unless the
  slice has exactly 32 bytes.
* `Column`, `KeyValueDB`: the columns of the node's store and its read
  `db.get(column, key)`, which returns a value, nothing, or an I/O error.
* `encodeVarVec`: `i64::encode_var_vec` of `integer_encoding`, the key under
  which `COL_APP_STATES` keeps the app hash of a height: the zigzag map, then
  the base-128 varint.
* `RequestQuery`, `ResponseQuery`, `ProofOp`: the fields of the ABCI messages
  that the handler reads or writes; a fresh response has code `0`, an empty log,
  an empty value and no proof.
* `ChainCore`: the `chain_core` operations the handler calls (the Merkle tree
  of a block's transaction ids, its proofs, the witness hash and the encoding
  of a staked state), taken as parameters.
* `ChainNodeApp`: the node state the handler reads, its store, its last
  committed state and its account lookup.
-/

namespace CryptoChain

/-- Byte strings: `Vec<u8>` and `&[u8]`. -/
abbrev Bytes := List UInt8

/-- `H256`, a hash of `HASH_SIZE_256 = 32` bytes. -/
structure H256 where
  bytes : Bytes
  length_eq : bytes.length = 32
  deriving DecidableEq

/-- The all-zero hash. -/
def H256.zero : H256 := ⟨List.replicate 32 0, by simp⟩

/-- `txid.copy_from_slice(data)` on `[0u8; HASH_SIZE_256]`: the standard
library panics unless the source has the destination's 32 bytes. -/
def H256.copyFromSlice (data : Bytes) : Except String H256 :=
  if h : data.length = 32 then .ok ⟨data, h⟩
  else .error ("source slice length (" ++ toString data.length ++
    ") does not match destination slice length (32)")

lemma H256.copyFromSlice_of_length {data : Bytes} (h : data.length = 32) :
    H256.copyFromSlice data = .ok ⟨data, h⟩ := by
  simp [copyFromSlice, h]

/-- The columns of the node's store that `query_handler` reads: `COL_BODIES`,
`COL_TX_META`, `COL_WITNESS`, `COL_APP_STATES` and `COL_MERKLE_PROOFS`. -/
inductive Column where
  | bodies
  | txMeta
  | witness
  | appStates
  | merkleProofs
  deriving DecidableEq, Repr

/-- A snapshot of the node's key/value store, as `self.storage.db` is read by
the handler: `get` returns `Ok(Some(value))`, `Ok(None)` for an absent key, or
an I/O error. -/
structure KeyValueDB where
  get : Column → Bytes → Except String (Option Bytes)

/-! ### The key of an app hash -/

/-- `zigzag_encode` of `integer_encoding` for `i64`:
`((n << 1) ^ (n >> 63)) as u64`, an arithmetic shift on the right. -/
def zigzag (n : BitVec 64) : BitVec 64 :=
  (n <<< 1) ^^^ n.sshiftRight 63

/-- `VarInt::encode_var` of a `u64`: seven bits a byte, least significant
first, with the continuation bit `0x80` on every byte but the last. -/
def varint (n : ℕ) : Bytes :=
  if n < 0x80 then [n.toUInt8] else (n % 0x80 + 0x80).toUInt8 :: varint (n / 0x80)
termination_by n
decreasing_by omega

/-- `i64::encode_var_vec(height)`, the key of `COL_APP_STATES`. -/
def encodeVarVec (height : BitVec 64) : Bytes :=
  varint (zigzag height).toNat

lemma encodeVarVec_zero : encodeVarVec 0 = [0] := by
  rw [encodeVarVec, varint]
  decide

lemma encodeVarVec_neg_one : encodeVarVec (-1) = [1] := by
  rw [encodeVarVec, varint]
  decide

/-! ### Requests, responses and the node state -/

/-- `abci::ProofOp`: a type tag, a key and opaque data. -/
structure ProofOp where
  fieldType : String
  key : Bytes
  data : Bytes
  deriving DecidableEq

/-- `abci::Proof`, the list of operations a verifier checks in order. -/
structure Proof where
  ops : List ProofOp
  deriving DecidableEq

/-- The fields of `abci::RequestQuery` the handler reads; `height` is an
`i64`. -/
structure RequestQuery where
  data : Bytes
  path : String
  height : BitVec 64
  prove : Bool

/-- The fields of `abci::ResponseQuery` the handler writes. -/
structure ResponseQuery where
  code : UInt32
  log : String
  value : Bytes
  proof : Option Proof
  deriving DecidableEq

/-- `ResponseQuery::new()`: code `0`, empty log and value, no proof. -/
def ResponseQuery.new : ResponseQuery := ⟨0, "", [], none⟩

/-- `RedeemAddress`, the 20-byte hash of a public key. -/
structure RedeemAddress where
  bytes : Bytes
  length_eq : bytes.length = 20
  deriving DecidableEq

/-- `StakedStateAddress`, whose one variant is a redeem address. -/
inductive StakedStateAddress where
  | basicRedeem (address : RedeemAddress)
  deriving DecidableEq

/-- Modelled from the spec: `StakedStateAddress::try_from(&[u8])`, which
accepts exactly the 20-byte strings (a redeem address is "a 20-byte hash of a
single public key"). -/
def StakedStateAddress.tryFrom (data : Bytes) : Option StakedStateAddress :=
  if h : data.length = 20 then some (.basicRedeem ⟨data, h⟩) else none

/-- The `chain_core` operations that `query_handler` calls: `MerkleTree::decode`,
`MerkleTree::root_hash`, `MerkleTree::generate_proof`, `Proof::encode`,
`txid_hash`, the constant `TXID_HASH_ID`, and `StakedState::encode`. -/
structure ChainCore (Tree MerkleProof Account : Type) where
  decodeTree : Bytes → Except String Tree
  rootHash : Tree → H256
  generateProof : Tree → H256 → Option MerkleProof
  encodeProof : MerkleProof → Bytes
  txidHash : Bytes → H256
  txidHashId : Bytes
  encodeAccount : Account → Bytes

/-- The part of `ChainNodeState` the handler reads: the height and account
root of the last committed block. -/
structure ChainNodeState where
  lastBlockHeight : BitVec 64
  lastAccountRootHash : H256

/-- The state of `ChainNodeApp` that `query_handler` reads: the store, the
last committed state (`None` before the node is initialised), and
`get_account(&address, &root, &self.accounts)`. -/
structure ChainNodeApp (Account : Type) where
  storage : KeyValueDB
  lastState : Option ChainNodeState
  getAccount : StakedStateAddress → H256 → Except String Account

/-- `self.last_state.as_ref().map_or(0, |x| x.last_block_height)`, the tip. -/
def ChainNodeApp.lastHeight {Account : Type} (node : ChainNodeApp Account) : BitVec 64 :=
  node.lastState.elim 0 (·.lastBlockHeight)

end CryptoChain
