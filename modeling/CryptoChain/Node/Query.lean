import CryptoChain.Node.Abci

/-!
`ChainNodeApp::query_handler` (`chain-abci/src/app/query.rs`) and the helpers
it calls, with one equation lemma for each path it dispatches on.

A panic of the handler (an `unwrap` on a missing value, the `expect` on the
Merkle tree, `copy_from_slice` on a slice of the wrong length) is an `error`
carrying the panic message; a response the handler returns is `ok`.

* `lookup`: the shared read of `store`, `meta`, `witness` and `merkle`; it
  sets the value on a hit and code `1` with a log line on anything else,
  `lookup_of_stored` and `lookup_of_not_stored`.
* `storeProof`: the `prove` part of `store`, rooted at `proofHeight`, the tip
  for a height of `0` or beyond the tip and the requested height otherwise.
* `accountQuery`: the `account` path.
* `queryHandler` and its equations: `queryHandler_of_peerFilter`,
  `queryHandler_store`, `queryHandler_of_lookupPath`, `queryHandler_account`,
  `queryHandler_of_mock` and `queryHandler_of_invalid`.
-/

namespace CryptoChain

variable {Tree MerkleProof Account : Type} (core : ChainCore Tree MerkleProof Account)

/-- `str::starts_with`, read on characters. -/
def startsWith (s pre : String) : Bool := pre.toList.isPrefixOf s.toList

/-- The peer-filter paths `/p2p/filter/addr/<IP:PORT>` and `p2p/filter/id/<ID>`
that Tendermint queries when it connects to a peer. -/
def isPeerFilter (path : String) : Bool := startsWith path "/p2p" || startsWith path "p2p"

/-- `get_witness_proof_op`: the witness commitment, keyed by `TXID_HASH_ID`. -/
def getWitnessProofOp (witness : Bytes) : ProofOp :=
  ⟨"witness", core.txidHashId, (core.txidHash witness).bytes⟩

/-- `into_proof_op`: an inclusion proof under a Merkle root. -/
def intoProofOp (rootHash : H256) (proof : MerkleProof) : ProofOp :=
  ⟨"transaction", rootHash.bytes, core.encodeProof proof⟩

/-- `resp.log += msg; resp.code = code;`, the way every failing branch reports. -/
def ResponseQuery.logError (resp : ResponseQuery) (msg : String) (code : UInt32) : ResponseQuery :=
  { resp with log := resp.log ++ msg, code := code }

/-- `handle_enc_dec` in a build without the `mock-enc-dec` feature. -/
def handleEncDec (resp : ResponseQuery) : ResponseQuery :=
  resp.logError "received a temporary *mock* encryption/decryption query in abci (use the dedicated enclaves instead)" 1

/-- `ChainNodeApp::lookup`: find a key under a column, or log an error. -/
def lookup (db : KeyValueDB) (resp : ResponseQuery) (column : Column) (key : Bytes)
    (logMessage : String) : ResponseQuery :=
  match db.get column key with
  | .ok (some uv) => { resp with value := uv }
  | _ => resp.logError logMessage 1

/-- `db.get(..).unwrap().unwrap()`: the `Result` first, then the `Option`. -/
def unwrapRead : Except String (Option Bytes) → Except String Bytes
  | .ok (some v) => .ok v
  | .ok none => .error "called `Option::unwrap()` on a `None` value"
  | .error e => .error ("called `Result::unwrap()` on an `Err` value: " ++ e)

/-- `Result::expect(msg)`. -/
def expect {α : Type} (msg : String) : Except String α → Except String α
  | .ok a => .ok a
  | .error e => .error (msg ++ ": " ++ e)

/-- The height a `store` proof is rooted at: the tip when the request asks for
height `0` or for a height beyond the tip, the requested height otherwise. -/
def proofHeight (lastHeight height : BitVec 64) : BitVec 64 :=
  if height == 0 || lastHeight.slt height then lastHeight else height

/-- The proof of a `store` query: the inclusion proof of the transaction id in
the tree when the tree has one, then the witness commitment. -/
def proofOps (tree : Tree) (txid : H256) (witness : Bytes) : List ProofOp :=
  match core.generateProof tree txid with
  | none => [getWitnessProofOp core witness]
  | some mp => [intoProofOp core (core.rootHash tree) mp, getWitnessProofOp core witness]

/-- The `prove` part of the `store` path (`query.rs`, lines 172-219), run once
the body was found. -/
def storeProof (node : ChainNodeApp Account) (req : RequestQuery) (resp : ResponseQuery) :
    Except String ResponseQuery :=
  match node.storage.get .witness req.data with
  | .ok (some witness) => do
      let height := proofHeight node.lastHeight req.height
      let appHash ← unwrapRead (node.storage.get .appStates (encodeVarVec height))
      let data ← unwrapRead (node.storage.get .merkleProofs appHash)
      let tree ← expect "merkle tree" (core.decodeTree data)
      let txid ← H256.copyFromSlice req.data
      pure { resp with proof := some ⟨proofOps core tree txid witness⟩ }
  | _ => .ok (resp.logError "proof error: witness not found" 2)

/-- The `account` path: the staked state at the last account root. -/
def accountQuery (node : ChainNodeApp Account) (req : RequestQuery) (resp : ResponseQuery) :
    ResponseQuery :=
  match node.lastState, StakedStateAddress.tryFrom req.data with
  | some state, some address =>
      match node.getAccount address state.lastAccountRootHash with
      | .ok a => { resp with value := core.encodeAccount a }
      | .error e => resp.logError ("account lookup failed: " ++ e) 1
  | _, _ =>
      resp.logError "account lookup failed (either invalid address or node not correctly restored / initialized)" 3

/-- **`ChainNodeApp::query_handler`**. -/
def queryHandler (node : ChainNodeApp Account) (req : RequestQuery) :
    Except String ResponseQuery :=
  let resp := ResponseQuery.new
  if isPeerFilter req.path then .ok resp else
  match req.path with
  | "mockencrypt" => .ok (handleEncDec resp)
  | "mockdecrypt" => .ok (handleEncDec resp)
  | "store" =>
      let resp := lookup node.storage resp .bodies req.data "tx not found"
      if req.prove && resp.code == 0 then storeProof core node req resp else .ok resp
  | "meta" => .ok (lookup node.storage resp .txMeta req.data "tx not found")
  | "witness" => .ok (lookup node.storage resp .witness req.data "tx not found")
  | "merkle" => .ok (lookup node.storage resp .merkleProofs req.data "app state not found")
  | "account" => .ok (accountQuery core node req resp)
  | _ => .ok (resp.logError "invalid path" 1)

/-! ### The shared lookup -/

section Lookup

variable {db : KeyValueDB} {resp : ResponseQuery} {column : Column} {key : Bytes} {msg : String}

lemma lookup_of_stored {v : Bytes} (h : db.get column key = .ok (some v)) :
    lookup db resp column key msg = { resp with value := v } := by
  simp [lookup, h]

lemma lookup_of_not_stored (h : ∀ v, db.get column key ≠ .ok (some v)) :
    lookup db resp column key msg = resp.logError msg 1 := by
  unfold lookup
  split
  · exact absurd ‹_› (h _)
  · rfl

end Lookup

/-! ### The proof of a `store` query -/

section StoreProof

variable {node : ChainNodeApp Account} {req : RequestQuery} {resp r : ResponseQuery}

lemma bind_eq_ok {ε α β : Type} {x : Except ε α} {f : α → Except ε β} {b : β} :
    x >>= f = .ok b ↔ ∃ a, x = .ok a ∧ f a = .ok b := by
  cases x <;> simp [bind, Except.bind]

@[simp] lemma unwrapRead_eq_ok {x : Except String (Option Bytes)} {v : Bytes} :
    unwrapRead x = .ok v ↔ x = .ok (some v) := by
  rcases x with e | _ | w <;> simp [unwrapRead]

@[simp] lemma expect_eq_ok {α : Type} {msg : String} {x : Except String α} {a : α} :
    expect msg x = .ok a ↔ x = .ok a := by
  cases x <;> simp [expect]

/-- With the witness stored, the proof is built exactly when the app hash of
`proofHeight`, its tree and the transaction id can all be read. -/
lemma storeProof_eq_ok_iff {w : Bytes} (hw : node.storage.get .witness req.data = .ok (some w)) :
    storeProof core node req resp = .ok r ↔
      ∃ appHash data tree txid,
        node.storage.get .appStates (encodeVarVec (proofHeight node.lastHeight req.height)) =
          .ok (some appHash) ∧
        node.storage.get .merkleProofs appHash = .ok (some data) ∧
        core.decodeTree data = .ok tree ∧ H256.copyFromSlice req.data = .ok txid ∧
        r = { resp with proof := some ⟨proofOps core tree txid w⟩ } := by
  simp only [storeProof, hw, bind_eq_ok, unwrapRead_eq_ok, expect_eq_ok]
  constructor
  · rintro ⟨a, ha, d, hd, t, ht, x, hx, hr⟩
    exact ⟨a, d, t, x, ha, hd, ht, hx, (Except.ok.inj hr).symm⟩
  · rintro ⟨a, d, t, x, ha, hd, ht, hx, rfl⟩
    exact ⟨a, ha, d, hd, t, ht, x, hx, rfl⟩

lemma storeProof_of_no_witness (hw : ∀ w, node.storage.get .witness req.data ≠ .ok (some w)) :
    storeProof core node req resp = .ok (resp.logError "proof error: witness not found" 2) := by
  unfold storeProof
  split
  · exact absurd ‹_› (hw _)
  · rfl

end StoreProof

/-! ### One equation for each path -/

section Paths

variable (node : ChainNodeApp Account) {req : RequestQuery}

/-- The column and the log line of the paths answered by `lookup` alone. -/
def lookupPath : String → Option (Column × String)
  | "meta" => some (.txMeta, "tx not found")
  | "witness" => some (.witness, "tx not found")
  | "merkle" => some (.merkleProofs, "app state not found")
  | _ => none

/-- The paths `query_handler` dispatches on. -/
def knownPaths : List String :=
  ["mockencrypt", "mockdecrypt", "store", "meta", "witness", "merkle", "account"]

lemma isPeerFilter_of_mem_knownPaths {path : String} (h : path ∈ knownPaths) :
    isPeerFilter path = false := by
  simp only [knownPaths, List.mem_cons, List.mem_singleton, List.not_mem_nil, or_false] at h
  rcases h with rfl | rfl | rfl | rfl | rfl | rfl | rfl <;> decide

lemma mem_knownPaths_of_lookupPath {path : String} {c : Column × String}
    (h : lookupPath path = some c) : path ∈ knownPaths := by
  unfold lookupPath at h
  split at h <;> simp_all [knownPaths]

lemma queryHandler_of_peerFilter (h : isPeerFilter req.path = true) :
    queryHandler core node req = .ok .new := by
  simp [queryHandler, h]

lemma queryHandler_store (hp : req.path = "store") :
    queryHandler core node req =
      let resp := lookup node.storage .new .bodies req.data "tx not found"
      if req.prove && resp.code == 0 then storeProof core node req resp else .ok resp := by
  have hpeer : isPeerFilter req.path = false :=
    isPeerFilter_of_mem_knownPaths (by simp [hp, knownPaths])
  simp only [queryHandler, hpeer, hp]
  rfl

lemma queryHandler_of_lookupPath {column : Column} {msg : String}
    (hp : lookupPath req.path = some (column, msg)) :
    queryHandler core node req = .ok (lookup node.storage .new column req.data msg) := by
  have hpeer := isPeerFilter_of_mem_knownPaths (mem_knownPaths_of_lookupPath hp)
  unfold lookupPath at hp
  split at hp <;> simp only [Option.some.injEq, Prod.mk.injEq, reduceCtorEq] at hp <;>
    obtain ⟨rfl, rfl⟩ := hp <;> simp only [queryHandler, hpeer, *] <;> rfl

lemma queryHandler_account (hp : req.path = "account") :
    queryHandler core node req = .ok (accountQuery core node req .new) := by
  have hpeer : isPeerFilter req.path = false :=
    isPeerFilter_of_mem_knownPaths (by simp [hp, knownPaths])
  simp only [queryHandler, hpeer, hp]
  rfl

lemma queryHandler_of_mock (hp : req.path = "mockencrypt" ∨ req.path = "mockdecrypt") :
    queryHandler core node req = .ok (handleEncDec .new) := by
  have hpeer : isPeerFilter req.path = false :=
    isPeerFilter_of_mem_knownPaths (by rcases hp with hp | hp <;> simp [hp, knownPaths])
  rcases hp with hp | hp <;> simp only [queryHandler, hpeer, hp] <;> rfl

lemma queryHandler_of_invalid (hp : req.path ∉ knownPaths) (hpeer : isPeerFilter req.path = false) :
    queryHandler core node req = .ok (ResponseQuery.new.logError "invalid path" 1) := by
  simp only [knownPaths, List.mem_cons, List.mem_singleton, not_or] at hp
  obtain ⟨h1, h2, h3, h4, h5, h6, h7, -⟩ := hp
  simp only [queryHandler, hpeer]
  split <;> simp_all

end Paths

end CryptoChain
