import CryptoChain.Node.QueryCodes

/-!
The `store` path with `prove` set: what the proof is, and when the handler
panics instead of answering.

* `proofHeight_eq`, `proofHeight_mem`: the proof height is the tip for a
  request height of `0` or beyond the tip and the request height otherwise, so
  it lies between `0` and the tip when both the request height and the tip are
  non-negative.
* `queryHandler_store_proof`: a `store` query with `prove` set, whose body and
  witness are read, answers code `0`, the body, and the inclusion proof of the
  transaction id in the tree stored under the app hash of the proof height,
  followed by the witness commitment.
* `queryHandler_error_only_in_storeProof`: the handler panics only on `store`
  with `prove` set, a body and a witness; `queryHandler_returns`: on a
  consistent store it answers every request whose height is not negative.
* `store_proof_rooted_below_zero` and `store_proof_panics_below_zero`: a
  negative request height is neither `0` nor beyond the tip, so it is used as
  it is: the handler answers from the app hash of a negative height when one
  is stored, and unwraps a missing one otherwise.
-/

namespace CryptoChain

variable {Tree MerkleProof Account : Type} (core : ChainCore Tree MerkleProof Account)

/-! ### The proof height -/

lemma proofHeight_eq (tip height : BitVec 64) :
    proofHeight tip height = if height = 0 ∨ tip.toInt < height.toInt then tip else height := by
  simp [proofHeight, BitVec.slt]

lemma proofHeight_mem {tip height : BitVec 64} (h0 : 0 ≤ height.toInt) (ht : 0 ≤ tip.toInt) :
    0 ≤ (proofHeight tip height).toInt ∧ (proofHeight tip height).toInt ≤ tip.toInt := by
  rw [proofHeight_eq]
  split
  · exact ⟨ht, Int.le_refl _⟩
  · rename_i h
    exact ⟨h0, by omega⟩

/-! ### The proof of a `store` query -/

/-- **The proof of a `store` query.** A `store` query with `prove` set, whose
body and witness `w` are read, answers code `0` with the body as value and,
when it returns, a proof rooted at the app state of `H`: the tip when the
request height is `0` or beyond the tip, the request height otherwise. Its
ops are the inclusion proof of the transaction id in the tree `T` stored under
the app hash of `H`, when `T` has one, followed by the witness commitment.
`H` lies between `0` and the tip when the request height and the tip are not
negative. -/
theorem queryHandler_store_proof (node : ChainNodeApp Account) (req : RequestQuery)
    (hpath : req.path = "store") (hprove : req.prove = true) {body w : Bytes}
    (hbody : node.storage.get .bodies req.data = .ok (some body))
    (hwit : node.storage.get .witness req.data = .ok (some w))
    {resp : ResponseQuery} (h : queryHandler core node req = .ok resp) :
    let tip := node.lastHeight
    let H := if req.height = 0 ∨ tip.toInt < req.height.toInt then tip else req.height
    resp.code = 0 ∧ resp.value = body ∧
    (∃ appHash data tree txid,
      node.storage.get .appStates (encodeVarVec H) = .ok (some appHash) ∧
      node.storage.get .merkleProofs appHash = .ok (some data) ∧
      core.decodeTree data = .ok tree ∧ txid.bytes = req.data ∧
      (∀ p, core.generateProof tree txid = some p →
        resp.proof = some ⟨[⟨"transaction", (core.rootHash tree).bytes, core.encodeProof p⟩,
          ⟨"witness", core.txidHashId, (core.txidHash w).bytes⟩]⟩) ∧
      (core.generateProof tree txid = none →
        resp.proof = some ⟨[⟨"witness", core.txidHashId, (core.txidHash w).bytes⟩]⟩)) ∧
    (0 ≤ req.height.toInt → 0 ≤ tip.toInt → 0 ≤ H.toInt ∧ H.toInt ≤ tip.toInt) := by
  intro tip H
  have hH : proofHeight tip req.height = H := proofHeight_eq _ _
  rw [queryHandler_store_of_stored core hpath hbody, if_pos hprove,
    storeProof_eq_ok_iff core hwit, hH] at h
  obtain ⟨appHash, data, tree, txid, ha, hd, ht, hx, rfl⟩ := h
  have htx : txid.bytes = req.data := by
    unfold H256.copyFromSlice at hx
    split at hx
    · cases hx
      rfl
    · cases hx
  refine ⟨rfl, rfl, ⟨appHash, data, tree, txid, ha, hd, ht, htx, fun p hp => ?_, fun hp => ?_⟩,
    fun h0 ht0 => hH ▸ proofHeight_mem h0 ht0⟩ <;>
    simp [proofOps, hp, getWitnessProofOp, intoProofOp]

/-- A `chain_core` whose Merkle trees all contain the transaction `H256.zero` of
`oneTxNode`, its inclusion proof being the id itself. -/
def oneLeafCore : ChainCore Unit H256 Unit where
  decodeTree _ := .ok ()
  rootHash _ := H256.zero
  generateProof _ txid := if txid = H256.zero then some txid else none
  encodeProof p := p.bytes
  txidHash _ := H256.zero
  txidHashId := [3]
  encodeAccount _ := []

/-- The proof query on `oneTxNode` at height `0` answers code `0` with the
body. Under `oneLeafCore`, whose tree contains the transaction, its proof is the
inclusion proof of the transaction followed by the witness commitment. -/
theorem one_tx_store_proof :
    queryHandler emptyTreeCore (oneTxNode []) (storeQuery 0) = .ok oneTxResponse ∧
      oneTxResponse.code = 0 ∧ oneTxResponse.value = [1] ∧
    ∃ resp, queryHandler oneLeafCore (oneTxNode []) (storeQuery 0) = .ok resp ∧
      resp.code = 0 ∧ resp.value = [1] ∧
      resp.proof = some ⟨[⟨"transaction", H256.zero.bytes, H256.zero.bytes⟩,
        ⟨"witness", [3], H256.zero.bytes⟩]⟩ :=
  have h := queryHandler_store_proof emptyTreeCore (oneTxNode []) (storeQuery 0) rfl rfl
    (oneTxNode_bodies []) (oneTxNode_witness []) (oneTxNode_answers [])
  have hl := queryHandler_store_proof oneLeafCore (oneTxNode []) (storeQuery 0) rfl rfl
    (oneTxNode_bodies []) (oneTxNode_witness []) (oneTxNode_store_answer oneLeafCore rfl [])
  ⟨oneTxNode_answers [], h.1, h.2.1, _, oneTxNode_store_answer oneLeafCore rfl [], hl.1, hl.2.1,
    by
      obtain ⟨_, _, _, ⟨bytes, hl⟩, -, -, -, hx, hp, -⟩ := hl.2.2.1
      subst hx
      exact hp _ rfl⟩

/-! ### Where the handler can panic -/

/-- The handler answers every request except, possibly, a `store` query with
`prove` set whose body and witness are read: the other paths never panic. -/
lemma queryHandler_error_only_in_storeProof (node : ChainNodeApp Account) (req : RequestQuery)
    {e : String} (h : queryHandler core node req = .error e) :
    req.path = "store" ∧ req.prove = true ∧
      (∃ v, node.storage.get .bodies req.data = .ok (some v)) ∧
      ∃ w, node.storage.get .witness req.data = .ok (some w) := by
  by_cases hpeer : isPeerFilter req.path = true
  · rw [queryHandler_of_peerFilter core node hpeer] at h
    cases h
  by_cases hs : req.path = "store"
  · by_cases hb : ∃ v, node.storage.get .bodies req.data = .ok (some v)
    · obtain ⟨v, hb⟩ := hb
      rw [queryHandler_store_of_stored core hs hb] at h
      split at h
      · rename_i hprove
        refine ⟨hs, hprove, ⟨v, hb⟩, ?_⟩
        by_contra hw
        rw [storeProof_of_no_witness core (fun w hw' => hw ⟨w, hw'⟩)] at h
        cases h
      · cases h
    · rw [queryHandler_store_of_not_stored core hs (fun v hv => hb ⟨v, hv⟩)] at h
      cases h
  by_cases hl : ∃ c, lookupPath req.path = some c
  · obtain ⟨⟨column, msg⟩, hl⟩ := hl
    rw [queryHandler_of_lookupPath core node hl] at h
    cases h
  by_cases ha : req.path = "account"
  · rw [queryHandler_account core node ha] at h
    cases h
  by_cases hm : req.path = "mockencrypt" ∨ req.path = "mockdecrypt"
  · rw [queryHandler_of_mock core node hm] at h
    cases h
  · have hk : req.path ∉ knownPaths := by
      simp only [knownPaths, List.mem_cons, List.mem_singleton, List.not_mem_nil, or_false]
      rintro (h' | h' | h' | h' | h' | h' | h') <;> simp_all [lookupPath]
    rw [queryHandler_of_invalid core node hk (by simpa using hpeer)] at h
    cases h

/-- Every height from `0` to the tip has an app hash in `COL_APP_STATES`, whose
Merkle tree is stored in `COL_MERKLE_PROOFS` and decodes. -/
def AppStatesStored (node : ChainNodeApp Account) : Prop :=
  ∀ h : BitVec 64, 0 ≤ h.toInt → h.toInt ≤ node.lastHeight.toInt →
    ∃ appHash data tree, node.storage.get .appStates (encodeVarVec h) = .ok (some appHash) ∧
      node.storage.get .merkleProofs appHash = .ok (some data) ∧ core.decodeTree data = .ok tree

/-- A store the handler can rely on: no read fails, the app states of the
heights up to the tip are stored, and every body is keyed by a 32-byte
transaction id. -/
structure StorageConsistent (node : ChainNodeApp Account) : Prop where
  reads_ok : ∀ column key, ∃ o, node.storage.get column key = .ok o
  app_states : AppStatesStored core node
  bodies_txid : ∀ key v, node.storage.get .bodies key = .ok (some v) → key.length = 32

/-- On a consistent store the handler answers, and does not panic on, every
request whose height is not negative, as long as the tip is not negative. -/
theorem queryHandler_returns {node : ChainNodeApp Account} (hc : StorageConsistent core node)
    (req : RequestQuery) (h0 : 0 ≤ req.height.toInt) (ht : 0 ≤ node.lastHeight.toInt) :
    ∃ resp, queryHandler core node req = .ok resp := by
  cases hq : queryHandler core node req with
  | ok resp => exact ⟨resp, rfl⟩
  | error e =>
    obtain ⟨hs, hprove, ⟨v, hb⟩, ⟨w, hw⟩⟩ := queryHandler_error_only_in_storeProof core node req hq
    obtain ⟨appHash, data, tree, ha, hd, htree⟩ :=
      hc.app_states _ (proofHeight_mem h0 ht).1 (proofHeight_mem h0 ht).2
    have hx := H256.copyFromSlice_of_length (hc.bodies_txid _ _ hb)
    rw [queryHandler_store_of_stored core hs hb, if_pos hprove] at hq
    have hok : storeProof core node req { ResponseQuery.new with value := v } = .ok _ :=
      (storeProof_eq_ok_iff core hw).mpr ⟨appHash, data, tree, _, ha, hd, htree, hx, rfl⟩
    rw [hok] at hq
    cases hq

lemma oneTxNode_appStatesStored (extra : List (Column × Bytes × Bytes)) :
    AppStatesStored emptyTreeCore (oneTxNode extra) := by
  intro h h0 ht
  have h00 : (0 : BitVec 64).toInt = 0 := by decide
  rw [show (oneTxNode extra).lastHeight = 0 from rfl, h00] at ht
  have : h = 0 := BitVec.toInt_inj.mp (by omega)
  subst this
  exact ⟨H256.zero.bytes, [], (), oneTxNode_appState_zero _, oneTxNode_tree _, rfl⟩

lemma oneTxNode_storageConsistent : StorageConsistent emptyTreeCore (oneTxNode []) := by
  refine ⟨fun _ _ => ⟨_, rfl⟩, oneTxNode_appStatesStored _, fun key v hv => ?_⟩
  by_cases hk : key = H256.zero.bytes
  · exact hk ▸ H256.zero.length_eq
  · simp [oneTxNode, KeyValueDB.ofList, Ne.symm hk] at hv

/-- A `store` proof at a height beyond the tip of `oneTxNode` is answered. -/
theorem oneTxNode_returns_beyond_tip :
    StorageConsistent emptyTreeCore (oneTxNode []) ∧ 0 ≤ (storeQuery 5).height.toInt ∧
      0 ≤ (oneTxNode []).lastHeight.toInt ∧
      ∃ resp, queryHandler emptyTreeCore (oneTxNode []) (storeQuery 5) = .ok resp :=
  ⟨oneTxNode_storageConsistent, by decide, by decide,
    queryHandler_returns _ oneTxNode_storageConsistent _ (by decide) (by decide)⟩

/-! ### A negative request height -/

lemma oneTxNode_proofHeight (extra : List (Column × Bytes × Bytes)) :
    proofHeight (oneTxNode extra).lastHeight (storeQuery (-1)).height = -1 := by
  show proofHeight 0 (-1) = -1
  decide

/-- With an app hash also stored under the key of height `-1`, a `store`
proof at height `-1` is answered with code `0`, rooted at the app state of
height `-1`, which lies below `0`. -/
theorem store_proof_rooted_below_zero :
    let node := oneTxNode [(.appStates, [1], H256.zero.bytes)]
    let H := if (storeQuery (-1)).height = 0 ∨ node.lastHeight.toInt < (storeQuery (-1)).height.toInt
      then node.lastHeight else (storeQuery (-1)).height
    AppStatesStored emptyTreeCore node ∧
      (∃ resp, queryHandler emptyTreeCore node (storeQuery (-1)) = .ok resp ∧ resp.code = 0) ∧
      ¬ 0 ≤ H.toInt := by
  intro node H
  have hH : H = -1 := by decide
  have ha : node.storage.get .appStates (encodeVarVec (-1)) = .ok (some H256.zero.bytes) := by
    rw [encodeVarVec_neg_one]
    simp [node, oneTxNode, KeyValueDB.ofList]
  refine ⟨oneTxNode_appStatesStored _,
    ⟨{ ResponseQuery.new with value := [1], proof := some ⟨proofOps emptyTreeCore () H256.zero [2]⟩ },
      ?_, rfl⟩, by rw [hH]; decide⟩
  rw [queryHandler_store_of_stored emptyTreeCore (by rfl) (oneTxNode_bodies _),
    if_pos (show (storeQuery (-1)).prove = true from rfl),
    storeProof_eq_ok_iff emptyTreeCore (oneTxNode_witness _), oneTxNode_proofHeight]
  exact ⟨H256.zero.bytes, [], (), H256.zero, ha, by simp [node, oneTxNode, KeyValueDB.ofList], rfl,
    H256.copyFromSlice_of_length H256.zero.length_eq, rfl⟩

/-- Without it, the same query on a consistent store panics on the
`unwrap` of the missing app hash. -/
theorem store_proof_panics_below_zero :
    StorageConsistent emptyTreeCore (oneTxNode []) ∧
      queryHandler emptyTreeCore (oneTxNode []) (storeQuery (-1)) =
        .error "called `Option::unwrap()` on a `None` value" := by
  refine ⟨⟨fun _ _ => ⟨_, rfl⟩, oneTxNode_appStatesStored _, fun key v hv => ?_⟩, ?_⟩
  · by_cases hk : key = H256.zero.bytes
    · exact hk ▸ H256.zero.length_eq
    · simp [oneTxNode, KeyValueDB.ofList, Ne.symm hk] at hv
  · have ha : (oneTxNode []).storage.get .appStates (encodeVarVec (-1)) = .ok none := by
      rw [encodeVarVec_neg_one]
      simp [oneTxNode, KeyValueDB.ofList]
    rw [queryHandler_store_of_stored emptyTreeCore (by rfl) (oneTxNode_bodies _),
    if_pos (show (storeQuery (-1)).prove = true from rfl)]
    simp only [storeProof, oneTxNode_witness, oneTxNode_proofHeight, ha, unwrapRead]
    rfl

end CryptoChain
