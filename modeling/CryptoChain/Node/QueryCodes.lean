import CryptoChain.Node.Query

/-!
The codes and logs of `query_handler`'s responses, path by path.

* `Reported`: a response is either clean (code `0`, empty log) or failed (a
  non-zero code and a non-empty log). Every response the handler returns is
  reported (`queryHandler_reported`), so its code is non-zero exactly when its
  log is non-empty.
* `queryHandler_response_codes`: the code of every path. The `lookup` paths
  answer `1` exactly when the read of the key does not return a value, an
  I/O error included, since `lookup` folds every failed read into "not found";
  `response_code_one_on_io_error` is a read that fails on a present key.
-/

namespace CryptoChain

variable {Tree MerkleProof Account : Type} (core : ChainCore Tree MerkleProof Account)

@[simp] lemma ResponseQuery.logError_code (resp : ResponseQuery) (msg : String) (c : UInt32) :
    (resp.logError msg c).code = c := rfl

@[simp] lemma ResponseQuery.logError_value (resp : ResponseQuery) (msg : String) (c : UInt32) :
    (resp.logError msg c).value = resp.value := rfl

@[simp] lemma ResponseQuery.new_code : ResponseQuery.new.code = 0 := rfl

@[simp] lemma ResponseQuery.new_value : ResponseQuery.new.value = [] := rfl

lemma String.append_ne_empty_of_left {s t : String} (h : s ≠ "") : s ++ t ≠ "" := by
  intro h'
  apply h
  have := congrArg String.data h'
  simp only [String.data_append, List.append_eq_nil] at this
  exact String.ext this.1

lemma String.append_ne_empty_of_right {s t : String} (h : t ≠ "") : s ++ t ≠ "" := by
  intro h'
  apply h
  have := congrArg String.data h'
  simp only [String.data_append, List.append_eq_nil] at this
  exact String.ext this.2

/-! ### Clean and failed responses -/

/-- A clean response (code `0`, empty log) or a failed one (non-zero code,
non-empty log). -/
def Reported (r : ResponseQuery) : Prop :=
  (r.code = 0 ∧ r.log = "") ∨ (r.code ≠ 0 ∧ r.log ≠ "")

lemma Reported.code_ne_zero_iff {r : ResponseQuery} (h : Reported r) :
    r.code ≠ 0 ↔ r.log ≠ "" := by
  rcases h with ⟨h1, h2⟩ | ⟨h1, h2⟩ <;> simp_all

lemma reported_new : Reported .new := .inl ⟨rfl, rfl⟩

lemma Reported.with_value {r : ResponseQuery} (h : Reported r) (v : Bytes) :
    Reported { r with value := v } := h

lemma Reported.with_proof {r : ResponseQuery} (h : Reported r) (p : Option Proof) :
    Reported { r with proof := p } := h

lemma reported_logError (r : ResponseQuery) {msg : String} {c : UInt32} (hmsg : msg ≠ "")
    (hc : c ≠ 0) : Reported (r.logError msg c) :=
  .inr ⟨hc, String.append_ne_empty_of_right hmsg⟩

lemma Reported.lookup {r : ResponseQuery} (h : Reported r) (db : KeyValueDB) (column : Column)
    (key : Bytes) {msg : String} (hmsg : msg ≠ "") : Reported (CryptoChain.lookup db r column key msg) := by
  unfold CryptoChain.lookup
  split
  · exact h.with_value _
  · exact reported_logError r hmsg (by decide)

/-! ### The `store` path -/

section Store

variable {node : ChainNodeApp Account} {req : RequestQuery} {resp : ResponseQuery}

lemma queryHandler_store_of_not_stored (hp : req.path = "store")
    (hb : ∀ v, node.storage.get .bodies req.data ≠ .ok (some v)) :
    queryHandler core node req = .ok (ResponseQuery.new.logError "tx not found" 1) := by
  rw [queryHandler_store core node hp, lookup_of_not_stored hb]
  simp

lemma queryHandler_store_of_stored (hp : req.path = "store") {v : Bytes}
    (hb : node.storage.get .bodies req.data = .ok (some v)) :
    queryHandler core node req =
      if req.prove then storeProof core node req { ResponseQuery.new with value := v }
      else .ok { ResponseQuery.new with value := v } := by
  rw [queryHandler_store core node hp, lookup_of_stored hb]
  cases req.prove <;> rfl

/-- A `store` proof keeps the value and the code when the witness is stored,
and fails with code `2` when it is not. -/
lemma storeProof_result {r : ResponseQuery} (h : storeProof core node req resp = .ok r) :
    r.value = resp.value ∧
    ((∃ w, node.storage.get .witness req.data = .ok (some w)) →
      ∃ p, r = { resp with proof := p }) ∧
    ((¬∃ w, node.storage.get .witness req.data = .ok (some w)) →
      r = resp.logError "proof error: witness not found" 2) := by
  by_cases hw : ∃ w, node.storage.get .witness req.data = .ok (some w)
  · obtain ⟨w, hw⟩ := hw
    obtain ⟨-, -, t, x, -, -, -, -, rfl⟩ := (storeProof_eq_ok_iff core hw).mp h
    exact ⟨rfl, fun _ => ⟨_, rfl⟩, fun hn => absurd ⟨w, hw⟩ hn⟩
  · rw [storeProof_of_no_witness core (fun w hw' => hw ⟨w, hw'⟩)] at h
    cases h
    exact ⟨rfl, fun hw' => absurd hw' hw, fun _ => rfl⟩

lemma Reported.storeProof {r : ResponseQuery} (hr : Reported resp)
    (h : storeProof core node req resp = .ok r) : Reported r := by
  obtain ⟨-, hyes, hno⟩ := storeProof_result core h
  by_cases hw : ∃ w, node.storage.get .witness req.data = .ok (some w)
  · obtain ⟨p, rfl⟩ := hyes hw
    exact hr.with_proof p
  · rw [hno hw]
    exact reported_logError _ (by decide) (by decide)

end Store

/-! ### The `account` path -/

section Account

variable {node : ChainNodeApp Account} {req : RequestQuery} {resp : ResponseQuery}

lemma accountQuery_of_invalid
    (h : node.lastState = none ∨ StakedStateAddress.tryFrom req.data = none) :
    accountQuery core node req resp = resp.logError
      "account lookup failed (either invalid address or node not correctly restored / initialized)" 3 := by
  unfold accountQuery
  rcases h with h | h <;> split <;> simp_all

section Valid

variable {state : ChainNodeState} {address : StakedStateAddress}
  (hs : node.lastState = some state) (ha : StakedStateAddress.tryFrom req.data = some address)
include hs ha

lemma accountQuery_of_found {a : Account}
    (hg : node.getAccount address state.lastAccountRootHash = .ok a) :
    accountQuery core node req resp = { resp with value := core.encodeAccount a } := by
  simp only [accountQuery, hs, ha, hg]

lemma accountQuery_of_lookup_error {e : String}
    (hg : node.getAccount address state.lastAccountRootHash = .error e) :
    accountQuery core node req resp = resp.logError ("account lookup failed: " ++ e) 1 := by
  simp only [accountQuery, hs, ha, hg]

end Valid

lemma Reported.accountQuery (hr : Reported resp) : Reported (accountQuery core node req resp) := by
  by_cases h : node.lastState = none ∨ StakedStateAddress.tryFrom req.data = none
  · rw [accountQuery_of_invalid core h]
    exact reported_logError _ (by decide) (by decide)
  · obtain ⟨state, hs⟩ := Option.ne_none_iff_exists'.mp (not_or.mp h).1
    obtain ⟨address, ha⟩ := Option.ne_none_iff_exists'.mp (not_or.mp h).2
    cases hg : node.getAccount address state.lastAccountRootHash with
    | ok a =>
      rw [accountQuery_of_found core hs ha hg]
      exact hr.with_value _
    | error e =>
      rw [accountQuery_of_lookup_error core hs ha hg]
      exact reported_logError _ (String.append_ne_empty_of_left (by decide)) (by decide)

end Account

/-- Every response the handler returns is clean or failed: its code is
non-zero exactly when its log is non-empty. -/
theorem queryHandler_reported (node : ChainNodeApp Account) (req : RequestQuery)
    {resp : ResponseQuery} (h : queryHandler core node req = .ok resp) : Reported resp := by
  by_cases hpeer : isPeerFilter req.path = true
  · rw [queryHandler_of_peerFilter core node hpeer] at h
    cases h
    exact reported_new
  by_cases hs : req.path = "store"
  · by_cases hb : ∃ v, node.storage.get .bodies req.data = .ok (some v)
    · obtain ⟨v, hb⟩ := hb
      rw [queryHandler_store_of_stored core hs hb] at h
      split at h
      · exact (reported_new.with_value v).storeProof core h
      · cases h
        exact reported_new.with_value v
    · rw [queryHandler_store_of_not_stored core hs (fun v hv => hb ⟨v, hv⟩)] at h
      cases h
      exact reported_logError _ (by decide) (by decide)
  by_cases hl : ∃ c, lookupPath req.path = some c
  · obtain ⟨⟨column, msg⟩, hl⟩ := hl
    rw [queryHandler_of_lookupPath core node hl] at h
    cases h
    refine reported_new.lookup _ _ _ ?_
    unfold lookupPath at hl
    split at hl <;> simp only [Option.some.injEq, Prod.mk.injEq, reduceCtorEq] at hl <;>
      obtain ⟨-, rfl⟩ := hl <;> decide
  by_cases ha : req.path = "account"
  · rw [queryHandler_account core node ha] at h
    cases h
    exact reported_new.accountQuery core
  by_cases hm : req.path = "mockencrypt" ∨ req.path = "mockdecrypt"
  · rw [queryHandler_of_mock core node hm] at h
    cases h
    exact reported_logError _ (by decide) (by decide)
  · have hk : req.path ∉ knownPaths := by
      simp only [knownPaths, List.mem_cons, List.mem_singleton, List.not_mem_nil, or_false]
      rintro (h' | h' | h' | h' | h' | h' | h') <;> simp_all [lookupPath]
    rw [queryHandler_of_invalid core node hk (by simpa using hpeer)] at h
    cases h
    exact reported_logError _ (by decide) (by decide)

/-! ### A store holding one transaction -/

/-- A `chain_core` whose Merkle trees decode from any bytes and contain no
transaction, to run the handler on concrete stores. -/
def emptyTreeCore : ChainCore Unit Unit Unit where
  decodeTree _ := .ok ()
  rootHash _ := H256.zero
  generateProof _ _ := none
  encodeProof _ := []
  txidHash _ := H256.zero
  txidHashId := []
  encodeAccount _ := []

/-- A store holding the given entries; its reads never fail. -/
def KeyValueDB.ofList (entries : List (Column × Bytes × Bytes)) : KeyValueDB :=
  ⟨fun c k => .ok ((entries.find? fun e => e.1 = c ∧ e.2.1 = k).map (·.2.2))⟩

/-- A node at tip `0`, with one transaction (id `H256.zero`) whose body and
witness are stored, the app hash of height `0`, and its tree; `extra` adds
entries. -/
def oneTxNode (extra : List (Column × Bytes × Bytes)) : ChainNodeApp Unit :=
  ⟨KeyValueDB.ofList ([(.bodies, H256.zero.bytes, [1]), (.witness, H256.zero.bytes, [2]),
    (.appStates, [0], H256.zero.bytes), (.merkleProofs, H256.zero.bytes, [])] ++ extra),
    none, fun _ _ => .error "no accounts"⟩

/-- A `store` query with `prove` set for that transaction. -/
def storeQuery (height : BitVec 64) : RequestQuery := ⟨H256.zero.bytes, "store", height, true⟩

lemma oneTxNode_bodies (extra : List (Column × Bytes × Bytes)) :
    (oneTxNode extra).storage.get .bodies H256.zero.bytes = .ok (some [1]) := by
  simp [oneTxNode, KeyValueDB.ofList]

lemma oneTxNode_witness (extra : List (Column × Bytes × Bytes)) :
    (oneTxNode extra).storage.get .witness H256.zero.bytes = .ok (some [2]) := by
  simp [oneTxNode, KeyValueDB.ofList]

lemma oneTxNode_appState_zero (extra : List (Column × Bytes × Bytes)) :
    (oneTxNode extra).storage.get .appStates (encodeVarVec 0) = .ok (some H256.zero.bytes) := by
  rw [encodeVarVec_zero]
  simp [oneTxNode, KeyValueDB.ofList]

lemma oneTxNode_tree (extra : List (Column × Bytes × Bytes)) :
    (oneTxNode extra).storage.get .merkleProofs H256.zero.bytes = .ok (some []) := by
  simp [oneTxNode, KeyValueDB.ofList]

/-- The answer to a proof at height `0`: the body, proved by the witness
commitment alone, since the tree holds no transaction. -/
def oneTxResponse : ResponseQuery :=
  { ResponseQuery.new with value := [1], proof := some ⟨proofOps emptyTreeCore () H256.zero [2]⟩ }

/-- The proof query at height `0` on `oneTxNode`, under any core that decodes the stored
tree. -/
lemma oneTxNode_store_answer {Tree MerkleProof : Type} (core : ChainCore Tree MerkleProof Unit)
    {tree : Tree} (ht : core.decodeTree [] = .ok tree) (extra : List (Column × Bytes × Bytes)) :
    queryHandler core (oneTxNode extra) (storeQuery 0) =
      .ok { ResponseQuery.new with
        value := [1], proof := some ⟨proofOps core tree H256.zero [2]⟩ } := by
  rw [queryHandler_store_of_stored core (by rfl) (oneTxNode_bodies _),
    if_pos (show (storeQuery 0).prove = true from rfl),
    storeProof_eq_ok_iff core (oneTxNode_witness _),
    show proofHeight (oneTxNode extra).lastHeight (storeQuery 0).height = 0 from
      show proofHeight 0 0 = 0 by decide]
  exact ⟨_, _, tree, H256.zero, oneTxNode_appState_zero _, oneTxNode_tree _, ht,
    H256.copyFromSlice_of_length H256.zero.length_eq, rfl⟩

lemma oneTxNode_answers (extra : List (Column × Bytes × Bytes)) :
    queryHandler emptyTreeCore (oneTxNode extra) (storeQuery 0) = .ok oneTxResponse :=
  oneTxNode_store_answer emptyTreeCore rfl extra

/-! ### The code of every path -/

/-- The column each `lookup` path reads: `COL_BODIES` for `store`,
`COL_TX_META` for `meta`, `COL_WITNESS` for `witness` and `COL_MERKLE_PROOFS`
for `merkle`. -/
def queryColumn : String → Option Column
  | "store" => some .bodies
  | "meta" => some .txMeta
  | "witness" => some .witness
  | "merkle" => some .merkleProofs
  | _ => none

section Codes

variable {node : ChainNodeApp Account} {req : RequestQuery} {resp : ResponseQuery}

lemma lookup_new_code {db : KeyValueDB} {column : Column} {key : Bytes} {msg : String} :
    ((lookup db .new column key msg).code = 1 ↔ ¬∃ v, db.get column key = .ok (some v)) ∧
    ∀ v, db.get column key = .ok (some v) → (lookup db .new column key msg).value = v := by
  by_cases hv : ∃ v, db.get column key = .ok (some v)
  · obtain ⟨v, hv⟩ := hv
    simp only [lookup_of_stored hv]
    exact ⟨by simp [hv], fun w hw => by simpa [hv] using hw⟩
  · rw [lookup_of_not_stored (fun v h => hv ⟨v, h⟩)]
    exact ⟨by simpa using hv, fun v h => absurd ⟨v, h⟩ hv⟩

lemma lookupPath_of_queryColumn {column : Column} (hs : req.path ≠ "store")
    (hc : queryColumn req.path = some column) : ∃ msg, lookupPath req.path = some (column, msg) := by
  unfold queryColumn at hc
  split at hc <;> simp_all [lookupPath]

/-- The `lookup` paths answer `1` exactly when the read of the key returns no
value, and the stored bytes otherwise; a `store` proof keeps both. -/
lemma queryHandler_lookup_code (h : queryHandler core node req = .ok resp) {column : Column}
    (hc : queryColumn req.path = some column) :
    (resp.code = 1 ↔ ¬∃ v, node.storage.get column req.data = .ok (some v)) ∧
    ∀ v, node.storage.get column req.data = .ok (some v) → resp.value = v := by
  by_cases hs : req.path = "store"
  · obtain rfl : column = .bodies := by simpa [hs, queryColumn] using hc.symm
    by_cases hb : ∃ v, node.storage.get .bodies req.data = .ok (some v)
    · obtain ⟨v, hb⟩ := hb
      rw [queryHandler_store_of_stored core hs hb] at h
      have hval : resp.value = v ∧ resp.code ≠ 1 := by
        split at h
        · obtain ⟨hv, hyes, hno⟩ := storeProof_result core h
          refine ⟨hv, ?_⟩
          by_cases hw : ∃ w, node.storage.get .witness req.data = .ok (some w)
          · obtain ⟨p, rfl⟩ := hyes hw
            simp [ResponseQuery.new]
          · rw [hno hw]
            simp [ResponseQuery.new]
        · cases h
          exact ⟨rfl, by simp [ResponseQuery.new]⟩
      refine ⟨⟨fun h1 => absurd h1 hval.2, fun hn => absurd ⟨v, hb⟩ hn⟩, fun w hw => ?_⟩
      rw [hb] at hw
      cases hw
      exact hval.1
    · rw [queryHandler_store_of_not_stored core hs (fun v hv => hb ⟨v, hv⟩)] at h
      cases h
      exact ⟨by simpa using hb, fun v hv => absurd ⟨v, hv⟩ hb⟩
  · obtain ⟨msg, hl⟩ := lookupPath_of_queryColumn hs hc
    rw [queryHandler_of_lookupPath core node hl] at h
    cases h
    exact lookup_new_code

/-- With `prove` set and the body found, `store` answers `2` exactly when no
witness is read, and `0` otherwise. -/
lemma queryHandler_store_prove_code (h : queryHandler core node req = .ok resp)
    (hs : req.path = "store") (hprove : req.prove = true)
    (hb : ∃ v, node.storage.get .bodies req.data = .ok (some v)) :
    (resp.code = 2 ↔ ¬∃ w, node.storage.get .witness req.data = .ok (some w)) ∧
    ((∃ w, node.storage.get .witness req.data = .ok (some w)) → resp.code = 0) := by
  obtain ⟨v, hb⟩ := hb
  rw [queryHandler_store_of_stored core hs hb, if_pos hprove] at h
  obtain ⟨-, hyes, hno⟩ := storeProof_result core h
  by_cases hw : ∃ w, node.storage.get .witness req.data = .ok (some w)
  · obtain ⟨p, rfl⟩ := hyes hw
    exact ⟨⟨fun h2 => absurd h2 (by simp [ResponseQuery.new]), fun hn => absurd hw hn⟩, fun _ => rfl⟩
  · rw [hno hw]
    exact ⟨⟨fun _ => hw, fun _ => rfl⟩, fun h' => absurd h' hw⟩

/-- The `account` path answers `3` without a last state or a valid address,
`1` when the account lookup fails, and `0` with the encoded staked state
otherwise. -/
lemma queryHandler_account_code (h : queryHandler core node req = .ok resp)
    (ha : req.path = "account") :
    (resp.code = 3 ↔ node.lastState = none ∨ StakedStateAddress.tryFrom req.data = none) ∧
    (resp.code = 1 ↔ ∃ state address e, node.lastState = some state ∧
      StakedStateAddress.tryFrom req.data = some address ∧
      node.getAccount address state.lastAccountRootHash = .error e) ∧
    (∀ state address a, node.lastState = some state →
      StakedStateAddress.tryFrom req.data = some address →
      node.getAccount address state.lastAccountRootHash = .ok a →
      resp.code = 0 ∧ resp.value = core.encodeAccount a) := by
  rw [queryHandler_account core node ha] at h
  cases h
  by_cases hi : node.lastState = none ∨ StakedStateAddress.tryFrom req.data = none
  · rw [accountQuery_of_invalid core hi]
    refine ⟨⟨fun _ => hi, fun _ => rfl⟩, ⟨fun h1 => absurd h1 (by decide), ?_⟩, ?_⟩
    · rintro ⟨state, address, e, hs, had, -⟩
      rcases hi with hi | hi <;> simp_all
    · intro state address a hs had
      rcases hi with hi | hi <;> simp_all
  · obtain ⟨state, hs⟩ := Option.ne_none_iff_exists'.mp (not_or.mp hi).1
    obtain ⟨address, had⟩ := Option.ne_none_iff_exists'.mp (not_or.mp hi).2
    cases hg : node.getAccount address state.lastAccountRootHash with
    | ok a =>
      rw [accountQuery_of_found core hs had hg]
      refine ⟨⟨fun h3 => absurd h3 (by simp [ResponseQuery.new]), fun h' => absurd h' hi⟩,
        ⟨fun h1 => absurd h1 (by simp [ResponseQuery.new]), ?_⟩, ?_⟩
      · rintro ⟨state', address', e, hs', had', hg'⟩
        simp_all
      · intro state' address' a' hs' had' hg'
        simp_all
    | error e =>
      rw [accountQuery_of_lookup_error core hs had hg]
      refine ⟨⟨fun h3 => absurd h3 (by simp [ResponseQuery.new]), fun h' => absurd h' hi⟩,
        ⟨fun _ => ⟨state, address, e, hs, had, hg⟩, fun _ => rfl⟩, ?_⟩
      intro state' address' a' hs' had' hg'
      simp_all

/-- Every path the handler does not dispatch on, the mock paths of a build
without `mock-enc-dec` included, answers `1`. -/
lemma queryHandler_other_code (h : queryHandler core node req = .ok resp)
    (hpeer : isPeerFilter req.path = false)
    (hp : req.path ∉ ["store", "meta", "witness", "merkle", "account"]) : resp.code = 1 := by
  by_cases hm : req.path = "mockencrypt" ∨ req.path = "mockdecrypt"
  · rw [queryHandler_of_mock core node hm] at h
    cases h
    rfl
  · have hk : req.path ∉ knownPaths := by
      simp only [knownPaths, List.mem_cons, List.mem_singleton, List.not_mem_nil, or_false,
        not_or] at hp hm ⊢
      exact ⟨hm.1, hm.2, hp.1, hp.2.1, hp.2.2.1, hp.2.2.2.1, hp.2.2.2.2⟩
    rw [queryHandler_of_invalid core node hk hpeer] at h
    cases h
    rfl

end Codes

/-- **The codes of `query_handler`.** For every request and node state, a
response the handler returns has code `0` on a peer-filter path; on `store`,
`meta`, `witness` and `merkle`, code `1` exactly when the read of the key in
`COL_BODIES`, `COL_TX_META`, `COL_WITNESS` or `COL_MERKLE_PROOFS` returns no
value (the key is absent or the read fails), and the stored bytes as value
otherwise; on `store` with `prove` and the body read, code `2` exactly when no
witness is read and `0` otherwise; on `account`, code `3` without a last state
or a valid address, `1` when the account lookup fails and `0` with the encoded
staked state otherwise; code `1` on every other path; and a non-zero code
exactly when the log is non-empty. -/
theorem queryHandler_response_codes (node : ChainNodeApp Account) (req : RequestQuery)
    {resp : ResponseQuery} (h : queryHandler core node req = .ok resp) :
    (startsWith req.path "/p2p" = true ∨ startsWith req.path "p2p" = true → resp.code = 0) ∧
    (∀ column, queryColumn req.path = some column →
      (resp.code = 1 ↔ ¬∃ v, node.storage.get column req.data = .ok (some v)) ∧
      ∀ v, node.storage.get column req.data = .ok (some v) → resp.value = v) ∧
    (req.path = "store" → req.prove = true →
      (∃ v, node.storage.get .bodies req.data = .ok (some v)) →
      (resp.code = 2 ↔ ¬∃ w, node.storage.get .witness req.data = .ok (some w)) ∧
      ((∃ w, node.storage.get .witness req.data = .ok (some w)) → resp.code = 0)) ∧
    (req.path = "account" →
      (resp.code = 3 ↔ node.lastState = none ∨ StakedStateAddress.tryFrom req.data = none) ∧
      (resp.code = 1 ↔ ∃ state address e, node.lastState = some state ∧
        StakedStateAddress.tryFrom req.data = some address ∧
        node.getAccount address state.lastAccountRootHash = .error e) ∧
      (∀ state address a, node.lastState = some state →
        StakedStateAddress.tryFrom req.data = some address →
        node.getAccount address state.lastAccountRootHash = .ok a →
        resp.code = 0 ∧ resp.value = core.encodeAccount a)) ∧
    (startsWith req.path "/p2p" = false → startsWith req.path "p2p" = false →
      req.path ∉ ["store", "meta", "witness", "merkle", "account"] → resp.code = 1) ∧
    (resp.code ≠ 0 ↔ resp.log ≠ "") := by
  refine ⟨fun hp => ?_, fun _ hc => queryHandler_lookup_code core h hc,
    fun hs hprove hb => queryHandler_store_prove_code core h hs hprove hb,
    fun ha => queryHandler_account_code core h ha,
    fun h1 h2 hp => queryHandler_other_code core h (by simp [isPeerFilter, h1, h2]) hp,
    Reported.code_ne_zero_iff (queryHandler_reported core node req h)⟩
  rw [queryHandler_of_peerFilter core node (by simpa [isPeerFilter] using hp)] at h
  cases h
  rfl

/-- A proof query on `oneTxNode` at height `0` is answered, and not with
code `2`, since its witness is stored. -/
theorem one_tx_store_query_codes :
    queryHandler emptyTreeCore (oneTxNode []) (storeQuery 0) = .ok oneTxResponse ∧
      (oneTxResponse.code = 2 ↔
        ¬∃ w, (oneTxNode []).storage.get .witness H256.zero.bytes = .ok (some w)) :=
  ⟨oneTxNode_answers [], ((queryHandler_response_codes emptyTreeCore _ _
    (oneTxNode_answers [])).2.2.1 rfl rfl ⟨_, oneTxNode_bodies []⟩).1⟩

/-! ### A read that fails on a present key -/

/-- A store whose every read fails with an I/O error. -/
def failingStore : KeyValueDB := ⟨fun _ _ => .error "I/O error"⟩

/-- A `meta` query on a store whose reads fail: the handler answers code `1`,
"tx not found", although the store never reported the key absent. -/
theorem response_code_one_on_io_error :
    queryHandler emptyTreeCore ⟨failingStore, none, fun _ _ => .error "no accounts"⟩
        ⟨[], "meta", 0, false⟩ = .ok (ResponseQuery.new.logError "tx not found" 1) ∧
      failingStore.get .txMeta [] ≠ .ok none := by
  refine ⟨?_, by simp [failingStore]⟩
  rw [queryHandler_of_lookupPath emptyTreeCore _ (by rfl), lookup_of_not_stored (by simp [failingStore])]

end CryptoChain
