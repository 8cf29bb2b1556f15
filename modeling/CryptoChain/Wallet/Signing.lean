import CryptoChain.Wallet.Runs

/-!
The `MultiSigWalletClient` side of `DefaultWalletClient`
(`client-core/src/wallet/default_wallet_client.rs`). `schnorr_signature` and
`new_multi_sig_session` read `transfer_addresses` first, "to verify if the passphrase is
correct or not", then the private key of a public key, with `PrivateKeyNotFound` when the key
store holds none; `withPrivateKey` is that shared guard.

* `withPrivateKey_of_sealed`: the guard hands on the private key sealed under the
  passphrase that opens the wallet. It checks the passphrase against the wallet, not the key:
  a key the wallet does not list passes as well.
* `reachable_withPrivateKey`: in every reachable storage the guard passes on each key a
  wallet lists, with the private key of that key; so `schnorr_signature` signs with it and
  writes nothing (`reachable_schnorrSignature`), and `new_multi_sig_session` opens the session
  with it (`reachable_newMultiSigSession`).
-/

namespace CryptoChain

namespace DefaultWalletClient

/-! ### The operations -/

/-- The guard of `schnorr_signature` and `new_multi_sig_session`: the transfer addresses of
the wallet, then the private key of `publicKey`, or `PrivateKeyNotFound`. -/
def withPrivateKey {α : Type} (name : String) (passphrase : Passphrase) (publicKey : PublicKey)
    (k : PrivateKey → WalletOp α) : WalletOp α := do
  let _ ← transferAddresses name passphrase
  match ← privateKey passphrase publicKey with
  | none => WalletOp.fail .privateKeyNotFound
  | some sk => k sk

/-- `MultiSigWalletClient::schnorr_signature`; `schnorrSign` is `PrivateKey::schnorr_sign`. -/
def schnorrSignature {σ : Type} (schnorrSign : PrivateKey → H256 → Except ErrorKind σ)
    (name : String) (passphrase : Passphrase) (message : H256) (publicKey : PublicKey) :
    WalletOp σ :=
  withPrivateKey name passphrase publicKey fun sk => WalletOp.read fun _ => schnorrSign sk message

/-- `MultiSigWalletClient::new_multi_sig_session`; `newSession` is
`MultiSigSessionService::new_session`, which returns the id of the new session. -/
def newMultiSigSession
    (newSession : H256 → List PublicKey → PublicKey → PrivateKey → Passphrase → WalletOp H256)
    (name : String) (passphrase : Passphrase) (message : H256)
    (signerPublicKeys : List PublicKey) (selfPublicKey : PublicKey) : WalletOp H256 :=
  withPrivateKey name passphrase selfPublicKey fun sk =>
    newSession message signerPublicKeys selfPublicKey sk passphrase

/-! ### The guard -/

open WalletService (getWallet)

lemma withPrivateKey_of_sealed {α : Type} {name : String} {passphrase : Passphrase}
    {publicKey : PublicKey} {k : PrivateKey → WalletOp α} {st : WalletStorage} {w : Wallet}
    {sk : PrivateKey} (hw : getWallet name passphrase st = .ok w)
    (hk : st.keys publicKey = some ⟨passphrase, sk⟩) :
    withPrivateKey name passphrase publicKey k st = k sk st := by
  simp [withPrivateKey, transferAddresses_of_getWallet hw, privateKey,
    KeyService.privateKey_of_sealed hk]

/-! ### In every reachable storage -/

/-- **The guard passes on the wallet's keys.** In every reachable storage, the guard under
the passphrase of a wallet, on its view key or one of its public keys, runs `k` on the
private key of that key. -/
theorem reachable_withPrivateKey {c : DefaultWalletClient} {st : WalletStorage}
    (hst : Reachable c st) {name : String} {passphrase : Passphrase} {w : Wallet}
    (hw : getWallet name passphrase st = .ok w) {publicKey : PublicKey}
    (hk : publicKey ∈ w.viewKey :: w.publicKeys) {α : Type} (k : PrivateKey → WalletOp α) :
    ∃ sk, c.crypto.publicKeyOf sk = publicKey ∧
      withPrivateKey name passphrase publicKey k st = k sk st := by
  have hc := hst.consistent
  obtain ⟨sk, hsk⟩ := hc.keys _ _ _ (WalletService.getWallet_eq_ok.1 hw) _ hk
  exact ⟨sk, hc.derived _ _ hsk, withPrivateKey_of_sealed hw hsk⟩

/-- In every reachable storage, `schnorr_signature` on a key the wallet lists signs with the
private key of that key and writes nothing. -/
theorem reachable_schnorrSignature {c : DefaultWalletClient} {st : WalletStorage}
    (hst : Reachable c st) {name : String} {passphrase : Passphrase} {w : Wallet}
    (hw : getWallet name passphrase st = .ok w) {publicKey : PublicKey}
    (hk : publicKey ∈ w.viewKey :: w.publicKeys) {σ : Type}
    (schnorrSign : PrivateKey → H256 → Except ErrorKind σ) (message : H256) :
    ∃ sk, c.crypto.publicKeyOf sk = publicKey ∧
      schnorrSignature schnorrSign name passphrase message publicKey st =
        (schnorrSign sk message, st) :=
  reachable_withPrivateKey hst hw hk _

/-- A client over `zeroCrypto`, with no index. -/
def signingClient : DefaultWalletClient := ⟨zeroCrypto, fun _ => .error .permissionDenied⟩

/-- A wallet `w` of passphrase `p`, then a public key for it. -/
def signingCalls : List WalletCall := [.newWallet "w" "p" 1, .newPublicKey "w" "p" 2]

lemma signingCalls_reachable :
    Reachable signingClient (runCalls signingClient signingCalls .empty) :=
  Reachable.empty.runCalls _ ⟨fun _ h => by cases h; rfl, fun _ h => by cases h; rfl, trivial⟩

lemma signingCalls_wallet :
    getWallet "w" "p" (runCalls signingClient signingCalls .empty) = .ok ⟨1, [2], []⟩ := rfl

/-- After `signingCalls`, `schnorr_signature` on the public key `2` signs with its private
key. -/
theorem signingCalls_schnorrSignature :
    Reachable signingClient (runCalls signingClient signingCalls .empty) ∧
      getWallet "w" "p" (runCalls signingClient signingCalls .empty) = .ok ⟨1, [2], []⟩ ∧
      2 ∈ [1, 2] ∧
      ∃ sk, signingClient.crypto.publicKeyOf sk = 2 ∧
        schnorrSignature (fun sk m => .ok (sk, m)) "w" "p" H256.zero 2
            (runCalls signingClient signingCalls .empty) =
          (.ok (sk, H256.zero), runCalls signingClient signingCalls .empty) :=
  ⟨signingCalls_reachable, signingCalls_wallet, by decide,
    reachable_schnorrSignature signingCalls_reachable signingCalls_wallet (by decide) _ _⟩

/-- In every reachable storage, `new_multi_sig_session` for a key the wallet lists opens the
session with the private key of that key. -/
theorem reachable_newMultiSigSession {c : DefaultWalletClient} {st : WalletStorage}
    (hst : Reachable c st) {name : String} {passphrase : Passphrase} {w : Wallet}
    (hw : getWallet name passphrase st = .ok w) {selfPublicKey : PublicKey}
    (hk : selfPublicKey ∈ w.viewKey :: w.publicKeys)
    (newSession : H256 → List PublicKey → PublicKey → PrivateKey → Passphrase → WalletOp H256)
    (message : H256) (signerPublicKeys : List PublicKey) :
    ∃ sk, c.crypto.publicKeyOf sk = selfPublicKey ∧
      newMultiSigSession newSession name passphrase message signerPublicKeys selfPublicKey st =
        newSession message signerPublicKeys selfPublicKey sk passphrase st :=
  reachable_withPrivateKey hst hw hk _

/-- After `signingCalls`, `new_multi_sig_session` for the view key `1` opens the session with
its private key. -/
theorem signingCalls_newMultiSigSession :
    Reachable signingClient (runCalls signingClient signingCalls .empty) ∧
      getWallet "w" "p" (runCalls signingClient signingCalls .empty) = .ok ⟨1, [2], []⟩ ∧
      1 ∈ [1, 2] ∧
      ∃ sk, signingClient.crypto.publicKeyOf sk = 1 ∧
        newMultiSigSession (fun message _ _ _ _ => WalletOp.pure message) "w" "p" H256.zero
            [1, 2] 1 (runCalls signingClient signingCalls .empty) =
          (fun message _ _ _ _ => WalletOp.pure message) H256.zero [1, 2] 1 sk "p"
            (runCalls signingClient signingCalls .empty) :=
  ⟨signingCalls_reachable, signingCalls_wallet, by decide,
    reachable_newMultiSigSession signingCalls_reachable signingCalls_wallet (by decide) _ _ _⟩

end DefaultWalletClient

end CryptoChain
