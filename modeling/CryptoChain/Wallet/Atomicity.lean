import CryptoChain.Wallet.Client

/-!
What a failed call of the client leaves in the storage.

* `WalletCall` names the five mutating operations, with the key `generate_keypair` draws
  where the operation makes one, and `WalletCall.run` runs one.
* `newMultisigTransferAddress_error`: a failed `new_multisig_transfer_address` writes nothing,
  since it reads the wallet before its first write.
* `WalletCall.run_error`: any other failed call leaves the storage as it was except for the
  drawn key, which `generate_keypair` stored before the wallet service read the wallet.
* `new_public_key_on_missing_wallet_writes`: the failing call of the wallet tests,
  `new_public_key` on the missing wallet `name_new`, leaves a key in an empty storage.
-/

namespace CryptoChain

/-- A call of a mutating operation of `DefaultWalletClient`; `sk` is the key
`generate_keypair` draws. -/
inductive WalletCall where
  | newWallet (name : String) (passphrase : Passphrase) (sk : PrivateKey)
  | newPublicKey (name : String) (passphrase : Passphrase) (sk : PrivateKey)
  | newStakingAddress (name : String) (passphrase : Passphrase) (sk : PrivateKey)
  | newTransferAddress (name : String) (passphrase : Passphrase) (sk : PrivateKey)
  | newMultisigTransferAddress (name : String) (passphrase : Passphrase)
      (publicKeys : List PublicKey) (selfPublicKey : PublicKey) (m n : ℕ)

namespace WalletCall

/-- The passphrase of a call. -/
def passphrase : WalletCall → Passphrase
  | newWallet _ p _ | newPublicKey _ p _ | newStakingAddress _ p _ | newTransferAddress _ p _
  | newMultisigTransferAddress _ p _ _ _ _ => p

/-- The key a call draws, if it makes one. -/
def draw : WalletCall → Option PrivateKey
  | newWallet _ _ sk | newPublicKey _ _ sk | newStakingAddress _ _ sk
  | newTransferAddress _ _ sk => some sk
  | newMultisigTransferAddress .. => none

/-- A call run on the storage, its result dropped. -/
def run (c : DefaultWalletClient) : WalletCall → WalletOp Unit
  | newWallet name p sk => c.newWallet name p sk
  | newPublicKey name p sk => discard (c.newPublicKey name p sk)
  | newStakingAddress name p sk => discard (c.newStakingAddress name p sk)
  | newTransferAddress name p sk => discard (c.newTransferAddress name p sk)
  | newMultisigTransferAddress name p publicKeys selfPublicKey m n =>
      discard (c.newMultisigTransferAddress name p publicKeys selfPublicKey m n)

end WalletCall

namespace DefaultWalletClient

variable (c : DefaultWalletClient) {name : String} {passphrase : Passphrase} {st st' : WalletStorage}
  {e : ErrorKind}

open WalletService (getWallet)

/-! ### The failures of each operation -/

lemma newWallet_error {sk : PrivateKey} (h : c.newWallet name passphrase sk st = (.error e, st')) :
    st' = st.setKey (c.crypto.publicKeyOf sk) ⟨passphrase, sk⟩ := by
  rw [newWallet_apply, WalletService.create_apply] at h
  split_ifs at h <;> cases h
  rfl

lemma newPublicKey_error {sk : PrivateKey}
    (h : c.newPublicKey name passphrase sk st = (.error e, st')) :
    st' = st.setKey (c.crypto.publicKeyOf sk) ⟨passphrase, sk⟩ := by
  rw [newPublicKey_apply] at h
  split at h <;> cases h
  rfl

lemma newStakingAddress_error {sk : PrivateKey}
    (h : c.newStakingAddress name passphrase sk st = (.error e, st')) :
    st' = st.setKey (c.crypto.publicKeyOf sk) ⟨passphrase, sk⟩ := by
  rcases hk : c.newPublicKey name passphrase sk st with ⟨_ | _, _⟩ <;>
    simp only [newStakingAddress_apply, hk, Except.map, Prod.mk.injEq, reduceCtorEq,
      false_and] at h
  exact h.2 ▸ c.newPublicKey_error hk

/-- A failed `new_multisig_transfer_address` writes nothing. -/
lemma newMultisigTransferAddress_error {publicKeys : List PublicKey} {selfPublicKey : PublicKey}
    {m n : ℕ} (h : c.newMultisigTransferAddress name passphrase publicKeys selfPublicKey m n st =
      (.error e, st')) : st' = st := by
  rw [newMultisigTransferAddress_apply] at h
  split at h
  · cases h; rfl
  · split_ifs at h <;> cases h
    rfl

/-- The 1-of-1 address of a new key never fails once the key is in the wallet. -/
lemma newTransferAddress_error {sk : PrivateKey}
    (h : c.newTransferAddress name passphrase sk st = (.error e, st')) :
    st' = st.setKey (c.crypto.publicKeyOf sk) ⟨passphrase, sk⟩ := by
  rcases hk : c.newPublicKey name passphrase sk st with ⟨_ | pk, st₁⟩
  · simp only [newTransferAddress, WalletOp.bind_apply, hk] at h
    cases h
    exact c.newPublicKey_error hk
  · rw [newPublicKey_apply] at hk
    split at hk <;> cases hk
    simp only [newTransferAddress, WalletOp.bind_apply, newPublicKey_apply, *,
      newMultisigTransferAddress_apply, WalletService.getWallet_setKey] at h
    simp [getWallet, MultiSigAddress.Valid] at h

end DefaultWalletClient

/-- **What a failed call writes.** A failed call leaves the storage as it was, or with the
key it drew stored under the call's passphrase. -/
lemma WalletCall.run_error (c : DefaultWalletClient) {call : WalletCall} {st st' : WalletStorage}
    {e : ErrorKind} (h : call.run c st = (.error e, st')) :
    st' = st ∨ ∃ sk ∈ call.draw, st' = st.setKey (c.crypto.publicKeyOf sk) ⟨call.passphrase, sk⟩ := by
  cases call with
  | newWallet name p sk => exact .inr ⟨sk, rfl, c.newWallet_error h⟩
  | newPublicKey name p sk =>
    exact .inr ⟨sk, rfl, c.newPublicKey_error (WalletOp.discard_eq_error h)⟩
  | newStakingAddress name p sk =>
    exact .inr ⟨sk, rfl, c.newStakingAddress_error (WalletOp.discard_eq_error h)⟩
  | newTransferAddress name p sk =>
    exact .inr ⟨sk, rfl, c.newTransferAddress_error (WalletOp.discard_eq_error h)⟩
  | newMultisigTransferAddress name p publicKeys selfPublicKey m n =>
    exact .inl (c.newMultisigTransferAddress_error (WalletOp.discard_eq_error h))

/-- `new_public_key` on the wallet `name_new` that does not exist, the failing call of
`check_wallet_flow`, on an empty storage: it fails with `WalletNotFound`, and the storage
keeps the key it drew. -/
theorem new_public_key_on_missing_wallet_writes (c : DefaultWalletClient) (sk : PrivateKey) :
    c.newPublicKey "name_new" "passphrase" sk .empty = (.error .walletNotFound,
      WalletStorage.empty.setKey (c.crypto.publicKeyOf sk) ⟨"passphrase", sk⟩) ∧
    (c.newPublicKey "name_new" "passphrase" sk .empty).2 ≠ .empty := by
  have h : c.newPublicKey "name_new" "passphrase" sk .empty = (.error .walletNotFound,
      WalletStorage.empty.setKey (c.crypto.publicKeyOf sk) ⟨"passphrase", sk⟩) := by
    rw [DefaultWalletClient.newPublicKey_apply]; rfl
  refine ⟨h, fun he => ?_⟩
  rw [h] at he
  have hk := congrArg (·.keys (c.crypto.publicKeyOf sk)) he
  simp [WalletStorage.empty] at hk

end CryptoChain
