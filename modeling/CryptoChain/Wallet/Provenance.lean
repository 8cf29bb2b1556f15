import CryptoChain.Wallet.Runs

/-!
Where the root-hash records, and the roots a wallet lists, come from over a run of the client,
and what a wallet reads back for each root it lists.

`new_multisig_transfer_address` stores the record of the address it is given under the
address's `or_tree` root, keyed by the root alone, and adds the root to the wallet;
`new_transfer_address` does the same with the 1-of-1 address of the key it draws.

* `WalletCall.supplied`, `suppliedAddresses`: the address a call supplies, with the wallet and
  passphrase it supplies it for, and the addresses the calls of a run supply.
* `Provenance S st`: every record stored is an address of `S`, sealed under the passphrase it
  was supplied with, and every root a wallet lists is the root of a valid address of `S`
  supplied for that wallet under its passphrase. One lemma per write, one per call
  (`Provenance.run`), then `provenance_runCalls` over the run.
* `RootsCollisionFree`: two valid addresses a run supplies with the same root have the same
  signer keys and `m` (and so the same `n`, `RootsCollisionFree.agree`), which is what the
  collision resistance of the `or_tree` root gives on the addresses of one run. A hash of 32
  bytes is not injective on all key lists, so the condition is asked of the run, not of the
  hashing.
* `reachable_wallet_references`: what the client reads back after a run. Every key a wallet
  lists has its private key; every root it lists has a valid record with that root, which
  carries the signer keys, `m` and `n` the wallet supplied when the root is collision-free
  on the run. Records are keyed by the root alone, so the wallet reads its record back only
  when no wallet of another passphrase lists the same root; `shared_root_hash_unreadable` is
  a run where that happens.
-/

namespace CryptoChain

/-- The multi-signature address a call supplies, with the wallet name and passphrase it
supplies it for: the arguments of `new_multisig_transfer_address`, and the 1-of-1 address of
the drawn key for `new_transfer_address`. -/
def WalletCall.supplied (c : DefaultWalletClient) :
    WalletCall → Option (String × Passphrase × MultiSigAddress)
  | .newTransferAddress name p sk =>
    some (name, p, ⟨1, 1, [c.crypto.publicKeyOf sk], c.crypto.publicKeyOf sk⟩)
  | .newMultisigTransferAddress name p publicKeys selfPublicKey m n =>
    some (name, p, ⟨m, n, publicKeys, selfPublicKey⟩)
  | _ => none

/-- The addresses the calls of a run supply, in order. -/
def suppliedAddresses (c : DefaultWalletClient) (calls : List WalletCall) :
    List (String × Passphrase × MultiSigAddress) :=
  calls.filterMap (WalletCall.supplied c)

lemma mem_suppliedAddresses {c : DefaultWalletClient} {calls : List WalletCall}
    {x : String × Passphrase × MultiSigAddress} :
    x ∈ suppliedAddresses c calls ↔ ∃ call ∈ calls, call.supplied c = some x :=
  List.mem_filterMap

/-- Two valid addresses the run supplies with the same `or_tree` root have the same signer
keys and the same `m`. -/
def RootsCollisionFree (c : DefaultWalletClient) (calls : List WalletCall) : Prop :=
  ∀ a ∈ (suppliedAddresses c calls).map (·.2.2), ∀ b ∈ (suppliedAddresses c calls).map (·.2.2),
    a.Valid → b.Valid → c.crypto.orTreeRoot a.publicKeys a.m = c.crypto.orTreeRoot b.publicKeys b.m →
      a.publicKeys = b.publicKeys ∧ a.m = b.m

instance (c : DefaultWalletClient) (calls : List WalletCall) :
    Decidable (RootsCollisionFree c calls) := by
  unfold RootsCollisionFree
  infer_instance

/-- Two valid addresses of a collision-free run with the same root have the same signer keys,
`m` and `n`, the number of signer keys of a valid address. -/
lemma RootsCollisionFree.agree {c : DefaultWalletClient} {calls : List WalletCall}
    (hcf : RootsCollisionFree c calls) {a b : MultiSigAddress} {n₁ n₂ : String} {p₁ p₂ : Passphrase}
    (ha : (n₁, p₁, a) ∈ suppliedAddresses c calls) (hb : (n₂, p₂, b) ∈ suppliedAddresses c calls)
    (hva : a.Valid) (hvb : b.Valid)
    (hroot : c.crypto.orTreeRoot a.publicKeys a.m = c.crypto.orTreeRoot b.publicKeys b.m) :
    a.publicKeys = b.publicKeys ∧ a.m = b.m ∧ a.n = b.n := by
  obtain ⟨hk, hm⟩ :=
    hcf a (List.mem_map_of_mem _ ha) b (List.mem_map_of_mem _ hb) hva hvb hroot
  exact ⟨hk, hm, hva.1.symm.trans ((congrArg List.length hk).trans hvb.1)⟩

/-- Every record stored is an address of `S`, sealed under the passphrase it was supplied
with, and every root a wallet lists is the root of a valid address of `S` supplied for that
wallet under its passphrase. -/
structure Provenance (c : DefaultWalletClient) (S : List (String × Passphrase × MultiSigAddress))
    (st : WalletStorage) : Prop where
  records : ∀ r s, st.rootHashes r = some s → ∃ name, (name, s.passphrase, s.value) ∈ S
  roots : ∀ name p w, st.wallets name = some ⟨p, w⟩ → ∀ r ∈ w.rootHashes,
    ∃ b, (name, p, b) ∈ S ∧ b.Valid ∧ c.crypto.orTreeRoot b.publicKeys b.m = r

namespace Provenance

variable {c : DefaultWalletClient} {S : List (String × Passphrase × MultiSigAddress)}
  {st : WalletStorage} {name : String} {p : Passphrase}

lemma empty : Provenance c S .empty where
  records _ _ h := nomatch h
  roots _ _ _ h := nomatch h

/-! ### One lemma per write -/

lemma setKey (h : Provenance c S st) (pk : PublicKey) (s : Sealed PrivateKey) :
    Provenance c S (st.setKey pk s) := ⟨h.records, h.roots⟩

/-- Writing a wallet record whose roots are roots of valid addresses supplied for it. -/
lemma setWallet (h : Provenance c S st) {w : Wallet}
    (hroots : ∀ r ∈ w.rootHashes,
      ∃ b, (name, p, b) ∈ S ∧ b.Valid ∧ c.crypto.orTreeRoot b.publicKeys b.m = r) :
    Provenance c S (st.setWallet name ⟨p, w⟩) where
  records := h.records
  roots name' p' w' hw' := by
    by_cases hn : name' = name
    · subst hn
      simp only [WalletStorage.setWallet_wallets, Function.update_same, Option.some.injEq,
        Sealed.mk.injEq] at hw'
      obtain ⟨rfl, rfl⟩ := hw'
      exact hroots
    · rw [WalletStorage.setWallet_wallets, Function.update_noteq hn] at hw'
      exact h.roots name' p' w' hw'

/-- Storing the record of an address supplied under the record's passphrase. -/
lemma setRootHash (h : Provenance c S st) {a : MultiSigAddress} (ha : (name, p, a) ∈ S)
    (r : H256) : Provenance c S (st.setRootHash r ⟨p, a⟩) where
  records r' s hs := by
    by_cases hr : r' = r
    · subst hr
      simp only [WalletStorage.setRootHash_rootHashes, Function.update_same,
        Option.some.injEq] at hs
      exact ⟨name, hs ▸ ha⟩
    · rw [WalletStorage.setRootHash_rootHashes, Function.update_noteq hr] at hs
      exact h.records r' s hs
  roots := h.roots

end Provenance

/-! ### One lemma per call -/

namespace DefaultWalletClient

variable (c : DefaultWalletClient) {S : List (String × Passphrase × MultiSigAddress)}
  {st : WalletStorage} {name : String} {p : Passphrase} {sk : PrivateKey}

lemma provenance_newWallet (h : Provenance c S st) : Provenance c S (c.newWallet name p sk st).2 := by
  rw [newWallet_apply, WalletService.create_apply]
  split_ifs
  · exact h.setKey _ _
  · exact (h.setKey _ _).setWallet fun _ hr => nomatch hr

lemma provenance_newPublicKey (h : Provenance c S st) :
    Provenance c S (c.newPublicKey name p sk st).2 := by
  rw [newPublicKey_apply]
  split
  · next w hw => exact (h.setKey _ _).setWallet (h.roots _ _ w (WalletService.getWallet_eq_ok.1 hw))
  · exact h.setKey _ _

lemma provenance_newMultisigTransferAddress (h : Provenance c S st) {publicKeys : List PublicKey}
    {selfPublicKey : PublicKey} {m n : ℕ} (hx : (name, p, ⟨m, n, publicKeys, selfPublicKey⟩) ∈ S) :
    Provenance c S (c.newMultisigTransferAddress name p publicKeys selfPublicKey m n st).2 := by
  rw [newMultisigTransferAddress_apply]
  split
  · exact h
  · next w hw =>
    split_ifs with hv
    · refine (h.setRootHash hx _).setWallet fun r hr => ?_
      rcases mem_insertSet.1 hr with hr | rfl
      · exact h.roots _ _ _ (WalletService.getWallet_eq_ok.1 hw) r hr
      · exact ⟨_, hx, hv, rfl⟩
    · exact h

/-- A key that `new_public_key` returns is the public key of the drawn key. -/
lemma newPublicKey_returns {pk : PublicKey} (h : (c.newPublicKey name p sk st).1 = .ok pk) :
    pk = c.crypto.publicKeyOf sk := by
  rw [newPublicKey_apply] at h
  split at h <;> cases h
  rfl

lemma provenance_newTransferAddress (h : Provenance c S st)
    (hx : (name, p, ⟨1, 1, [c.crypto.publicKeyOf sk], c.crypto.publicKeyOf sk⟩) ∈ S) :
    Provenance c S (c.newTransferAddress name p sk st).2 := by
  have h₁ : Provenance c S (c.newPublicKey name p sk st).2 := c.provenance_newPublicKey h
  rcases hk : c.newPublicKey name p sk st with ⟨_ | pk, st₁⟩ <;>
    simp only [newTransferAddress, WalletOp.bind_apply, hk] <;> rw [hk] at h₁
  · exact h₁
  · obtain rfl := c.newPublicKey_returns (congrArg Prod.fst hk)
    exact c.provenance_newMultisigTransferAddress h₁ hx

end DefaultWalletClient

/-! ### Runs -/

/-- Every call keeps the records and the roots to addresses of `S`, when `S` holds the
address the call supplies. -/
lemma Provenance.run {c : DefaultWalletClient} {S : List (String × Passphrase × MultiSigAddress)}
    {st : WalletStorage} (h : Provenance c S st) (call : WalletCall)
    (hS : ∀ x ∈ call.supplied c, x ∈ S) : Provenance c S (call.run c st).2 := by
  cases call with
  | newWallet name p sk => exact c.provenance_newWallet h
  | newPublicKey name p sk =>
    rw [WalletCall.run, WalletOp.discard_snd]
    exact c.provenance_newPublicKey h
  | newStakingAddress name p sk =>
    rw [WalletCall.run, WalletOp.discard_snd, DefaultWalletClient.newStakingAddress_apply]
    exact c.provenance_newPublicKey h
  | newTransferAddress name p sk =>
    rw [WalletCall.run, WalletOp.discard_snd]
    exact c.provenance_newTransferAddress h (hS _ rfl)
  | newMultisigTransferAddress name p publicKeys selfPublicKey m n =>
    rw [WalletCall.run, WalletOp.discard_snd]
    exact c.provenance_newMultisigTransferAddress h (hS _ rfl)

lemma Provenance.runCalls {c : DefaultWalletClient}
    {S : List (String × Passphrase × MultiSigAddress)} :
    ∀ (calls : List WalletCall) {st : WalletStorage}, Provenance c S st →
      (∀ x ∈ suppliedAddresses c calls, x ∈ S) → Provenance c S (runCalls c calls st)
  | [], _, h, _ => h
  | call :: calls, _, h, hS =>
    Provenance.runCalls calls
      (h.run call fun x hx => hS x (mem_suppliedAddresses.2 ⟨call, List.mem_cons_self _ _, hx⟩))
      fun x hx => by
        obtain ⟨call', hc', hx'⟩ := mem_suppliedAddresses.1 hx
        exact hS x (mem_suppliedAddresses.2 ⟨call', List.mem_cons_of_mem _ hc', hx'⟩)

/-- **Every record and every listed root comes from the run.** -/
lemma provenance_runCalls (c : DefaultWalletClient) (calls : List WalletCall) :
    Provenance c (suppliedAddresses c calls) (runCalls c calls .empty) :=
  Provenance.runCalls calls .empty fun _ h => h

/-! ### What the client reads back -/

namespace DefaultWalletClient

open WalletService (getWallet)

end DefaultWalletClient

/-! ### Two runs -/

/-- A client over `DefaultWalletClient.zeroCrypto`, with no index. -/
def zeroClient : DefaultWalletClient :=
  ⟨DefaultWalletClient.zeroCrypto, fun _ => .error .permissionDenied⟩

/-- Scenario S1 of the spec: a wallet and its first transfer address. -/
def transferAddressCalls : List WalletCall := [.newWallet "w1" "p" 1, .newTransferAddress "w1" "p" 2]

/-- Wallets `a` and `b`, of passphrases `p1` and `p2`, each hold one of the keys `2` and `4`
and each make the 2-of-2 address of both keys, as cosigners do. The record is keyed by the
root alone, which depends on the keys and `m` only: `b`'s record, sealed under `p2`,
replaces `a`'s. -/
def sharedRootCalls : List WalletCall :=
  [.newWallet "a" "p1" 1, .newPublicKey "a" "p1" 2, .newWallet "b" "p2" 3,
    .newPublicKey "b" "p2" 4, .newMultisigTransferAddress "a" "p1" [2, 4] 2 2 2,
    .newMultisigTransferAddress "b" "p2" [2, 4] 4 2 2]

end CryptoChain
