import CryptoChain.Wallet.Atomicity

/-!
Runs of the client over one shared storage that starts empty, and what every storage they
reach keeps.

* `Reachable c st`: `st` is reached from the empty storage by calls of the five mutating
  operations, failed calls included, each drawing a key not yet in the key store.
* `Consistent`: every key a wallet names is stored under the wallet's passphrase, every root
  hash it lists has a valid record with that root, and every record is sealed under the
  passphrase of a wallet that lists its root.
* `Reachable.consistent`: every reachable storage is consistent; one lemma per write
  (`Consistent.setKey`, `Consistent.setWallet`, `Consistent.addRootHash`), one per call
  (`Consistent.run`), then induction over the run.
* `runCalls`, `FreshRun`: the storage a list of calls reaches, and the condition that each
  call draws a key not yet stored; `Reachable.runCalls` carries reachability along it.
-/

namespace CryptoChain

/-- The references of the storage resolve. -/
structure Consistent (crypto : WalletCrypto) (st : WalletStorage) : Prop where
  derived : ∀ pk s, st.keys pk = some s → crypto.publicKeyOf s.value = pk
  keys : ∀ name p w, st.wallets name = some ⟨p, w⟩ →
    ∀ k ∈ w.viewKey :: w.publicKeys, ∃ sk, st.keys k = some ⟨p, sk⟩
  roots : ∀ name p w, st.wallets name = some ⟨p, w⟩ → ∀ r ∈ w.rootHashes,
    ∃ s, st.rootHashes r = some s ∧ s.value.Valid ∧
      crypto.orTreeRoot s.value.publicKeys s.value.m = r
  sealers : ∀ r s, st.rootHashes r = some s →
    ∃ name w, st.wallets name = some ⟨s.passphrase, w⟩ ∧ r ∈ w.rootHashes

namespace Consistent

variable {crypto : WalletCrypto} {st : WalletStorage} {name : String} {p : Passphrase}

lemma empty (crypto : WalletCrypto) : Consistent crypto .empty where
  derived _ _ h := nomatch h
  keys _ _ _ h := nomatch h
  roots _ _ _ h := nomatch h
  sealers _ _ h := nomatch h

/-! ### One lemma per write -/

/-- Storing a drawn key not yet in the key store. -/
lemma setKey (h : Consistent crypto st) {sk : PrivateKey}
    (hfresh : st.keys (crypto.publicKeyOf sk) = none) :
    Consistent crypto (st.setKey (crypto.publicKeyOf sk) ⟨p, sk⟩) where
  derived pk s hs := by
    by_cases hpk : pk = crypto.publicKeyOf sk
    · subst hpk
      simp only [WalletStorage.setKey_keys, Function.update_same, Option.some.injEq] at hs
      rw [← hs]
    · simp only [WalletStorage.setKey_keys, Function.update_noteq hpk] at hs
      exact h.derived pk s hs
  keys name' p' w hw k hk := by
    obtain ⟨sk', hsk'⟩ := h.keys name' p' w hw k hk
    have hne : k ≠ crypto.publicKeyOf sk := by rintro rfl; simp [hfresh] at hsk'
    exact ⟨sk', by rw [WalletStorage.setKey_keys, Function.update_noteq hne]; exact hsk'⟩
  roots := h.roots
  sealers := h.sealers

/-- Writing a wallet record whose keys and roots resolve, and which keeps the passphrase
and the root hashes of the record it replaces. -/
lemma setWallet (h : Consistent crypto st) {w : Wallet}
    (hkeys : ∀ k ∈ w.viewKey :: w.publicKeys, ∃ sk, st.keys k = some ⟨p, sk⟩)
    (hroots : ∀ r ∈ w.rootHashes, ∃ s, st.rootHashes r = some s ∧ s.value.Valid ∧
      crypto.orTreeRoot s.value.publicKeys s.value.m = r)
    (hold : ∀ p₀ w₀, st.wallets name = some ⟨p₀, w₀⟩ → p₀ = p ∧ w₀.rootHashes ⊆ w.rootHashes) :
    Consistent crypto (st.setWallet name ⟨p, w⟩) where
  derived := h.derived
  keys name' p' w' hw' := by
    by_cases hn : name' = name
    · subst hn
      simp only [WalletStorage.setWallet_wallets, Function.update_same, Option.some.injEq,
        Sealed.mk.injEq] at hw'
      obtain ⟨rfl, rfl⟩ := hw'
      exact hkeys
    · rw [WalletStorage.setWallet_wallets, Function.update_noteq hn] at hw'
      exact h.keys name' p' w' hw'
  roots name' p' w' hw' := by
    by_cases hn : name' = name
    · subst hn
      simp only [WalletStorage.setWallet_wallets, Function.update_same, Option.some.injEq,
        Sealed.mk.injEq] at hw'
      obtain ⟨rfl, rfl⟩ := hw'
      exact hroots
    · rw [WalletStorage.setWallet_wallets, Function.update_noteq hn] at hw'
      exact h.roots name' p' w' hw'
  sealers r s hs := by
    obtain ⟨name', w', hw', hr⟩ := h.sealers r s hs
    by_cases hn : name' = name
    · subst hn
      obtain ⟨rfl, hsub⟩ := hold _ _ hw'
      exact ⟨name', w, by simp, hsub hr⟩
    · exact ⟨name', w', by rw [WalletStorage.setWallet_wallets, Function.update_noteq hn]; exact hw', hr⟩

/-- Storing the record of a valid address under its root, then adding the root to a wallet
of the record's passphrase, as `new_multisig_transfer_address` does. -/
lemma addRootHash (h : Consistent crypto st) {w : Wallet} {a : MultiSigAddress} {root : H256}
    (hw : st.wallets name = some ⟨p, w⟩) (ha : a.Valid)
    (hroot : crypto.orTreeRoot a.publicKeys a.m = root) :
    Consistent crypto ((st.setRootHash root ⟨p, a⟩).setWallet name
      ⟨p, { w with rootHashes := insertSet w.rootHashes root }⟩) where
  derived := h.derived
  keys name' p' w' hw' := by
    by_cases hn : name' = name
    · subst hn
      simp only [WalletStorage.setWallet_wallets, Function.update_same, Option.some.injEq,
        Sealed.mk.injEq] at hw'
      obtain ⟨rfl, rfl⟩ := hw'
      exact h.keys _ _ w hw
    · rw [WalletStorage.setWallet_wallets, Function.update_noteq hn] at hw'
      exact h.keys name' p' w' hw'
  roots name' p' w' hw' r hr := by
    by_cases hr₀ : r = root
    · exact ⟨⟨p, a⟩, by simp [hr₀], ha, hroot.trans hr₀.symm⟩
    · simp only [WalletStorage.setWallet_rootHashes, WalletStorage.setRootHash_rootHashes,
        Function.update_noteq hr₀]
      by_cases hn : name' = name
      · subst hn
        simp only [WalletStorage.setWallet_wallets, Function.update_same, Option.some.injEq,
          Sealed.mk.injEq] at hw'
        obtain ⟨rfl, rfl⟩ := hw'
        exact h.roots _ _ w hw r (by simpa [hr₀] using hr)
      · rw [WalletStorage.setWallet_wallets, Function.update_noteq hn] at hw'
        exact h.roots name' p' w' hw' r hr
  sealers r s hs := by
    by_cases hr₀ : r = root
    · subst hr₀
      simp only [WalletStorage.setWallet_rootHashes, WalletStorage.setRootHash_rootHashes,
        Function.update_same, Option.some.injEq] at hs
      subst hs
      exact ⟨name, { w with rootHashes := insertSet w.rootHashes r }, by simp, by simp⟩
    · simp only [WalletStorage.setWallet_rootHashes, WalletStorage.setRootHash_rootHashes,
        Function.update_noteq hr₀] at hs
      obtain ⟨name', w', hw', hr⟩ := h.sealers r s hs
      by_cases hn : name' = name
      · subst hn
        rw [hw, Option.some.injEq, Sealed.mk.injEq] at hw'
        obtain ⟨rfl, rfl⟩ := hw'
        exact ⟨name', { w with rootHashes := insertSet w.rootHashes root }, by simp, by simp [hr]⟩
      · exact ⟨name', w', by rw [WalletStorage.setWallet_wallets, Function.update_noteq hn]; exact hw', hr⟩

end Consistent

/-! ### One lemma per call -/

namespace DefaultWalletClient

variable (c : DefaultWalletClient) {st : WalletStorage} {name : String} {p : Passphrase}
  {sk : PrivateKey}

open WalletService (getWallet)

lemma consistent_newWallet (h : Consistent c.crypto st)
    (hf : st.keys (c.crypto.publicKeyOf sk) = none) :
    Consistent c.crypto (c.newWallet name p sk st).2 := by
  rw [newWallet_apply, WalletService.create_apply]
  have h₁ := h.setKey (p := p) hf
  split_ifs with hs
  · exact h₁
  · exact h₁.setWallet (by simp) (by simp) fun _ _ hw => by simp_all

lemma consistent_newPublicKey (h : Consistent c.crypto st)
    (hf : st.keys (c.crypto.publicKeyOf sk) = none) :
    Consistent c.crypto (c.newPublicKey name p sk st).2 := by
  rw [newPublicKey_apply]
  have h₁ := h.setKey (p := p) hf
  split
  · next w hw =>
    rw [WalletService.getWallet_eq_ok] at hw
    refine h₁.setWallet (fun k hk => ?_) (h₁.roots _ _ w hw) fun p₀ w₀ hw₀ => ?_
    · simp only [List.mem_cons, mem_insertSet] at hk
      rcases hk with rfl | hk | rfl
      · exact h₁.keys _ _ _ hw _ (List.mem_cons_self _ _)
      · exact h₁.keys _ _ _ hw _ (List.mem_cons_of_mem _ hk)
      · exact ⟨sk, by simp⟩
    · simp only [WalletStorage.setKey_wallets, hw, Option.some.injEq, Sealed.mk.injEq] at hw₀
      obtain ⟨rfl, rfl⟩ := hw₀
      exact ⟨rfl, fun _ h => h⟩
  · exact h₁

lemma consistent_newMultisigTransferAddress (h : Consistent c.crypto st)
    (publicKeys : List PublicKey) (selfPublicKey : PublicKey) (m n : ℕ) :
    Consistent c.crypto (c.newMultisigTransferAddress name p publicKeys selfPublicKey m n st).2 := by
  rw [newMultisigTransferAddress_apply]
  split
  · exact h
  · next w hw =>
    split_ifs with hv
    · exact h.addRootHash (WalletService.getWallet_eq_ok.1 hw) hv rfl
    · exact h

lemma consistent_newTransferAddress (h : Consistent c.crypto st)
    (hf : st.keys (c.crypto.publicKeyOf sk) = none) :
    Consistent c.crypto (c.newTransferAddress name p sk st).2 := by
  have h₁ : Consistent c.crypto (c.newPublicKey name p sk st).2 := c.consistent_newPublicKey h hf
  rcases hk : c.newPublicKey name p sk st with ⟨_ | pk, st₁⟩ <;>
    simp only [newTransferAddress, WalletOp.bind_apply, hk] <;> rw [hk] at h₁
  · exact h₁
  · exact c.consistent_newMultisigTransferAddress h₁ _ _ _ _

end DefaultWalletClient

/-! ### Runs -/

/-- The call draws a key that is not yet in the key store. -/
def WalletCall.Fresh (c : DefaultWalletClient) (call : WalletCall) (st : WalletStorage) : Prop :=
  ∀ sk ∈ call.draw, st.keys (c.crypto.publicKeyOf sk) = none

/-- Every call keeps the storage consistent. -/
lemma Consistent.run {c : DefaultWalletClient} {st : WalletStorage} (h : Consistent c.crypto st)
    (call : WalletCall) (hf : call.Fresh c st) : Consistent c.crypto (call.run c st).2 := by
  cases call with
  | newWallet name p sk => exact c.consistent_newWallet h (hf sk rfl)
  | newPublicKey name p sk =>
    rw [WalletCall.run, WalletOp.discard_snd]
    exact c.consistent_newPublicKey h (hf sk rfl)
  | newStakingAddress name p sk =>
    rw [WalletCall.run, WalletOp.discard_snd, DefaultWalletClient.newStakingAddress_apply]
    exact c.consistent_newPublicKey h (hf sk rfl)
  | newTransferAddress name p sk =>
    rw [WalletCall.run, WalletOp.discard_snd]
    exact c.consistent_newTransferAddress h (hf sk rfl)
  | newMultisigTransferAddress name p publicKeys selfPublicKey m n =>
    rw [WalletCall.run, WalletOp.discard_snd]
    exact c.consistent_newMultisigTransferAddress h publicKeys selfPublicKey m n

/-- The storages that runs of calls reach from the empty storage, failed calls included,
each call drawing a key not yet in the key store. -/
inductive Reachable (c : DefaultWalletClient) : WalletStorage → Prop where
  | empty : Reachable c .empty
  | step {st : WalletStorage} (call : WalletCall) :
      Reachable c st → call.Fresh c st → Reachable c (call.run c st).2

/-- **Every reachable storage is consistent.** -/
lemma Reachable.consistent {c : DefaultWalletClient} {st : WalletStorage} (h : Reachable c st) :
    Consistent c.crypto st := by
  induction h with
  | empty => exact .empty _
  | step call _ hf ih => exact ih.run call hf

/-- The storage a list of calls reaches. -/
def runCalls (c : DefaultWalletClient) : List WalletCall → WalletStorage → WalletStorage
  | [], st => st
  | call :: calls, st => runCalls c calls (call.run c st).2

/-- Every call of the list draws a new key at the storage it runs on. -/
def FreshRun (c : DefaultWalletClient) : List WalletCall → WalletStorage → Prop
  | [], _ => True
  | call :: calls, st => call.Fresh c st ∧ FreshRun c calls (call.run c st).2

lemma Reachable.runCalls {c : DefaultWalletClient} {st : WalletStorage} (h : Reachable c st) :
    ∀ calls, FreshRun c calls st → Reachable c (CryptoChain.runCalls c calls st)
  | [], _ => h
  | call :: calls, ⟨hf, hfs⟩ => (Reachable.step call h hf).runCalls calls hfs

end CryptoChain
