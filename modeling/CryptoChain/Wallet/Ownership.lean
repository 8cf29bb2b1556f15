import CryptoChain.Wallet.Runs

/-!
Which wallet lists a key, over every run of the client.

`new_wallet` takes the view key and `new_public_key` adds the public key that
`generate_keypair` has just drawn and stored. A key drawn fresh is stored nowhere yet, and in
a consistent storage every key a wallet lists is stored (`Consistent.keys`), so no wallet
lists it yet.

* `WalletStorage.Lists st name k`: the wallet `name` lists `k` as its view key or as one of
  its public keys.
* `KeysOwned`: no wallet lists a key twice, and no two wallets list the same key.
* `KeysOwned.setWallet`: writing a wallet record whose keys are the old record's keys or keys
  no wallet lists keeps `KeysOwned`; one lemma per call (`KeysOwned.run`), then induction over
  the run.
* `reachable_keysOwned`: every reachable storage has each key in at most one wallet, once.
-/

namespace CryptoChain

namespace WalletStorage

/-- The wallet `name` lists `k`, as its view key or as one of its public keys. -/
def Lists (st : WalletStorage) (name : String) (k : PublicKey) : Prop :=
  ∃ p w, st.wallets name = some ⟨p, w⟩ ∧ k ∈ w.viewKey :: w.publicKeys

variable {st : WalletStorage} {name n : String} {k : PublicKey}

@[simp] lemma lists_setKey (pk : PublicKey) (s : Sealed PrivateKey) :
    (st.setKey pk s).Lists n k ↔ st.Lists n k := Iff.rfl

lemma lists_setWallet {p : Passphrase} {w : Wallet} :
    (st.setWallet name ⟨p, w⟩).Lists n k ↔
      n = name ∧ k ∈ w.viewKey :: w.publicKeys ∨ n ≠ name ∧ st.Lists n k := by
  by_cases hn : n = name
  · subst hn
    simp [Lists, and_assoc]
  · simp [Lists, hn, Function.update_noteq hn]

end WalletStorage

open WalletStorage

/-- A key drawn fresh, stored nowhere, is listed by no wallet of a consistent storage. -/
lemma Consistent.not_lists {crypto : WalletCrypto} {st : WalletStorage} (h : Consistent crypto st)
    {pk : PublicKey} (hpk : st.keys pk = none) (n : String) : ¬ st.Lists n pk := by
  rintro ⟨p, w, hw, hk⟩
  obtain ⟨sk, hsk⟩ := h.keys n p w hw pk hk
  rw [hpk] at hsk
  cases hsk

/-- Each key is listed once, by one wallet at most. -/
structure KeysOwned (st : WalletStorage) : Prop where
  nodup : ∀ name p w, st.wallets name = some ⟨p, w⟩ → (w.viewKey :: w.publicKeys).Nodup
  unique : ∀ name₁ name₂ k, st.Lists name₁ k → st.Lists name₂ k → name₁ = name₂

namespace KeysOwned

variable {st : WalletStorage} {name : String} {p : Passphrase}

lemma empty : KeysOwned .empty where
  nodup _ _ _ h := nomatch h
  unique _ _ _ h := nomatch h

lemma setKey (h : KeysOwned st) (pk : PublicKey) (s : Sealed PrivateKey) :
    KeysOwned (st.setKey pk s) := ⟨h.nodup, h.unique⟩

lemma setRootHash (h : KeysOwned st) (r : H256) (s : Sealed MultiSigAddress) :
    KeysOwned (st.setRootHash r s) := ⟨h.nodup, h.unique⟩

/-- Writing a wallet record without repeated keys, each of them one the wallet listed before
or one no wallet lists. -/
lemma setWallet (h : KeysOwned st) {w : Wallet} (hnodup : (w.viewKey :: w.publicKeys).Nodup)
    (hnew : ∀ k ∈ w.viewKey :: w.publicKeys, st.Lists name k ∨ ∀ n, ¬ st.Lists n k) :
    KeysOwned (st.setWallet name ⟨p, w⟩) where
  nodup name' p' w' hw' := by
    by_cases hn : name' = name
    · subst hn
      simp only [setWallet_wallets, Function.update_same, Option.some.injEq,
        Sealed.mk.injEq] at hw'
      obtain ⟨rfl, rfl⟩ := hw'
      exact hnodup
    · rw [setWallet_wallets, Function.update_noteq hn] at hw'
      exact h.nodup name' p' w' hw'
  unique name₁ name₂ k h₁ h₂ := by
    rw [lists_setWallet] at h₁ h₂
    rcases h₁ with ⟨rfl, hk₁⟩ | ⟨-, hl₁⟩ <;> rcases h₂ with ⟨rfl, hk₂⟩ | ⟨-, hl₂⟩
    · rfl
    · exact (hnew k hk₁).elim (fun hl => h.unique _ _ k hl hl₂) fun hno => (hno _ hl₂).elim
    · exact (hnew k hk₂).elim (fun hl => h.unique _ _ k hl₁ hl) fun hno => (hno _ hl₁).elim
    · exact h.unique _ _ k hl₁ hl₂

/-- Changing a wallet's root hashes only. -/
lemma setRootHashes (h : KeysOwned st) {w : Wallet} (hw : st.wallets name = some ⟨p, w⟩)
    (rootHashes : List H256) : KeysOwned (st.setWallet name ⟨p, { w with rootHashes }⟩) :=
  h.setWallet (h.nodup name p w hw) fun _ hk => .inl ⟨p, w, hw, hk⟩

end KeysOwned

lemma nodup_insertSet {α : Type} [DecidableEq α] {l : List α} (hl : l.Nodup) (a : α) :
    (insertSet l a).Nodup := by
  unfold insertSet
  split_ifs with ha
  · exact hl
  · exact hl.append (List.nodup_singleton a) (List.disjoint_singleton.2 ha)

/-! ### One lemma per call -/

namespace DefaultWalletClient

variable (c : DefaultWalletClient) {st : WalletStorage} {name : String} {p : Passphrase}
  {sk : PrivateKey}

open WalletService (getWallet)

lemma keysOwned_newWallet (h : KeysOwned st) (hc : Consistent c.crypto st)
    (hf : st.keys (c.crypto.publicKeyOf sk) = none) :
    KeysOwned (c.newWallet name p sk st).2 := by
  rw [newWallet_apply, WalletService.create_apply]
  split_ifs
  · exact h.setKey _ _
  · refine (h.setKey _ _).setWallet (List.nodup_singleton _) fun k hk => .inr fun n => ?_
    rw [List.mem_singleton.1 hk, lists_setKey]
    exact hc.not_lists hf n

lemma keysOwned_newPublicKey (h : KeysOwned st) (hc : Consistent c.crypto st)
    (hf : st.keys (c.crypto.publicKeyOf sk) = none) :
    KeysOwned (c.newPublicKey name p sk st).2 := by
  rw [newPublicKey_apply]
  split
  · next w hw =>
    rw [WalletService.getWallet_eq_ok] at hw
    have hfresh := hc.not_lists hf
    have hnodup := h.nodup _ _ _ hw
    have hpk : c.crypto.publicKeyOf sk ∉ w.viewKey :: w.publicKeys := fun hk =>
      hfresh name ⟨p, w, hw, hk⟩
    refine (h.setKey _ _).setWallet ?_ fun k hk => ?_
    · refine List.nodup_cons.2 ⟨fun hv => ?_, nodup_insertSet (List.nodup_cons.1 hnodup).2 _⟩
      rcases mem_insertSet.1 hv with hv | hv
      · exact (List.nodup_cons.1 hnodup).1 hv
      · exact hpk (hv ▸ List.mem_cons_self _ _)
    · simp only [List.mem_cons, mem_insertSet] at hk
      rcases hk with rfl | hk | rfl
      · exact .inl ⟨p, w, hw, List.mem_cons_self _ _⟩
      · exact .inl ⟨p, w, hw, List.mem_cons_of_mem _ hk⟩
      · exact .inr fun n => hfresh n
  · exact h.setKey _ _

lemma keysOwned_newMultisigTransferAddress (h : KeysOwned st) (publicKeys : List PublicKey)
    (selfPublicKey : PublicKey) (m n : ℕ) :
    KeysOwned (c.newMultisigTransferAddress name p publicKeys selfPublicKey m n st).2 := by
  rw [newMultisigTransferAddress_apply]
  split
  · exact h
  · next w hw =>
    split_ifs
    · exact KeysOwned.setRootHashes (h.setRootHash _ _) (WalletService.getWallet_eq_ok.1 hw) _
    · exact h

lemma keysOwned_newTransferAddress (h : KeysOwned st) (hc : Consistent c.crypto st)
    (hf : st.keys (c.crypto.publicKeyOf sk) = none) :
    KeysOwned (c.newTransferAddress name p sk st).2 := by
  have h₁ : KeysOwned (c.newPublicKey name p sk st).2 := c.keysOwned_newPublicKey h hc hf
  rcases hk : c.newPublicKey name p sk st with ⟨_ | pk, st₁⟩ <;>
    simp only [newTransferAddress, WalletOp.bind_apply, hk] <;> rw [hk] at h₁
  · exact h₁
  · exact c.keysOwned_newMultisigTransferAddress h₁ _ _ _ _

end DefaultWalletClient

/-! ### Runs -/

/-- Every call keeps each key in one wallet at most, once. -/
lemma KeysOwned.run {c : DefaultWalletClient} {st : WalletStorage} (h : KeysOwned st)
    (hc : Consistent c.crypto st) (call : WalletCall) (hf : call.Fresh c st) :
    KeysOwned (call.run c st).2 := by
  cases call with
  | newWallet name p sk => exact c.keysOwned_newWallet h hc (hf sk rfl)
  | newPublicKey name p sk =>
    rw [WalletCall.run, WalletOp.discard_snd]
    exact c.keysOwned_newPublicKey h hc (hf sk rfl)
  | newStakingAddress name p sk =>
    rw [WalletCall.run, WalletOp.discard_snd, DefaultWalletClient.newStakingAddress_apply]
    exact c.keysOwned_newPublicKey h hc (hf sk rfl)
  | newTransferAddress name p sk =>
    rw [WalletCall.run, WalletOp.discard_snd]
    exact c.keysOwned_newTransferAddress h hc (hf sk rfl)
  | newMultisigTransferAddress name p publicKeys selfPublicKey m n =>
    rw [WalletCall.run, WalletOp.discard_snd]
    exact c.keysOwned_newMultisigTransferAddress h publicKeys selfPublicKey m n

/-- **Each key has one owner.** In every reachable storage no wallet lists a key twice (its
view key is none of its public keys), and no two wallets list the same key. -/
theorem reachable_keysOwned {c : DefaultWalletClient} {st : WalletStorage}
    (hst : Reachable c st) : KeysOwned st := by
  induction hst with
  | empty => exact .empty
  | step call hst hf ih => exact ih.run hst.consistent call hf

/-- A client over `DefaultWalletClient.zeroCrypto`, with no index. -/
def ownershipClient : DefaultWalletClient :=
  ⟨DefaultWalletClient.zeroCrypto, fun _ => .error .permissionDenied⟩

/-- Wallets `a` and `b`, a public key for each, and a second `new_wallet "a"` under another
passphrase, which fails on the taken name after storing its key. -/
def ownershipCalls : List WalletCall :=
  [.newWallet "a" "p" 1, .newWallet "b" "q" 2, .newPublicKey "a" "p" 3, .newWallet "a" "r" 4,
    .newPublicKey "b" "q" 5]

/-- The run of `ownershipCalls` is reachable, so each key has one owner in its storage. -/
theorem ownershipCalls_keysOwned :
    Reachable ownershipClient (runCalls ownershipClient ownershipCalls .empty) ∧
      KeysOwned (runCalls ownershipClient ownershipCalls .empty) :=
  have hst : Reachable ownershipClient (runCalls ownershipClient ownershipCalls .empty) :=
    Reachable.empty.runCalls _ ⟨fun _ h => by cases h; rfl, fun _ h => by cases h; rfl,
      fun _ h => by cases h; rfl, fun _ h => by cases h; rfl, fun _ h => by cases h; rfl, trivial⟩
  ⟨hst, reachable_keysOwned hst⟩

end CryptoChain
