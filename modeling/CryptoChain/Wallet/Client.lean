import CryptoChain.Wallet.Services
import CryptoChain.Wallet.Coin

/-!
`DefaultWalletClient` (`client-core/src/wallet/default_wallet_client.rs`): the wallet
operations, each a chain of service calls joined by `?`.

* The key-creating operations call `generate_keypair` first, then the wallet service:
  `newWallet`, `newPublicKey`, and through it `newStakingAddress` and `newTransferAddress`.
* `newMultisigTransferAddress`, `generateProof` and `requiredCosigners` read
  `transfer_addresses` first, "to verify if the passphrase is correct or not".
* `balance` sums the balances the index reports for the transfer addresses.
* `DefaultWalletClientBuilder::build` accepts the components given only when "write implies
  index" and an index comes with a storage (`build_eq_ok_iff`).

Each operation has one lemma saying what it returns and writes, in terms of the services'
lemmas. The balance section proves `balance_of_index`: the balance is the exact sum of the
reported balances, or `BalanceAdditionError` past `MAX_COIN`.
-/

namespace CryptoChain

/-- The part of `AddressDetails` that `balance` reads. -/
structure AddressDetails where
  balance : Coin

/-- `DefaultWalletClient` over one storage: the hashing of its services and
`index.address_details`. -/
structure DefaultWalletClient where
  crypto : WalletCrypto
  addressDetails : ExtendedAddr → Except ErrorKind AddressDetails

namespace DefaultWalletClient

variable (c : DefaultWalletClient)

/-! ### The operations -/

/-- `DefaultWalletClient::view_key`. -/
def viewKey (name : String) (passphrase : Passphrase) : WalletOp PublicKey :=
  WalletService.viewKey name passphrase

/-- `DefaultWalletClient::public_keys`. -/
def publicKeys (name : String) (passphrase : Passphrase) : WalletOp (List PublicKey) :=
  WalletService.publicKeys name passphrase

/-- `DefaultWalletClient::root_hashes`. -/
def rootHashes (name : String) (passphrase : Passphrase) : WalletOp (List H256) :=
  WalletService.rootHashes name passphrase

/-- `DefaultWalletClient::staking_addresses`. -/
def stakingAddresses (name : String) (passphrase : Passphrase) :
    WalletOp (List StakedStateAddress) :=
  WalletService.stakingAddresses c.crypto name passphrase

/-- `DefaultWalletClient::transfer_addresses`. -/
def transferAddresses (name : String) (passphrase : Passphrase) :
    WalletOp (List ExtendedAddr) :=
  WalletService.transferAddresses name passphrase

/-- `DefaultWalletClient::private_key`. -/
def privateKey (passphrase : Passphrase) (publicKey : PublicKey) :
    WalletOp (Option PrivateKey) :=
  KeyService.privateKey publicKey passphrase

/-- `DefaultWalletClient::new_wallet`; `sk` is the key `generate_keypair` draws. -/
def newWallet (name : String) (passphrase : Passphrase) (sk : PrivateKey) : WalletOp Unit := do
  let (viewKey, _) ← KeyService.generateKeypair c.crypto passphrase sk
  WalletService.create name passphrase viewKey

/-- `DefaultWalletClient::new_public_key`. -/
def newPublicKey (name : String) (passphrase : Passphrase) (sk : PrivateKey) :
    WalletOp PublicKey := do
  let (publicKey, _) ← KeyService.generateKeypair c.crypto passphrase sk
  WalletService.addPublicKey name passphrase publicKey
  pure publicKey

/-- `DefaultWalletClient::new_staking_address`. -/
def newStakingAddress (name : String) (passphrase : Passphrase) (sk : PrivateKey) :
    WalletOp StakedStateAddress := do
  let publicKey ← c.newPublicKey name passphrase sk
  pure (.basicRedeem (c.crypto.redeemAddressOf publicKey))

/-- `DefaultWalletClient::new_multisig_transfer_address`. -/
def newMultisigTransferAddress (name : String) (passphrase : Passphrase)
    (publicKeys : List PublicKey) (selfPublicKey : PublicKey) (m n : ℕ) :
    WalletOp ExtendedAddr := do
  let _ ← transferAddresses name passphrase
  let rootHash ← RootHashService.newRootHash c.crypto publicKeys selfPublicKey m n passphrase
  WalletService.addRootHash name passphrase rootHash
  pure (.orTree rootHash)

/-- `DefaultWalletClient::new_transfer_address`: a 1-of-1 address of a new key. -/
def newTransferAddress (name : String) (passphrase : Passphrase) (sk : PrivateKey) :
    WalletOp ExtendedAddr := do
  let publicKey ← c.newPublicKey name passphrase sk
  c.newMultisigTransferAddress name passphrase [publicKey] publicKey 1 1

/-- `DefaultWalletClient::generate_proof`. -/
def generateProof (name : String) (passphrase : Passphrase) (address : ExtendedAddr)
    (publicKeys : List PublicKey) : WalletOp OrTreeProof := do
  let _ ← transferAddresses name passphrase
  match address with
  | .orTree rootHash => RootHashService.generateProof c.crypto rootHash publicKeys passphrase

/-- `DefaultWalletClient::required_cosigners`. -/
def requiredCosigners (name : String) (passphrase : Passphrase) (rootHash : H256) :
    WalletOp ℕ := do
  let _ ← transferAddresses name passphrase
  RootHashService.requiredSigners rootHash passphrase

/-- The body of `balance` after the addresses are read: the balances the index reports,
collected (the first failure is the result), and `sum_coins` of them, its failure reported
as `BalanceAdditionError`. -/
def sumBalances (addresses : List ExtendedAddr) : Except ErrorKind Coin := do
  let balances ← addresses.mapM fun address => (·.balance) <$> c.addressDetails address
  (sumCoins balances).mapError fun _ => .balanceAdditionError

/-- `DefaultWalletClient::balance`. -/
def balance (name : String) (passphrase : Passphrase) : WalletOp Coin := do
  let addresses ← transferAddresses name passphrase
  WalletOp.read fun _ => c.sumBalances addresses

/-! ### What each operation returns and writes -/

section Apply

variable {name : String} {passphrase : Passphrase} {st : WalletStorage}

open WalletService (getWallet)

lemma readWallet_of_getWallet {α : Type} {f : Wallet → α} {w : Wallet}
    (h : getWallet name passphrase st = .ok w) :
    WalletService.readWallet name passphrase f st = (.ok (f w), st) := by
  simp [h, Except.map]

lemma transferAddresses_apply : transferAddresses name passphrase st =
    ((getWallet name passphrase st).map fun w => w.rootHashes.map .orTree, st) := rfl

lemma transferAddresses_of_getWallet {w : Wallet} (h : getWallet name passphrase st = .ok w) :
    transferAddresses name passphrase st = (.ok (w.rootHashes.map .orTree), st) :=
  readWallet_of_getWallet h

/-- `new_wallet` stores the drawn key, then creates the wallet unless the name is taken. -/
lemma newWallet_apply (sk : PrivateKey) : c.newWallet name passphrase sk st =
    WalletService.create name passphrase (c.crypto.publicKeyOf sk)
      (st.setKey (c.crypto.publicKeyOf sk) ⟨passphrase, sk⟩) := rfl

/-- `new_public_key` stores the drawn key, then adds it to the wallet if the wallet reads. -/
lemma newPublicKey_apply (sk : PrivateKey) : c.newPublicKey name passphrase sk st =
    match getWallet name passphrase st with
    | .ok w => (.ok (c.crypto.publicKeyOf sk),
        (st.setKey (c.crypto.publicKeyOf sk) ⟨passphrase, sk⟩).setWallet name
          ⟨passphrase, { w with publicKeys := insertSet w.publicKeys (c.crypto.publicKeyOf sk) }⟩)
    | .error e => (.error e, st.setKey (c.crypto.publicKeyOf sk) ⟨passphrase, sk⟩) := by
  cases h : getWallet name passphrase st <;>
    simp [newPublicKey, WalletService.addPublicKey, WalletService.update_apply, h]

/-- `new_staking_address` writes what `new_public_key` writes. -/
lemma newStakingAddress_apply (sk : PrivateKey) : c.newStakingAddress name passphrase sk st =
    ((c.newPublicKey name passphrase sk st).1.map (.basicRedeem ∘ c.crypto.redeemAddressOf),
      (c.newPublicKey name passphrase sk st).2) := by
  rcases h : c.newPublicKey name passphrase sk st with ⟨_ | _, _⟩ <;>
    simp [newStakingAddress, h, Except.map]

/-- `new_multisig_transfer_address` writes nothing unless the wallet reads and the address
is valid; then it stores the address's record under its root and adds the root to the
wallet. -/
lemma newMultisigTransferAddress_apply (publicKeys : List PublicKey) (selfPublicKey : PublicKey)
    (m n : ℕ) : c.newMultisigTransferAddress name passphrase publicKeys selfPublicKey m n st =
    match getWallet name passphrase st with
    | .error e => (.error e, st)
    | .ok w =>
      if (MultiSigAddress.mk m n publicKeys selfPublicKey).Valid then
        (.ok (.orTree (c.crypto.orTreeRoot publicKeys m)),
          (st.setRootHash (c.crypto.orTreeRoot publicKeys m)
            ⟨passphrase, ⟨m, n, publicKeys, selfPublicKey⟩⟩).setWallet name
            ⟨passphrase, { w with
              rootHashes := insertSet w.rootHashes (c.crypto.orTreeRoot publicKeys m) }⟩)
      else (.error .invalidInput, st) := by
  cases h : getWallet name passphrase st with
  | error e => simp [newMultisigTransferAddress, transferAddresses_apply, h, Except.map]
  | ok w =>
    simp only [newMultisigTransferAddress, WalletOp.bind_apply, transferAddresses_of_getWallet h,
      RootHashService.newRootHash_apply]
    split_ifs <;> simp [WalletService.addRootHash, WalletService.update_apply, h]

lemma requiredCosigners_of_getWallet {w : Wallet} (h : getWallet name passphrase st = .ok w)
    (rootHash : H256) : requiredCosigners name passphrase rootHash st =
      RootHashService.requiredSigners rootHash passphrase st := by
  simp [requiredCosigners, transferAddresses_of_getWallet h]

lemma generateProof_of_getWallet {w : Wallet} (h : getWallet name passphrase st = .ok w)
    (rootHash : H256) (publicKeys : List PublicKey) :
    c.generateProof name passphrase (.orTree rootHash) publicKeys st =
      RootHashService.generateProof c.crypto rootHash publicKeys passphrase st := by
  simp [generateProof, transferAddresses_of_getWallet h]

lemma balance_of_transferAddresses {addresses : List ExtendedAddr}
    (h : (transferAddresses name passphrase st).1 = .ok addresses) :
    c.balance name passphrase st = (c.sumBalances addresses, st) := by
  simp [balance, show transferAddresses name passphrase st = (.ok addresses, st) from
    Prod.ext h rfl]

end Apply

/-! ### The balance -/

section Balance

variable {addresses : List ExtendedAddr} {balances : ExtendedAddr → Coin}

lemma mapM_balance_of_index
    (h : ∀ a ∈ addresses, ∃ d, c.addressDetails a = .ok d ∧ d.balance = balances a) :
    addresses.mapM (fun address => (·.balance) <$> c.addressDetails address) =
      .ok (addresses.map balances) := by
  induction addresses with
  | nil => rfl
  | cons a rest ih =>
    obtain ⟨d, hd, hb⟩ := h a (List.mem_cons_self _ _)
    rw [List.mapM_cons, hd, ih fun b hb => h b (List.mem_cons_of_mem _ hb), List.map_cons, ← hb]
    rfl

lemma sumBalances_of_index
    (h : ∀ a ∈ addresses, ∃ d, c.addressDetails a = .ok d ∧ d.balance = balances a) :
    c.sumBalances addresses =
      (sumCoins (addresses.map balances)).mapError fun _ => .balanceAdditionError := by
  rw [sumBalances, c.mapM_balance_of_index h]
  rfl

/-- **The balance is the exact sum.** When the index reports a balance for every transfer
address of the wallet, `balance` returns the exact sum of the balances if it is at most
`MAX_COIN`, and fails with `BalanceAdditionError` otherwise; the sum over any permutation
of the addresses is the same. -/
theorem balance_of_index {name : String} {passphrase : Passphrase} {st : WalletStorage}
    (hT : (transferAddresses name passphrase st).1 = .ok addresses)
    (hI : ∀ a ∈ addresses, ∃ d, c.addressDetails a = .ok d ∧ d.balance = balances a) :
    (Coin.total (addresses.map balances) ≤ maxCoin →
      ∃ b, c.balance name passphrase st = (.ok b, st) ∧
        b.amount = Coin.total (addresses.map balances)) ∧
    (maxCoin < Coin.total (addresses.map balances) →
      c.balance name passphrase st = (.error .balanceAdditionError, st)) ∧
    ∀ addresses', addresses'.Perm addresses → c.sumBalances addresses' = c.sumBalances addresses := by
  have hsum := sumCoins_sumsTo (addresses.map balances)
  rw [c.balance_of_transferAddresses hT, c.sumBalances_of_index hI]
  refine ⟨fun hle => ?_, fun hgt => ?_, fun addresses' hp => ?_⟩
  · cases hr : sumCoins (addresses.map balances) with
    | ok b => exact ⟨b, rfl, by rw [hr] at hsum; exact hsum⟩
    | error e => rw [hr] at hsum; exact absurd hsum (not_lt.2 hle)
  · cases hr : sumCoins (addresses.map balances) with
    | ok b => rw [hr] at hsum; exact absurd hgt (not_lt.2 (hsum ▸ b.amount_le))
    | error e => rfl
  · have hsum' := sumCoins_sumsTo (addresses'.map balances)
    rw [Coin.total_perm (hp.map _)] at hsum'
    rw [c.sumBalances_of_index fun a ha => hI a (hp.subset ha)]
    exact SumsTo.mapError_eq hsum' hsum _

/-- A hashing that derives each public key as the private key itself and hashes everything
to zero, to run the client on concrete storages. -/
def zeroCrypto : WalletCrypto where
  publicKeyOf sk := sk
  leafOf _ := H256.zero
  rootOf _ := H256.zero
  redeemAddressOf _ := ⟨List.replicate 20 0, by simp⟩

/-- A client whose index reports a balance of `MAX_COIN` at every address. -/
def maxIndexClient : DefaultWalletClient := ⟨zeroCrypto, fun _ => .ok ⟨Coin.max⟩⟩

/-- A storage holding one wallet with two transfer addresses. -/
def twoAddressWallet : WalletStorage :=
  WalletStorage.empty.setWallet "wallet_1"
    ⟨"passphrase", ⟨0, [0], [H256.zero, ⟨List.replicate 32 1, by simp⟩]⟩⟩

/-- Two balances of `MAX_COIN` already exceed `u64::MAX`; the balance fails. -/
theorem two_max_balances_overflow :
    maxIndexClient.balance "wallet_1" "passphrase" twoAddressWallet =
      (.error .balanceAdditionError, twoAddressWallet) :=
  (@balance_of_index maxIndexClient [.orTree H256.zero, .orTree ⟨List.replicate 32 1, by simp⟩]
    (fun _ => Coin.max) "wallet_1" "passphrase" twoAddressWallet rfl
    (fun _ _ => ⟨_, rfl, rfl⟩)).2.1 (by decide)

end Balance

end DefaultWalletClient

/-! ### The builder -/

/-- `UnauthorizedStorage`, the storage of a client built without one. -/
structure UnauthorizedStorage where

/-- `UnauthorizedIndex`, the index of a client built without one. -/
structure UnauthorizedIndex where

/-- `UnauthorizedTransactionBuilder`, the transaction builder of a client built without one. -/
structure UnauthorizedTransactionBuilder where

/-- `DefaultWalletClientBuilder`: the storage, index and transaction builder a client is built
from, and whether each was given. -/
structure DefaultWalletClientBuilder (S I T : Type) where
  storage : S
  index : I
  transactionBuilder : T
  storageSet : Bool
  indexSet : Bool
  transactionBuilderSet : Bool

namespace DefaultWalletClientBuilder

variable {S I T : Type}

/-- `DefaultWalletClientBuilder::default`, which `DefaultWalletClient::builder` returns. -/
def default :
    DefaultWalletClientBuilder UnauthorizedStorage UnauthorizedIndex UnauthorizedTransactionBuilder :=
  ⟨⟨⟩, ⟨⟩, ⟨⟩, false, false, false⟩

/-- `DefaultWalletClientBuilder::with_wallet`. -/
def withWallet {NS : Type} (b : DefaultWalletClientBuilder S I T) (storage : NS) :
    DefaultWalletClientBuilder NS I T :=
  ⟨storage, b.index, b.transactionBuilder, true, b.indexSet, b.transactionBuilderSet⟩

/-- `DefaultWalletClientBuilder::with_transaction_read`. -/
def withTransactionRead {NI : Type} (b : DefaultWalletClientBuilder S I T) (index : NI) :
    DefaultWalletClientBuilder S NI T :=
  ⟨b.storage, index, b.transactionBuilder, b.storageSet, true, b.transactionBuilderSet⟩

/-- `DefaultWalletClientBuilder::with_transaction_write`. -/
def withTransactionWrite {NT : Type} (b : DefaultWalletClientBuilder S I T)
    (transactionBuilder : NT) : DefaultWalletClientBuilder S I NT :=
  ⟨b.storage, b.index, transactionBuilder, b.storageSet, b.indexSet, true⟩

/-- `DefaultWalletClientBuilder::build`: the components `DefaultWalletClient::new` is given,
or `InvalidInput`. -/
def build (b : DefaultWalletClientBuilder S I T) : Except ErrorKind (S × I × T) :=
  if !b.indexSet && !b.transactionBuilderSet || b.storageSet && b.indexSet then
    .ok (b.storage, b.index, b.transactionBuilder)
  else .error .invalidInput

/-- **The builder contract.** `build` makes a client of the components given exactly when a
transaction builder comes with an index and an index with a storage: a client reads only
(with a storage or with none), reads with an index, or also writes. Every other combination
is `InvalidInput`. -/
theorem build_eq_ok_iff (b : DefaultWalletClientBuilder S I T) :
    (b.build = .ok (b.storage, b.index, b.transactionBuilder) ↔
      (b.transactionBuilderSet → b.indexSet) ∧ (b.indexSet → b.storageSet)) ∧
    (b.build ≠ .ok (b.storage, b.index, b.transactionBuilder) →
      b.build = .error .invalidInput) := by
  obtain ⟨_, _, _, storageSet, indexSet, transactionBuilderSet⟩ := b
  cases storageSet <;> cases indexSet <;> cases transactionBuilderSet <;> simp [build]

/- The configurations of the spec: storage only, storage and index, all three; and
`invalid_wallet_building`, a transaction builder without an index. -/
example (s : S) (i : I) (t : T) :
    (default.withWallet s).build = .ok (s, ⟨⟩, ⟨⟩) ∧
    ((default.withWallet s).withTransactionRead i).build = .ok (s, i, ⟨⟩) ∧
    (((default.withWallet s).withTransactionRead i).withTransactionWrite t).build =
      .ok (s, i, t) ∧
    (default.withTransactionWrite t).build = .error .invalidInput :=
  ⟨rfl, rfl, rfl, rfl⟩

end DefaultWalletClientBuilder

end CryptoChain
