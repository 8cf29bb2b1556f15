import CryptoChain.Wallet.Storage

/-!
The three storage services of the wallet client, modelled from the spec (§4.F), each a
`WalletOp` on the shared storage:

* `KeyService`: `generateKeypair` stores the drawn private key sealed under the passphrase,
  keyed by its public key; `privateKey` reads it back.
* `WalletService`: `create` stores a new wallet record, `addPublicKey` and `addRootHash`
  update it through `update`, and the reads go through `readWallet`.
* `RootHashService`: `newRootHash` checks an `m`-of-`n` address, stores its record under the
  root of its OrTree, and `requiredSigners` and `generateProof` read it back.

Each function has one lemma saying what it returns and writes (`*_apply`, `*_eq_ok`),
which the client's lemmas cite instead of unfolding it.
-/

namespace CryptoChain

/-! ### The OrTree of a multi-signature address -/

namespace WalletCrypto

variable (crypto : WalletCrypto)

/-- Modelled from the spec: the leaves of the OrTree of an `m`-of-`n` address. "The tree
enumerates every M-subset of the N signers in sorted order; each leaf is the hash of the
concatenation of sorted compressed public keys in that subset." -/
def orTreeLeaves (publicKeys : List PublicKey) (m : ℕ) : List H256 :=
  ((publicKeys.insertionSort (· ≤ ·)).sublistsLen m).map crypto.leafOf

/-- The root of the OrTree, the address. -/
def orTreeRoot (publicKeys : List PublicKey) (m : ℕ) : H256 :=
  crypto.rootOf (crypto.orTreeLeaves publicKeys m)

/-- The leaf of a set of signers: the hash of their sorted keys. -/
def signersLeaf (signers : List PublicKey) : H256 :=
  crypto.leafOf (signers.insertionSort (· ≤ ·))

/-- Every `m` of the signer keys, in any order, make a leaf of the OrTree. -/
lemma signersLeaf_mem_orTreeLeaves {publicKeys signers : List PublicKey}
    (hs : signers.Subperm publicKeys) : crypto.signersLeaf signers ∈
      crypto.orTreeLeaves publicKeys signers.length := by
  have hsorted : (signers.insertionSort (· ≤ ·)).Sorted (· ≤ ·) := List.sorted_insertionSort _ _
  have hsub : (signers.insertionSort (· ≤ ·)).Sublist (publicKeys.insertionSort (· ≤ ·)) :=
    List.sublist_insertionSort' hsorted ((List.perm_insertionSort _ _).subperm.trans hs)
  exact List.mem_map_of_mem _
    (List.mem_sublistsLen.2 ⟨hsub, List.length_insertionSort _ _⟩)

end WalletCrypto

/-- Modelled from the spec: the checks `new_root_hash` makes on an `m`-of-`n` address: `n`
signer keys, among them the wallet's own ("to confirm self is a signer"), and
`0 < m ≤ n`. -/
def MultiSigAddress.Valid (a : MultiSigAddress) : Prop :=
  a.publicKeys.length = a.n ∧ a.selfPublicKey ∈ a.publicKeys ∧ 0 < a.m ∧ a.m ≤ a.n

instance (a : MultiSigAddress) : Decidable a.Valid :=
  inferInstanceAs (Decidable (_ ∧ _ ∧ _ ∧ _))

/-- An inclusion proof in an OrTree: the leaf and its position among the leaves. -/
structure OrTreeProof where
  leaf : H256
  index : ℕ

/-! ### `KeyService` -/

namespace KeyService

/-- Modelled from the spec: `KeyService::generate_keypair(passphrase)`, which "generates
`(priv, pub)`, stores `enc(priv)` keyed by `pub`". The drawn private key is `sk`. -/
def generateKeypair (crypto : WalletCrypto) (passphrase : Passphrase) (sk : PrivateKey) :
    WalletOp (PublicKey × PrivateKey) := fun st =>
  (.ok (crypto.publicKeyOf sk, sk), st.setKey (crypto.publicKeyOf sk) ⟨passphrase, sk⟩)

/-- Modelled from the spec: `KeyService::private_key(public_key, passphrase)`, the
decrypted private key, `None` when no key is stored under `public_key`. -/
def privateKey (publicKey : PublicKey) (passphrase : Passphrase) :
    WalletOp (Option PrivateKey) :=
  WalletOp.read fun st =>
    match st.keys publicKey with
    | none => .ok none
    | some s => (s.decrypt passphrase).map some

@[simp] lemma generateKeypair_apply (crypto : WalletCrypto) (passphrase : Passphrase)
    (sk : PrivateKey) (st : WalletStorage) :
    generateKeypair crypto passphrase sk st =
      (.ok (crypto.publicKeyOf sk, sk), st.setKey (crypto.publicKeyOf sk) ⟨passphrase, sk⟩) :=
  rfl

lemma privateKey_of_sealed {publicKey : PublicKey} {passphrase : Passphrase} {sk : PrivateKey}
    {st : WalletStorage} (h : st.keys publicKey = some ⟨passphrase, sk⟩) :
    privateKey publicKey passphrase st = (.ok (some sk), st) := by
  simp [privateKey, h, Except.map]

end KeyService

/-! ### `WalletService` -/

namespace WalletService

/-- Modelled from the spec: the wallet record under `name`, decrypted with `passphrase`;
`WalletNotFound` when there is none. -/
def getWallet (name : String) (passphrase : Passphrase) (st : WalletStorage) :
    Except ErrorKind Wallet :=
  match st.wallets name with
  | none => .error .walletNotFound
  | some s => s.decrypt passphrase

/-- Modelled from the spec: `WalletService::create(name, passphrase, view_key)`. "Wallet
records are created once", so an existing name is invalid input. -/
def create (name : String) (passphrase : Passphrase) (viewKey : PublicKey) : WalletOp Unit :=
  fun st =>
    if (st.wallets name).isSome then (.error .invalidInput, st)
    else (.ok (), st.setWallet name ⟨passphrase, ⟨viewKey, [], []⟩⟩)

/-- Modelled from the spec: a change of the record under `name`, read with `passphrase` and
stored again under it. -/
def update (name : String) (passphrase : Passphrase) (f : Wallet → Wallet) : WalletOp Unit :=
  fun st =>
    match getWallet name passphrase st with
    | .ok w => (.ok (), st.setWallet name ⟨passphrase, f w⟩)
    | .error e => (.error e, st)

/-- `WalletService::add_public_key`. -/
def addPublicKey (name : String) (passphrase : Passphrase) (publicKey : PublicKey) :
    WalletOp Unit :=
  update name passphrase fun w => { w with publicKeys := insertSet w.publicKeys publicKey }

/-- `WalletService::add_root_hash`. -/
def addRootHash (name : String) (passphrase : Passphrase) (rootHash : H256) : WalletOp Unit :=
  update name passphrase fun w => { w with rootHashes := insertSet w.rootHashes rootHash }

/-- Modelled from the spec: a read of the record under `name`; it writes nothing. -/
def readWallet {α : Type} (name : String) (passphrase : Passphrase) (f : Wallet → α) :
    WalletOp α :=
  WalletOp.read fun st => (getWallet name passphrase st).map f

/-- `WalletService::view_key`. -/
def viewKey (name : String) (passphrase : Passphrase) : WalletOp PublicKey :=
  readWallet name passphrase (·.viewKey)

/-- `WalletService::public_keys`. -/
def publicKeys (name : String) (passphrase : Passphrase) : WalletOp (List PublicKey) :=
  readWallet name passphrase (·.publicKeys)

/-- `WalletService::root_hashes`. -/
def rootHashes (name : String) (passphrase : Passphrase) : WalletOp (List H256) :=
  readWallet name passphrase (·.rootHashes)

/-- `WalletService::staking_addresses`: the redeem addresses of the public keys. -/
def stakingAddresses (crypto : WalletCrypto) (name : String) (passphrase : Passphrase) :
    WalletOp (List StakedStateAddress) :=
  readWallet name passphrase fun w => w.publicKeys.map (.basicRedeem ∘ crypto.redeemAddressOf)

/-- `WalletService::transfer_addresses`: the OrTree addresses of the root hashes. -/
def transferAddresses (name : String) (passphrase : Passphrase) :
    WalletOp (List ExtendedAddr) :=
  readWallet name passphrase fun w => w.rootHashes.map .orTree

lemma getWallet_eq_ok {name : String} {passphrase : Passphrase} {st : WalletStorage}
    {w : Wallet} : getWallet name passphrase st = .ok w ↔
      st.wallets name = some ⟨passphrase, w⟩ := by
  unfold getWallet
  split <;> simp_all [Sealed.decrypt_eq_ok]
  constructor
  · rintro ⟨rfl, rfl⟩; rfl
  · rintro rfl; simp

@[simp] lemma getWallet_setKey (name : String) (passphrase : Passphrase) (st : WalletStorage)
    (pk : PublicKey) (s : Sealed PrivateKey) :
    getWallet name passphrase (st.setKey pk s) = getWallet name passphrase st := rfl

@[simp] lemma getWallet_setRootHash (name : String) (passphrase : Passphrase)
    (st : WalletStorage) (r : H256) (s : Sealed MultiSigAddress) :
    getWallet name passphrase (st.setRootHash r s) = getWallet name passphrase st := rfl

lemma create_apply (name : String) (passphrase : Passphrase) (viewKey : PublicKey)
    (st : WalletStorage) : create name passphrase viewKey st =
      if (st.wallets name).isSome then (.error .invalidInput, st)
      else (.ok (), st.setWallet name ⟨passphrase, ⟨viewKey, [], []⟩⟩) := rfl

lemma update_apply (name : String) (passphrase : Passphrase) (f : Wallet → Wallet)
    (st : WalletStorage) : update name passphrase f st =
      match getWallet name passphrase st with
      | .ok w => (.ok (), st.setWallet name ⟨passphrase, f w⟩)
      | .error e => (.error e, st) := rfl

@[simp] lemma readWallet_apply {α : Type} (name : String) (passphrase : Passphrase)
    (f : Wallet → α) (st : WalletStorage) :
    readWallet name passphrase f st = ((getWallet name passphrase st).map f, st) := rfl

lemma readWallet_eq_ok {α : Type} {name : String} {passphrase : Passphrase} {f : Wallet → α}
    {st : WalletStorage} {a : α} : (readWallet name passphrase f st).1 = .ok a ↔
      ∃ w, st.wallets name = some ⟨passphrase, w⟩ ∧ f w = a := by
  rw [readWallet_apply]
  cases h : getWallet name passphrase st <;>
    simp_all [Except.map, ← getWallet_eq_ok]

end WalletService

/-! ### `RootHashService` -/

namespace RootHashService

/-- Modelled from the spec: `RootHashService::new_root_hash(public_keys, self_public_key,
m, n, passphrase)`, which "builds the OrTree root for M-of-N given the N signer public keys
and the "self" key (to confirm self is a signer); stores it". -/
def newRootHash (crypto : WalletCrypto) (publicKeys : List PublicKey)
    (selfPublicKey : PublicKey) (m n : ℕ) (passphrase : Passphrase) : WalletOp H256 :=
  fun st =>
    let address : MultiSigAddress := ⟨m, n, publicKeys, selfPublicKey⟩
    if address.Valid then
      (.ok (crypto.orTreeRoot publicKeys m),
        st.setRootHash (crypto.orTreeRoot publicKeys m) ⟨passphrase, address⟩)
    else (.error .invalidInput, st)

/-- Modelled from the spec: the record stored under `rootHash`, decrypted with
`passphrase`. -/
def getAddress (rootHash : H256) (passphrase : Passphrase) (st : WalletStorage) :
    Except ErrorKind MultiSigAddress :=
  match st.rootHashes rootHash with
  | none => .error .notFound
  | some s => s.decrypt passphrase

/-- Modelled from the spec: `RootHashService::required_signers`, the `m` of the address. -/
def requiredSigners (rootHash : H256) (passphrase : Passphrase) : WalletOp ℕ :=
  WalletOp.read fun st => (getAddress rootHash passphrase st).map (·.m)

/-- Modelled from the spec: `RootHashService::generate_proof`, which "can generate an
inclusion proof for any signing subset": the proof of the signers' leaf, invalid input when
it is not a leaf of the address's OrTree. -/
def generateProof (crypto : WalletCrypto) (rootHash : H256) (signers : List PublicKey)
    (passphrase : Passphrase) : WalletOp OrTreeProof :=
  WalletOp.read fun st => do
    let address ← getAddress rootHash passphrase st
    let leaves := crypto.orTreeLeaves address.publicKeys address.m
    let leaf := crypto.signersLeaf signers
    if leaf ∈ leaves then .ok ⟨leaf, leaves.indexOf leaf⟩ else .error .invalidInput

lemma newRootHash_apply (crypto : WalletCrypto) (publicKeys : List PublicKey)
    (selfPublicKey : PublicKey) (m n : ℕ) (passphrase : Passphrase) (st : WalletStorage) :
    newRootHash crypto publicKeys selfPublicKey m n passphrase st =
      if (MultiSigAddress.mk m n publicKeys selfPublicKey).Valid then
        (.ok (crypto.orTreeRoot publicKeys m), st.setRootHash (crypto.orTreeRoot publicKeys m)
          ⟨passphrase, ⟨m, n, publicKeys, selfPublicKey⟩⟩)
      else (.error .invalidInput, st) := rfl

lemma getAddress_of_sealed {rootHash : H256} {passphrase : Passphrase}
    {address : MultiSigAddress} {st : WalletStorage}
    (h : st.rootHashes rootHash = some ⟨passphrase, address⟩) :
    getAddress rootHash passphrase st = .ok address := by
  simp [getAddress, h]

/-- A stored address answers `required_signers` with its `m`, and proves every `m` of its
signer keys. -/
lemma generateProof_of_sealed (crypto : WalletCrypto) {rootHash : H256}
    {passphrase : Passphrase} {address : MultiSigAddress} {st : WalletStorage}
    (h : st.rootHashes rootHash = some ⟨passphrase, address⟩) {signers : List PublicKey}
    (hs : signers.Subperm address.publicKeys) (hm : signers.length = address.m) :
    ∃ proof, generateProof crypto rootHash signers passphrase st = (.ok proof, st) := by
  have hmem := crypto.signersLeaf_mem_orTreeLeaves hs
  rw [hm] at hmem
  simp [generateProof, getAddress_of_sealed h, hmem, bind, Except.bind]

end RootHashService

end CryptoChain
