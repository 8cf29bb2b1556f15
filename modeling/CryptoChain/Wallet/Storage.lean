import CryptoChain.Node.Abci
import Mathlib.Data.List.Sort
import Mathlib.Data.List.Sublists

/-!
The storage shared by the services of `DefaultWalletClient`
(`client-core/src/wallet/default_wallet_client.rs`), and the operations on it.

The client holds `KeyService`, `WalletService` and `RootHashService`, all over
one `Storage`. Their code is not part of the sources read here; the spec
describes them (§4.F, §6 "Wallet storage layout"), and the model follows its
words:

* `Sealed`: a value stored with the passphrase that encrypts it; reading it
  with another passphrase fails with permission denied.
* `WalletStorage`: three keyspaces, `pubkey → enc(privkey)` of the key
  service, `name → enc(wallet)` of the wallet service, and
  `root hash → enc(multi-sig address)` of the root-hash service.
* `WalletOp`: an operation on the storage that returns its result together
  with the storage it leaves. A Rust `?` returns early but keeps what was
  written before it, so a failed operation returns the storage as it left it.
* `WalletCrypto`: the hashing and key derivation the services use, taken as
  parameters.
-/

namespace CryptoChain

/-- `SecUtf8`, a passphrase. -/
abbrev Passphrase := String

/-- A secp256k1 `PublicKey`, named by a number and ordered as the
serialized keys are. -/
abbrev PublicKey := ℕ

/-- A secp256k1 `PrivateKey`. -/
abbrev PrivateKey := ℕ

/-- The kinds of `client_common::Error` the modelled operations report. -/
inductive ErrorKind where
  | invalidInput
  | permissionDenied
  | walletNotFound
  | privateKeyNotFound
  | notFound
  | balanceAdditionError
  deriving DecidableEq, Repr

/-- `ExtendedAddr`, whose one variant is the root of an OrTree. -/
inductive ExtendedAddr where
  | orTree (root : H256)
  deriving DecidableEq

/-- The hashing and key derivation of the wallet services: `PublicKey::from`,
the leaf of a signing subset (the hash of its sorted keys), the root of the
Merkle tree over the leaves, and `RedeemAddress::from`. -/
structure WalletCrypto where
  publicKeyOf : PrivateKey → PublicKey
  leafOf : List PublicKey → H256
  rootOf : List H256 → H256
  redeemAddressOf : PublicKey → RedeemAddress

/-! ### Records and the storage -/

/-- A value as `Storage::set_secure` keeps it: encrypted under a passphrase. -/
structure Sealed (α : Type) where
  passphrase : Passphrase
  value : α

/-- Modelled from the spec: `get_secure`'s decryption, which fails with
permission denied under a wrong passphrase ("reads under a wrong passphrase
fail with a permission-denied failure"). -/
def Sealed.decrypt {α : Type} (s : Sealed α) (passphrase : Passphrase) : Except ErrorKind α :=
  if s.passphrase = passphrase then .ok s.value else .error .permissionDenied

@[simp] lemma Sealed.decrypt_self {α : Type} (p : Passphrase) (a : α) :
    (Sealed.mk p a).decrypt p = .ok a := by
  simp [decrypt]

lemma Sealed.decrypt_eq_ok {α : Type} {s : Sealed α} {p : Passphrase} {a : α} :
    s.decrypt p = .ok a ↔ s.passphrase = p ∧ s.value = a := by
  unfold decrypt
  split <;> simp_all

/-- Modelled from the spec: an insertion into a set that keeps the elements
in the order they were added. -/
def insertSet {α : Type} [DecidableEq α] (l : List α) (a : α) : List α :=
  if a ∈ l then l else l ++ [a]

@[simp] lemma mem_insertSet {α : Type} [DecidableEq α] {l : List α} {a b : α} :
    b ∈ insertSet l a ↔ b ∈ l ∨ b = a := by
  unfold insertSet
  split <;> simp_all [or_iff_left_of_imp]

/-- Modelled from the spec: the wallet record, `{view_key, public_keys,
root_hashes}`; the staking addresses are those of the public keys. -/
structure Wallet where
  viewKey : PublicKey
  publicKeys : List PublicKey
  rootHashes : List H256

/-- Modelled from the spec: the record the root-hash service keeps for an
`m`-of-`n` address: the signer keys as given and the wallet's own key. -/
structure MultiSigAddress where
  m : ℕ
  n : ℕ
  publicKeys : List PublicKey
  selfPublicKey : PublicKey

/-- The three keyspaces of the shared storage. -/
structure WalletStorage where
  keys : PublicKey → Option (Sealed PrivateKey)
  wallets : String → Option (Sealed Wallet)
  rootHashes : H256 → Option (Sealed MultiSigAddress)

namespace WalletStorage

/-- An empty storage. -/
def empty : WalletStorage := ⟨fun _ => none, fun _ => none, fun _ => none⟩

/-- `set_secure` in the key service's keyspace. -/
def setKey (st : WalletStorage) (pk : PublicKey) (s : Sealed PrivateKey) : WalletStorage :=
  { st with keys := Function.update st.keys pk (some s) }

/-- `set_secure` in the wallet service's keyspace. -/
def setWallet (st : WalletStorage) (name : String) (s : Sealed Wallet) : WalletStorage :=
  { st with wallets := Function.update st.wallets name (some s) }

/-- `set_secure` in the root-hash service's keyspace. -/
def setRootHash (st : WalletStorage) (r : H256) (s : Sealed MultiSigAddress) : WalletStorage :=
  { st with rootHashes := Function.update st.rootHashes r (some s) }

variable (st : WalletStorage)

@[simp] lemma setKey_keys (pk : PublicKey) (s : Sealed PrivateKey) :
    (st.setKey pk s).keys = Function.update st.keys pk (some s) := rfl
@[simp] lemma setKey_wallets (pk : PublicKey) (s : Sealed PrivateKey) :
    (st.setKey pk s).wallets = st.wallets := rfl
@[simp] lemma setKey_rootHashes (pk : PublicKey) (s : Sealed PrivateKey) :
    (st.setKey pk s).rootHashes = st.rootHashes := rfl
@[simp] lemma setWallet_keys (name : String) (s : Sealed Wallet) :
    (st.setWallet name s).keys = st.keys := rfl
@[simp] lemma setWallet_wallets (name : String) (s : Sealed Wallet) :
    (st.setWallet name s).wallets = Function.update st.wallets name (some s) := rfl
@[simp] lemma setWallet_rootHashes (name : String) (s : Sealed Wallet) :
    (st.setWallet name s).rootHashes = st.rootHashes := rfl
@[simp] lemma setRootHash_keys (r : H256) (s : Sealed MultiSigAddress) :
    (st.setRootHash r s).keys = st.keys := rfl
@[simp] lemma setRootHash_wallets (r : H256) (s : Sealed MultiSigAddress) :
    (st.setRootHash r s).wallets = st.wallets := rfl
@[simp] lemma setRootHash_rootHashes (r : H256) (s : Sealed MultiSigAddress) :
    (st.setRootHash r s).rootHashes = Function.update st.rootHashes r (some s) := rfl

end WalletStorage

/-! ### Operations on the storage -/

/-- An operation on the shared storage: its result, and the storage it
leaves, which keeps every write made before a failure. -/
def WalletOp (α : Type) : Type := WalletStorage → Except ErrorKind α × WalletStorage

namespace WalletOp

/-- `Ok(a)`, writing nothing. -/
protected def pure {α : Type} (a : α) : WalletOp α := fun st => (.ok a, st)

/-- `x?` followed by `f`: an error returns at once, with the storage `x` left. -/
protected def bind {α β : Type} (x : WalletOp α) (f : α → WalletOp β) : WalletOp β := fun st =>
  match x st with
  | (.ok a, st') => f a st'
  | (.error e, st') => (.error e, st')

instance : Monad WalletOp where
  pure := WalletOp.pure
  bind := WalletOp.bind

/-- A read of the storage. -/
def read {α : Type} (f : WalletStorage → Except ErrorKind α) : WalletOp α := fun st => (f st, st)

/-- A write to the storage. -/
def write (f : WalletStorage → WalletStorage) : WalletOp Unit := fun st => (.ok (), f st)

/-- `Err(kind)`. -/
def fail {α : Type} (e : ErrorKind) : WalletOp α := fun st => (.error e, st)

@[simp] lemma bind_apply {α β : Type} (x : WalletOp α) (f : α → WalletOp β) (st : WalletStorage) :
    (x >>= f) st = match x st with
      | (.ok a, st') => f a st'
      | (.error e, st') => (.error e, st') := rfl

@[simp] lemma pure_apply {α : Type} (a : α) (st : WalletStorage) :
    (pure a : WalletOp α) st = (.ok a, st) := rfl

@[simp] lemma read_apply {α : Type} (f : WalletStorage → Except ErrorKind α) (st : WalletStorage) :
    read f st = (f st, st) := rfl

@[simp] lemma write_apply (f : WalletStorage → WalletStorage) (st : WalletStorage) :
    write f st = (.ok (), f st) := rfl

@[simp] lemma fail_apply {α : Type} (e : ErrorKind) (st : WalletStorage) :
    (fail e : WalletOp α) st = (.error e, st) := rfl

@[simp] lemma discard_apply {α : Type} (x : WalletOp α) (st : WalletStorage) :
    discard x st = match x st with
      | (.ok _, st') => (.ok (), st')
      | (.error e, st') => (.error e, st') := rfl

@[simp] lemma discard_snd {α : Type} (x : WalletOp α) (st : WalletStorage) :
    (discard x st).2 = (x st).2 := by
  rcases hx : x st with ⟨_ | _, _⟩ <;> simp [hx]

lemma discard_eq_error {α : Type} {x : WalletOp α} {st st' : WalletStorage} {e : ErrorKind}
    (h : discard x st = (.error e, st')) : x st = (.error e, st') := by
  rcases hx : x st with ⟨_ | _, _⟩ <;> simp_all

end WalletOp

end CryptoChain
