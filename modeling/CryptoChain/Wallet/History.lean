import CryptoChain.Wallet.Client
import CryptoChain.Codec.TransactionChange

/-!
`history` and `unspent_transactions` of `DefaultWalletClient`
(`client-core/src/wallet/default_wallet_client.rs`), which read the parts of
`AddressDetails` that `balance` does not.

* `IndexedWalletClient`: the client over an index that reports the whole `AddressDetails`
  (`AddressRecord`); `toClient` is the client the other operations see, whose index reports
  the balance part.
* `history` collects the histories with `collect::<Result<Vec<_>>>`, `unspent_transactions`
  extends a vector in a `for` loop (`extendUnspent`, by induction `extendUnspent_eq`).
* `address_views_of_readDetails`: `balance`, `history` and `unspent_transactions` are three
  views of one read, `readDetails`: the wallet's transfer addresses, then the details of each
  in turn up to the first failure. They write nothing and fail together, with the same
  error, except that `balance` fails too when the sum overflows.
-/

namespace CryptoChain

/-- `AddressDetails` in full: the balance, the transaction history, and the unspent
transactions as `(TxoPointer, TxOut)` pairs. -/
structure AddressRecord (Utxo : Type) where
  balance : Coin
  transactionHistory : List TransactionChange
  unspentTransactions : List Utxo

/-- `DefaultWalletClient` over an index that reports the whole `AddressDetails`. -/
structure IndexedWalletClient (Utxo : Type) where
  crypto : WalletCrypto
  addressDetails : ExtendedAddr → Except ErrorKind (AddressRecord Utxo)

lemma mapM_fmap {ε α β γ : Type} (g : β → γ) (f : α → Except ε β) (l : List α) :
    l.mapM (fun a => g <$> f a) = List.map g <$> l.mapM f := by
  induction l with
  | nil => rfl
  | cons a l ih =>
    rw [List.mapM_cons, List.mapM_cons, ih]
    cases f a <;> cases l.mapM f <;> rfl

namespace IndexedWalletClient

variable {Utxo : Type} (c : IndexedWalletClient Utxo)

open DefaultWalletClient (transferAddresses)

/-- The client the operations that read only the balance see. -/
def toClient : DefaultWalletClient :=
  ⟨c.crypto, fun address => (fun d => ⟨d.balance⟩) <$> c.addressDetails address⟩

/-- `DefaultWalletClient::history`. -/
def history (name : String) (passphrase : Passphrase) : WalletOp (List TransactionChange) := do
  let addresses ← transferAddresses name passphrase
  WalletOp.read fun _ => do
    let histories ← addresses.mapM fun address =>
      (·.transactionHistory) <$> c.addressDetails address
    pure histories.flatten

/-- The loop of `unspent_transactions`: the unspent transactions of each address in turn,
appended to the vector, up to the first address whose details fail. -/
def extendUnspent : List ExtendedAddr → List Utxo → Except ErrorKind (List Utxo)
  | [], unspentTransactions => .ok unspentTransactions
  | address :: addresses, unspentTransactions => do
    let details ← c.addressDetails address
    extendUnspent addresses (unspentTransactions ++ details.unspentTransactions)

/-- `DefaultWalletClient::unspent_transactions`. -/
def unspentTransactions (name : String) (passphrase : Passphrase) : WalletOp (List Utxo) := do
  let addresses ← transferAddresses name passphrase
  WalletOp.read fun _ => c.extendUnspent addresses []

/-- The details of each transfer address of the wallet, read in turn up to the first
failure. -/
def readDetails (name : String) (passphrase : Passphrase) (st : WalletStorage) :
    Except ErrorKind (List (AddressRecord Utxo)) :=
  (transferAddresses name passphrase st).1 >>= fun addresses => addresses.mapM c.addressDetails

/-- The loop appends the unspent transactions of the details read, in order. -/
lemma extendUnspent_eq (addresses : List ExtendedAddr) (unspentTransactions : List Utxo) :
    c.extendUnspent addresses unspentTransactions =
      (fun ds => unspentTransactions ++ (ds.map (·.unspentTransactions)).flatten) <$>
        addresses.mapM c.addressDetails := by
  induction addresses generalizing unspentTransactions with
  | nil => exact congrArg Except.ok (List.append_nil _).symm
  | cons address addresses ih =>
    rw [extendUnspent, List.mapM_cons]
    cases c.addressDetails address with
    | error e => rfl
    | ok d =>
      show c.extendUnspent addresses _ = _
      rw [ih]
      cases addresses.mapM c.addressDetails with
      | error e => rfl
      | ok ds => exact congrArg Except.ok (by simp)

lemma readDetails_of_transferAddresses {name : String} {passphrase : Passphrase}
    {st : WalletStorage} {e : ErrorKind}
    (h : (transferAddresses name passphrase st).1 = .error e) :
    c.readDetails name passphrase st = .error e := by
  rw [readDetails, h]
  rfl

/-- **Three views of one read.** `balance`, `history` and `unspent_transactions` write
nothing, and each is computed from `readDetails`: the balances summed with the overflow
check, the histories and the unspent transactions concatenated, address after address. So
the three fail together, with the same error, whenever the transfer addresses or the details
of one of them cannot be read. -/
theorem address_views_of_readDetails (name : String) (passphrase : Passphrase)
    (st : WalletStorage) :
    c.toClient.balance name passphrase st =
        (c.readDetails name passphrase st >>= fun ds =>
          (sumCoins (ds.map (·.balance))).mapError fun _ => .balanceAdditionError, st) ∧
      c.history name passphrase st =
        ((fun ds => (ds.map (·.transactionHistory)).flatten) <$> c.readDetails name passphrase st,
          st) ∧
      c.unspentTransactions name passphrase st =
        ((fun ds => (ds.map (·.unspentTransactions)).flatten) <$>
          c.readDetails name passphrase st, st) := by
  rcases h : (transferAddresses name passphrase st).1 with e | addresses
  · have hst : transferAddresses name passphrase st = (.error e, st) := Prod.ext h rfl
    simp only [DefaultWalletClient.balance, history, unspentTransactions, WalletOp.bind_apply, hst,
      c.readDetails_of_transferAddresses h]
    exact ⟨rfl, rfl, rfl⟩
  · have hst : transferAddresses name passphrase st = (.ok addresses, st) := Prod.ext h rfl
    have hrd : c.readDetails name passphrase st = addresses.mapM c.addressDetails := by
      rw [readDetails, h]
      rfl
    have hbal : addresses.mapM (fun a => (·.balance) <$> c.toClient.addressDetails a) =
        List.map (·.balance) <$> addresses.mapM c.addressDetails := by
      rw [← mapM_fmap]
      congr 1
      funext a
      simp only [toClient]
      cases c.addressDetails a <;> rfl
    simp only [DefaultWalletClient.balance, history, unspentTransactions, WalletOp.bind_apply, hst,
      WalletOp.read_apply, hrd, DefaultWalletClient.sumBalances, c.extendUnspent_eq]
    rw [hbal, mapM_fmap]
    refine ⟨?_, ?_, ?_⟩ <;> cases addresses.mapM c.addressDetails <;> rfl

end IndexedWalletClient

end CryptoChain
