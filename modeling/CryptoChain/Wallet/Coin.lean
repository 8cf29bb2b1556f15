import Mathlib.Data.List.Basic
import Mathlib.Tactic.Common

/-!
Amounts of `chain_core::init::coin`, modelled from the spec: a `Coin` is a `u64` at most
`MAX_COIN`, and "all arithmetic is checked; overflow and underflow are failures, not wraps".

* `Coin.add` is `Coin + Coin`: `checked_add` on the `u64`s, then the bound of `Coin::new`.
* `sumCoins` is `sum_coins`, the fold of `+` from zero.
* `sumCoins_sumsTo`: **the fold is exact**. It fails exactly when the exact total exceeds
  `MAX_COIN`, and otherwise returns the total; no partial sum can wrap in between.
-/

namespace CryptoChain

/-- Modelled from the spec: `MAX_COIN`, the largest amount, in base units: `10^19`, that is
`10^11` coins of `10^8` units each. -/
def maxCoin : ℕ := 10000000000000000000

lemma maxCoin_lt : maxCoin < UInt64.size := by decide

/-- Modelled from the spec: `Coin`, an integer in `[0, MAX_COIN]` held in a `u64`. -/
structure Coin where
  value : BitVec 64
  le_max : value.toNat ≤ maxCoin

/-- `CoinError`, the two ways a coin operation fails. -/
inductive CoinError where
  | overflow
  | outOfBound
  deriving DecidableEq

namespace Coin

/-- The amount of a coin. -/
def amount (c : Coin) : ℕ := c.value.toNat

lemma amount_le (c : Coin) : c.amount ≤ maxCoin := c.le_max

@[ext] lemma ext {a b : Coin} (h : a.amount = b.amount) : a = b := by
  cases a; cases b
  simp only [mk.injEq]
  exact BitVec.eq_of_toNat_eq h

/-- `Coin::zero()`. -/
def zero : Coin := ⟨0, Nat.zero_le _⟩

/-- Modelled from the spec: `Coin::new`, out of bound above `MAX_COIN`. -/
def new (v : BitVec 64) : Except CoinError Coin :=
  if h : v.toNat ≤ maxCoin then .ok ⟨v, h⟩ else .error .outOfBound

/-- Modelled from the spec: `Coin + Coin`, a checked `u64` addition followed by
`Coin::new`. -/
def add (a b : Coin) : Except CoinError Coin :=
  if a.value.toNat + b.value.toNat < UInt64.size then new (a.value + b.value) else .error .overflow

/-- The exact total of a list of coins. -/
def total (coins : List Coin) : ℕ := coins.foldr (fun c n => c.amount + n) 0

@[simp] lemma total_nil : total [] = 0 := rfl

@[simp] lemma total_cons (c : Coin) (coins : List Coin) :
    total (c :: coins) = c.amount + total coins := rfl

lemma total_perm {coins coins' : List Coin} (h : coins.Perm coins') : total coins = total coins' :=
  h.foldr_eq' (fun x _ y _ n => Nat.add_left_comm y.amount x.amount n) 0

/-- The coin of `MAX_COIN`. -/
def max : Coin := ⟨BitVec.ofNat 64 maxCoin, by rw [BitVec.toNat_ofNat, Nat.mod_eq_of_lt maxCoin_lt]⟩

end Coin

/-- Modelled from the spec: `sum_coins`, `+` folded over the coins from zero; the first
failure is the result. -/
def sumCoins (coins : List Coin) : Except CoinError Coin :=
  coins.foldl (fun acc c => acc.bind (·.add c)) (.ok Coin.zero)

/-! ### Exactness of the checked sum -/

/-- `r` is the checked result of an exact total `n`: the coin of amount `n`, or a failure
when `n` exceeds `MAX_COIN`. -/
def SumsTo (r : Except CoinError Coin) (n : ℕ) : Prop :=
  match r with
  | .ok c => c.amount = n
  | .error _ => maxCoin < n

lemma sumsTo_ok {c : Coin} {n : ℕ} : SumsTo (.ok c) n ↔ c.amount = n := Iff.rfl

lemma sumsTo_error {e : CoinError} {n : ℕ} : SumsTo (.error e) n ↔ maxCoin < n := Iff.rfl

lemma Coin.add_sumsTo (a b : Coin) : SumsTo (a.add b) (a.amount + b.amount) := by
  unfold Coin.add Coin.new
  have := maxCoin_lt
  split_ifs <;> simp_all [sumsTo_ok, sumsTo_error, Coin.amount, Nat.mod_eq_of_lt]
  omega

/-- One step of the fold keeps the result exact. -/
lemma SumsTo.step {acc : Except CoinError Coin} {n : ℕ} (h : SumsTo acc n) (c : Coin) :
    SumsTo (acc.bind (·.add c)) (n + c.amount) := by
  cases acc with
  | ok a => rw [← sumsTo_ok.1 h]; exact a.add_sumsTo c
  | error e => exact sumsTo_error.2 (by have := sumsTo_error.1 h; omega)

lemma SumsTo.foldl {acc : Except CoinError Coin} {n : ℕ} (h : SumsTo acc n) (coins : List Coin) :
    SumsTo (coins.foldl (fun acc c => acc.bind (·.add c)) acc)
      (n + Coin.total coins) := by
  induction coins generalizing acc n with
  | nil => simpa using h
  | cons c coins ih => simpa [Nat.add_assoc] using ih (h.step c)

/-- **`sum_coins` is exact.** -/
lemma sumCoins_sumsTo (coins : List Coin) : SumsTo (sumCoins coins) (Coin.total coins) := by
  simpa using (show SumsTo (.ok Coin.zero) 0 from rfl).foldl coins

/-- A checked result is decided by its total, up to the kind of failure. -/
lemma SumsTo.ok_unique {r : Except CoinError Coin} {n : ℕ} {c : Coin} (h : SumsTo r n)
    (hc : c.amount = n) : r = .ok c := by
  cases r with
  | ok a => exact congrArg _ (Coin.ext (h.trans hc.symm))
  | error e => exact absurd (sumsTo_error.1 h) (not_lt.2 (hc ▸ c.amount_le))

/-- Two checked results of one total fail or succeed together, with the same coin. -/
lemma SumsTo.mapError_eq {ε : Type} {r r' : Except CoinError Coin} {n : ℕ} (h : SumsTo r n)
    (h' : SumsTo r' n) (e : ε) : r.mapError (fun _ => e) = r'.mapError (fun _ => e) := by
  cases r with
  | ok a => rw [h'.ok_unique h]
  | error => cases r' with
    | ok a' => rw [h.ok_unique h']
    | error => rfl

end CryptoChain
