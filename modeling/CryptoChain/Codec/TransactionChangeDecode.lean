import CryptoChain.Codec.TransactionChange
import CryptoChain.Codec.ChronoValues

/-!
`TransactionChange::decode` (`client-common/src/balance/transaction_change.rs`) on inputs
that are not a whole encoding, and on what it returns.

* `decode_truncated_encoding`: on every proper start of an encoding `decode` fails, with
  `Not enough data to decode vector` when the cut falls inside the block time text and
  `Not enough data to fill buffer` when it falls before. Each field decoder fails on a
  proper start of its own encoding (`decodeH256_take`, `decodeBytes_take`, ...), and
  `bind_take_eq_error` carries that through the `?` chain, the error named by where the cut
  falls.
* `decode_encode_of_decode`: a change that `decode` returns encodes and decodes back to
  itself exactly. The leap seconds that the round trip moves (`decode_encode_append_iff`'s
  exception) are never returned by `from_str` (`fromStr_leapNormal`).
* `decode_ignores_trailing_bytes`: `decode` reads a prefix of its input, so a change it
  returns comes back with any bytes appended after the rest. Every decoder reads a prefix
  (`ReadsPrefix`), and `ReadsPrefix.bind` carries that through the `?` chain.
* `decode_panics_only_at_range_ends`: `decode` panics only through `from_str`, on a block time
  whose local date is the first day of `MIN_YEAR` or the last day of `MAX_YEAR`.
-/

namespace CryptoChain

namespace Scale

/-! ### Decoding a proper start of an encoding -/

lemma readBytes_of_lt {n : ℕ} {input : Bytes} (h : input.length < n) :
    readBytes n input = .error "Not enough data to fill buffer" := by
  rw [readBytes, if_neg (by omega)]

/-- A decoder that reads its whole encoding back and fails on every proper start of it,
followed by a step that fails on every proper start of what follows, fails on every proper
start of the two. The error may depend on where the cut falls (`g`), counted from the start
of the two. -/
lemma bind_take_eq_error {α β : Type} {D : Bytes → Except String (α × Bytes)} {e R : Bytes}
    {a : α} {f : α × Bytes → Except String β} {g : ℕ → String}
    (hc : ∀ r, D (e ++ r) = .ok (a, r)) (ht : ∀ n < e.length, D (e.take n) = .error (g n))
    (hf : ∀ m < R.length, f (a, R.take m) = .error (g (e.length + m))) {n : ℕ}
    (hn : n < (e ++ R).length) :
    (D ((e ++ R).take n) >>= f) = .error (g n) := by
  rw [List.take_append_eq_append_take]
  by_cases h : n < e.length
  · rw [Nat.sub_eq_zero_of_le h.le, List.take_zero, List.append_nil, ht n h]
    rfl
  · rw [List.take_of_length_le (by omega), hc]
    rw [List.length_append] at hn
    exact (hf _ (by omega)).trans (by rw [Nat.add_sub_cancel' (by omega)])

/-! ### Each field on a proper start of its encoding -/

lemma decodeH256_take (x : H256) : ∀ n < x.bytes.length,
    decodeH256 (x.bytes.take n) = .error "Not enough data to fill buffer" := by
  intro n hn
  have := x.length_eq
  rw [decodeH256, dif_neg (by simp only [List.length_take]; omega)]

lemma decodeU64_take (v : BitVec 64) : ∀ n < (encodeU64 v).length,
    decodeU64 ((encodeU64 v).take n) = .error "Not enough data to fill buffer" := by
  intro n hn
  simp only [encodeU64, length_leBytes] at hn
  rw [decodeU64, readBytes_of_lt (by simp; omega)]
  rfl

/-- A compact length whose first byte announces more bytes than follow. -/
lemma decodeCompact_short {b : UInt8} {bs : Bytes}
    (h : b.toNat % 4 = 1 ∧ bs.length < 1 ∨ b.toNat % 4 = 2 ∧ bs.length < 3 ∨
      b.toNat = 3 ∧ bs.length < 4) :
    decodeCompact (b :: bs) = .error "Not enough data to fill buffer" := by
  rcases h with ⟨hb, hl⟩ | ⟨hb, hl⟩ | ⟨hb, hl⟩
  · simp only [decodeCompact, hb]
    rw [readBytes_of_lt (by simp; omega)]
    rfl
  · simp only [decodeCompact, hb]
    rw [readBytes_of_lt (by simp; omega)]
    rfl
  · unfold decodeCompact
    simp only [hb]
    rw [readBytes_of_lt (by omega)]
    rfl

lemma decodeCompact_take (len : ℕ) : ∀ n < (encodeCompact len).length,
    decodeCompact ((encodeCompact len).take n) = .error "Not enough data to fill buffer" := by
  rintro (_ | n) hn
  · rfl
  unfold encodeCompact at hn ⊢
  split_ifs at hn ⊢
  · simp [leBytes] at hn
  · rw [leBytes, List.take_succ_cons]
    refine decodeCompact_short (.inl ⟨?_, ?_⟩)
    · rw [toNat_toUInt8 (Nat.mod_lt _ (by decide))]; omega
    · simp only [length_leBytes, List.length_take] at hn ⊢; omega
  · rw [leBytes, List.take_succ_cons]
    refine decodeCompact_short (.inr (.inl ⟨?_, ?_⟩))
    · rw [toNat_toUInt8 (Nat.mod_lt _ (by decide))]; omega
    · simp only [length_leBytes, List.length_take] at hn ⊢; omega
  · rw [List.take_succ_cons]
    refine decodeCompact_short (.inr (.inr ⟨rfl, ?_⟩))
    simp only [List.length_cons, length_leBytes, List.length_take] at hn ⊢; omega

/-- A cut byte string: in its length prefix the read of the prefix fails, past it the check
against the bytes left. -/
lemma decodeBytes_take {bs : Bytes} (hlen : bs.length < 4294967296) :
    ∀ n < (encodeBytes bs).length, decodeBytes ((encodeBytes bs).take n) =
      .error (if (encodeCompact bs.length).length ≤ n then "Not enough data to decode vector"
        else "Not enough data to fill buffer") := by
  intro n hn
  unfold decodeBytes encodeBytes at *
  apply bind_take_eq_error (decodeCompact_append hlen) _ _ hn
  · intro k hk
    rw [decodeCompact_take _ k hk, if_neg (by omega)]
  · intro m hm
    dsimp only
    rw [if_pos (by rw [List.length_take]; omega), if_pos (by omega)]

lemma decodeString_take {s : List Char}
    (hlen : (s.flatMap String.utf8EncodeChar).length < 4294967296) :
    ∀ n < (encodeString s).length, decodeString ((encodeString s).take n) =
      .error (if (encodeCompact (s.flatMap String.utf8EncodeChar).length).length ≤ n
        then "Not enough data to decode vector" else "Not enough data to fill buffer") := by
  intro n hn
  rw [decodeString, encodeString, decodeBytes_take hlen n hn]
  rfl

lemma decodeCoin_take (c : Coin) : ∀ n < (encodeCoin c).length,
    decodeCoin ((encodeCoin c).take n) = .error "Not enough data to fill buffer" := by
  intro n hn
  rw [decodeCoin, encodeCoin, decodeU64_take _ n hn]
  rfl

lemma decodeExtendedAddr_take (a : ExtendedAddr) : ∀ n < (encodeExtendedAddr a).length,
    decodeExtendedAddr ((encodeExtendedAddr a).take n) = .error "Not enough data to fill buffer" := by
  obtain ⟨root⟩ := a
  rintro (_ | n) hn
  · rfl
  rw [encodeExtendedAddr, List.take_succ_cons, decodeExtendedAddr, if_pos rfl,
    decodeH256_take root n (by simpa [encodeExtendedAddr] using hn)]
  rfl

lemma decodeBalanceChange_take (b : BalanceChange) : ∀ n < (encodeBalanceChange b).length,
    decodeBalanceChange ((encodeBalanceChange b).take n) =
      .error "Not enough data to fill buffer" := by
  rintro (_ | n) hn
  · cases b <;> rfl
  cases b with
  | incoming c =>
    rw [encodeBalanceChange, List.take_succ_cons, decodeBalanceChange, if_pos rfl,
      decodeCoin_take c n (by simpa [encodeBalanceChange] using hn)]
    rfl
  | outgoing c =>
    rw [encodeBalanceChange, List.take_succ_cons, decodeBalanceChange, if_neg (by decide),
      if_pos rfl, decodeCoin_take c n (by simpa [encodeBalanceChange] using hn)]
    rfl

/-! ### Reading a prefix -/

/-- A decoder reads a prefix of its input: bytes appended after the input are left unread,
after the rest it leaves. -/
def ReadsPrefix {α : Type} (D : Bytes → Except String (α × Bytes)) : Prop :=
  ∀ (input : Bytes) (a : α) (rest s : Bytes),
    D input = .ok (a, rest) → D (input ++ s) = .ok (a, rest ++ s)

/-- The step of a `?` chain after a decoder that reads a prefix. -/
lemma ReadsPrefix.bind {α β : Type} {D : Bytes → Except String (α × Bytes)}
    {F : α × Bytes → Except String (β × Bytes)} (hD : ReadsPrefix D)
    (hF : ∀ a, ReadsPrefix fun rest => F (a, rest)) : ReadsPrefix fun input => D input >>= F := by
  intro input b rest s h
  obtain ⟨⟨a, r⟩, hd, hf⟩ := Chrono.exists_of_bind_eq_ok h
  show D (input ++ s) >>= F = _
  rw [hD _ _ _ s hd]
  exact hF a _ _ _ s hf

lemma readsPrefix_pure {α : Type} (x : α) :
    ReadsPrefix fun rest => (pure (x, rest) : Except String (α × Bytes)) := by
  intro input a rest s h
  cases h
  rfl

lemma readsPrefix_readBytes (n : ℕ) : ReadsPrefix (readBytes n) := by
  intro input a rest s h
  unfold readBytes at h ⊢
  split_ifs at h with hn
  cases h
  rw [if_pos (by simp; omega), List.take_append_of_le_length hn, List.drop_append_of_le_length hn]

lemma readsPrefix_decodeU64 : ReadsPrefix decodeU64 :=
  (readsPrefix_readBytes 8).bind fun _ => readsPrefix_pure _

lemma readsPrefix_decodeH256 : ReadsPrefix decodeH256 := by
  intro input a rest s h
  unfold decodeH256 at h ⊢
  split_ifs at h with hn
  cases h
  rw [dif_pos (by simp; omega)]
  simp only [List.take_append_of_le_length hn, List.drop_append_of_le_length hn]

lemma readsPrefix_ite {α : Type} (p : Prop) [Decidable p] (x : α) (e : String) :
    ReadsPrefix fun rest => if p then (pure (x, rest) : Except String (α × Bytes)) else .error e := by
  intro input a rest s h
  split_ifs at h ⊢
  cases h
  rfl

/-- A read of `k` bytes, then a range check on the number they make. -/
lemma readsPrefix_readCheck (k : ℕ) (c : ℕ → Prop) [DecidablePred c] (f : Bytes → ℕ)
    (e : String) : ReadsPrefix fun input => readBytes k input >>= fun (bs, rest) =>
      if c (f bs) then (pure (f bs, rest) : Except String (ℕ × Bytes)) else .error e :=
  (readsPrefix_readBytes k).bind fun _ => readsPrefix_ite _ _ _

lemma readsPrefix_decodeCompact : ReadsPrefix decodeCompact := by
  rintro (_ | ⟨pre, tl⟩) a rest s h
  · cases h
  rw [List.cons_append]
  simp only [decodeCompact] at h ⊢
  split at h
  · cases h; rfl
  · exact readsPrefix_readCheck 2 (63 < ·) (ofLeBytes · / 4) _ _ _ _ s h
  · exact readsPrefix_readCheck 4 (16383 < ·) (ofLeBytes · / 4) _ _ _ _ s h
  · split_ifs at h ⊢
    exact readsPrefix_readCheck 4 (1073741823 < ·) ofLeBytes _ _ _ _ s h

lemma readsPrefix_dite {α : Type} (p : Prop) [Decidable p] (x : p → α) (e : String) :
    ReadsPrefix fun rest =>
      if h : p then (pure (x h, rest) : Except String (α × Bytes)) else .error e := by
  intro input a rest s h
  split_ifs at h ⊢
  cases h
  rfl

/-- A decoder followed by a map of the value it read. -/
lemma ReadsPrefix.map {α β : Type} {D : Bytes → Except String (α × Bytes)} (hD : ReadsPrefix D) (g : α → β) :
    ReadsPrefix fun input => D input >>= fun p => (pure (g p.1, p.2) : Except String (β × Bytes)) :=
  hD.bind fun a => readsPrefix_pure (g a)

/-- The check of `remaining_len` against the length, then the read: bytes appended leave
more to read, so a check that passed still passes. -/
lemma readsPrefix_checkedRead (len : ℕ) : ReadsPrefix fun rest : Bytes =>
    if rest.length < len then (.error "Not enough data to decode vector" : Except String _)
    else readBytes len rest := by
  intro input a rest s h
  dsimp only at h ⊢
  split_ifs at h with hl
  rw [if_neg (by rw [List.length_append]; omega)]
  exact readsPrefix_readBytes len _ _ _ s h

lemma readsPrefix_decodeBytes : ReadsPrefix decodeBytes :=
  readsPrefix_decodeCompact.bind readsPrefix_checkedRead

lemma readsPrefix_decodeString : ReadsPrefix decodeString :=
  readsPrefix_decodeBytes.bind fun bs input a rest s h => by
    dsimp only at h ⊢
    split at h
    · cases h; rfl
    · cases h

lemma readsPrefix_decodeCoin : ReadsPrefix decodeCoin :=
  readsPrefix_decodeU64.bind fun v => readsPrefix_dite (v.toNat ≤ maxCoin) _ _

lemma readsPrefix_decodeExtendedAddr : ReadsPrefix decodeExtendedAddr := by
  rintro (_ | ⟨b, tl⟩) a rest s h
  · cases h
  rw [List.cons_append]
  simp only [decodeExtendedAddr] at h ⊢
  split_ifs at h ⊢
  exact readsPrefix_decodeH256.map ExtendedAddr.orTree _ _ _ s h

lemma readsPrefix_decodeBalanceChange : ReadsPrefix decodeBalanceChange := by
  rintro (_ | ⟨b, tl⟩) a rest s h
  · cases h
  rw [List.cons_append]
  simp only [decodeBalanceChange] at h ⊢
  split_ifs at h ⊢
  · exact readsPrefix_decodeCoin.map BalanceChange.incoming _ _ _ s h
  · exact readsPrefix_decodeCoin.map BalanceChange.outgoing _ _ _ s h

end Scale

namespace TransactionChange

open Scale Chrono

/-! ### A cut encoding -/

/-- The block time text starts after the four fixed fields and the length prefix of the
text. -/
lemma encode_length_sub (x : TransactionChange) :
    x.encode.length - x.blockTime.toRfc3339.length = x.transactionId.bytes.length +
      (encodeExtendedAddr x.address).length + (encodeBalanceChange x.balanceChange).length +
      (encodeU64 x.blockHeight).length +
      (encodeCompact (x.blockTime.toRfc3339.flatMap String.utf8EncodeChar).length).length := by
  simp only [encode, encodeString, encodeBytes, List.length_append,
    flatMap_utf8EncodeChar_of_ascii x.blockTime.toRfc3339_ascii, List.length_map]
  omega

lemma decodeFields_take (x : TransactionChange) : ∀ n < x.encode.length,
    decodeFields (x.encode.take n) =
      .error (if x.encode.length - x.blockTime.toRfc3339.length ≤ n
        then "Not enough data to decode vector" else "Not enough data to fill buffer") := by
  intro n hn
  have hlen : (x.blockTime.toRfc3339.flatMap String.utf8EncodeChar).length < 4294967296 := by
    rw [flatMap_utf8EncodeChar_of_ascii x.blockTime.toRfc3339_ascii, List.length_map]
    exact x.blockTime.length_toRfc3339_lt
  rw [encode_length_sub]
  simp only [encode, List.append_assoc] at hn ⊢
  unfold decodeFields
  apply bind_take_eq_error (decodeH256_append _) _ _ hn
  · intro k hk
    rw [decodeH256_take _ k hk, if_neg (by omega)]
  intro m hm
  apply bind_take_eq_error (decodeExtendedAddr_append _) _ _ hm
  · intro k hk
    rw [decodeExtendedAddr_take _ k hk, if_neg (by omega)]
  intro m hm
  apply bind_take_eq_error (decodeBalanceChange_append _) _ _ hm
  · intro k hk
    rw [decodeBalanceChange_take _ k hk, if_neg (by omega)]
  intro m hm
  apply bind_take_eq_error (decodeU64_append _) _ _ hm
  · intro k hk
    rw [decodeU64_take _ k hk, if_neg (by omega)]
  intro m hm
  show decodeString _ >>= _ = _
  rw [decodeString_take hlen m hm]
  exact congrArg Except.error (if_congr (by omega) rfl rfl)

/-- **A cut encoding is refused.** `decode` on any proper start of the encoding of a change
fails, and never panics. A cut inside the block time text fails the check of the text's
length against the bytes left, `Not enough data to decode vector`; a cut before it, in a
fixed field or in the length prefix of the text, fails a read, `Not enough data to fill
buffer`. -/
theorem decode_truncated_encoding (x : TransactionChange) : ∀ n < x.encode.length,
    decode (x.encode.take n) =
      .ok (.error (if x.encode.length - x.blockTime.toRfc3339.length ≤ n
        then "Not enough data to decode vector" else "Not enough data to fill buffer")) := by
  intro n hn
  rw [decode, decodeFields_take x n hn]

/-- An outgoing zero coin from the zero tree address at block 1, at midnight of
1970-01-01. -/
def epochChange : TransactionChange where
  transactionId := H256.zero
  address := .orTree H256.zero
  balanceChange := .outgoing Coin.zero
  blockHeight := 1
  blockTime := ⟨⟨1970, 1, 1, by decide⟩, ⟨0, 0, by decide, by decide⟩⟩

set_option maxRecDepth 1000 in
/-- The fixed fields of `epochChange` take 82 bytes and the length prefix of its text one: a
cut at 82 leaves the prefix unread, a cut at 90 falls inside the text. -/
theorem epochChange_cuts :
    82 < epochChange.encode.length ∧
      decode (epochChange.encode.take 82) = .ok (.error "Not enough data to fill buffer") ∧
      90 < epochChange.encode.length ∧
      decode (epochChange.encode.take 90) = .ok (.error "Not enough data to decode vector") :=
  ⟨by decide, (decode_truncated_encoding epochChange 82 (by decide)).trans
      (by rw [if_neg (by decide)]),
    by decide, (decode_truncated_encoding epochChange 90 (by decide)).trans
      (by rw [if_pos (by decide)])⟩

/-! ### What `decode` returns -/

/-- **Decoded changes round-trip.** A change that `decode` returns, whatever the input, is
encoded and decoded back to itself, with exactly the bytes that follow. -/
theorem decode_encode_of_decode {input rest : Bytes} {x : TransactionChange}
    (h : decode input = .ok (.ok (x, rest))) (s : Bytes) :
    decode (x.encode ++ s) = .ok (.ok (x, s)) := by
  unfold decode at h
  split at h
  · cases h
  split at h <;> cases h
  rw [decode_encode_append]
  dsimp only
  rw [fromStr_leapNormal ‹_›]

/-- `epochChange` decodes to itself, and so with any bytes after it. -/
theorem epochChange_reencodes :
    decode (epochChange.encode ++ []) = .ok (.ok (epochChange, [])) ∧
      decode (epochChange.encode ++ [7]) = .ok (.ok (epochChange, [7])) :=
  have h : decode (epochChange.encode ++ []) = .ok (.ok (epochChange, [])) :=
    decode_encode_append epochChange []
  ⟨h, decode_encode_of_decode h [7]⟩

/-- **Where `decode` panics.** The only panic of `decode` is the shift of the block time to
UTC, and it happens only when the local date of the block time is the first day of
`MIN_YEAR` or the last day of `MAX_YEAR`. -/
theorem decode_panics_only_at_range_ends {input : Bytes} {msg : String}
    (h : decode input = .error msg) :
    msg = "`NaiveDateTime + Duration` overflowed" ∧
      ∃ transactionId address balanceChange blockHeight text rest p dt,
        decodeFields input =
          .ok ((transactionId, address, balanceChange, blockHeight, text), rest) ∧
        parse Parsed.new text rfc3339Items = .ok p ∧ p.toNaiveDatetimeWithOffset = .ok dt ∧
        ((dt.date.year = minYear ∧ dt.date.month = 1 ∧ dt.date.day = 1) ∨
          (dt.date.year = maxYear ∧ dt.date.month = 12 ∧ dt.date.day = 31)) := by
  unfold decode at h
  split at h
  · cases h
  split at h <;> cases h
  obtain ⟨hmsg, p, dt, hp, hdt, hdate⟩ := fromStr_panic ‹_›
  exact ⟨hmsg, _, _, _, _, _, _, p, dt, ‹_›, hp, hdt, hdate⟩

/-- The fields of `epochChange` with the last second of `MAX_YEAR` one hour west of UTC as
block time, which is past `MAX_YEAR` in UTC. -/
def overflowInput : Bytes :=
  H256.zero.bytes ++ encodeExtendedAddr (.orTree H256.zero) ++
    encodeBalanceChange (.outgoing Coin.zero) ++ encodeU64 1 ++
    encodeString "+262143-12-31T23:59:59-01:00".toList

set_option maxRecDepth 1000 in
/-- `decode` panics on `overflowInput`, whose local date is the last day of `MAX_YEAR`. -/
theorem overflowInput_panics :
    decode overflowInput = .error "`NaiveDateTime + Duration` overflowed" ∧
      ("`NaiveDateTime + Duration` overflowed" = "`NaiveDateTime + Duration` overflowed" ∧
        ∃ transactionId address balanceChange blockHeight text rest p dt,
          decodeFields overflowInput =
            .ok ((transactionId, address, balanceChange, blockHeight, text), rest) ∧
          parse Parsed.new text rfc3339Items = .ok p ∧ p.toNaiveDatetimeWithOffset = .ok dt ∧
          ((dt.date.year = minYear ∧ dt.date.month = 1 ∧ dt.date.day = 1) ∨
            (dt.date.year = maxYear ∧ dt.date.month = 12 ∧ dt.date.day = 31))) :=
  have h : decode overflowInput = .error "`NaiveDateTime + Duration` overflowed" := by rfl
  ⟨h, decode_panics_only_at_range_ends h⟩

/-! ### Trailing bytes -/

lemma readsPrefix_decodeFields : ReadsPrefix decodeFields :=
  readsPrefix_decodeH256.bind fun _ => readsPrefix_decodeExtendedAddr.bind fun _ =>
    readsPrefix_decodeBalanceChange.bind fun _ => readsPrefix_decodeU64.bind fun _ =>
      readsPrefix_decodeString.bind fun _ => readsPrefix_pure _

/-- **Trailing bytes are left unread.** Whatever the input, a change that `decode` returns is
returned again, with the same value, when bytes are appended to the input; they come after
the rest it leaves. -/
theorem decode_ignores_trailing_bytes {input rest : Bytes} {x : TransactionChange}
    (h : decode input = .ok (.ok (x, rest))) (s : Bytes) :
    decode (input ++ s) = .ok (.ok (x, rest ++ s)) := by
  unfold decode at h ⊢
  split at h
  · cases h
  rename_i transactionId address balanceChange blockHeight text rest' hf
  rw [readsPrefix_decodeFields _ _ _ s hf]
  dsimp only
  split at h <;> cases h
  rfl

/-- The fields of `epochChange` with its block time written with `Z`, which `to_rfc3339` never
writes. -/
def zuluInput : Bytes :=
  H256.zero.bytes ++ encodeExtendedAddr (.orTree H256.zero) ++
    encodeBalanceChange (.outgoing Coin.zero) ++ encodeU64 1 ++
    encodeString "1970-01-01T00:00:00Z".toList

set_option maxRecDepth 1000 in
/-- `zuluInput` decodes to `epochChange`, and so with a byte after it. -/
theorem zuluInput_trailing_byte :
    decode zuluInput = .ok (.ok (epochChange, [])) ∧
      decode (zuluInput ++ [9]) = .ok (.ok (epochChange, [] ++ [9])) :=
  have h : decode zuluInput = .ok (.ok (epochChange, [])) := by rfl
  ⟨h, decode_ignores_trailing_bytes h [9]⟩

end TransactionChange

end CryptoChain
