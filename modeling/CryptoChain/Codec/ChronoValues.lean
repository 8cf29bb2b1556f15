import CryptoChain.Codec.ChronoParse

/-!
What `DateTime::<Utc>::from_str` returns, whatever the text: the facts about chrono that the
decoding of a `TransactionChange` rests on beyond the round trip of `ChronoParse`.

* `parse_offsetWhole`: the offset the items set is a whole number of minutes. Only the
  offset item sets it, to what `timezone_offset` reads (`timezoneOffset_whole`), and every
  item keeps that (`parseItem_offsetWhole`, then `parseItems_offsetWhole` over the run).
* `Parsed.toNaiveTime_leap`: `to_naive_time` resolves a leap second only in the 59th second
  of a minute, and `NaiveDateTime.subOffset_time`: a shift by whole minutes keeps the
  fraction and the second within the minute.
* `fromStr_leapNormal`: so `from_str` never returns a leap second outside the 59th second,
  which is what the round trip of `to_rfc3339` moves.
* `fromStr_panic`: the shift to UTC is its only panic, and it happens only on a local date
  that is the first day of `MIN_YEAR` or the last day of `MAX_YEAR`.
-/

namespace CryptoChain

namespace Chrono

/-- A `?` chain that succeeds went through a success. -/
lemma exists_of_bind_eq_ok {ε α β : Type} {x : Except ε α} {f : α → Except ε β} {b : β}
    (h : x >>= f = .ok b) : ∃ a, x = .ok a ∧ f a = .ok b := by
  cases x with
  | error e => cases h
  | ok a => exact ⟨a, rfl, h⟩

/-! ### The offset of the parsed fields -/

/-- A `timezone_offset` is whole minutes. -/
lemma timezoneOffset_whole {s s' : List Char} {off : ℤ} (h : timezoneOffset s = .ok (s', off)) :
    off % 60 = 0 := by
  unfold timezoneOffset at h
  split at h
  · cases h
  split at h
  · obtain ⟨⟨h₁, h₂, s₁⟩, -, h⟩ := exists_of_bind_eq_ok h
    dsimp only at h
    split at h
    · obtain ⟨⟨m₁, m₂, s₂⟩, -, h⟩ := exists_of_bind_eq_ok h
      dsimp only at h
      split_ifs at h <;> cases h <;> omega
    · cases h
  · cases h

lemma timezoneOffsetZulu_whole {s s' : List Char} {off : ℤ}
    (h : timezoneOffsetZulu s = .ok (s', off)) : off % 60 = 0 := by
  unfold timezoneOffsetZulu at h
  split at h
  · cases h; rfl
  · cases h; rfl
  · exact timezoneOffset_whole h

/-- The offset of `p`, when set, is a whole number of minutes. -/
def Parsed.OffsetWhole (p : Parsed) : Prop := ∀ v, p.offset = some v → v % 60 = 0

namespace Parsed

variable {p p' : Parsed} {v : ℤ}

lemma setU32_eq_ok {get : Parsed → Option ℕ} {put : Parsed → Option ℕ → Parsed}
    (h : setU32 get put p v = .ok p') : ∃ x, p' = put p x := by
  obtain ⟨u, -, h⟩ := exists_of_bind_eq_ok h
  obtain ⟨x, -, h⟩ := exists_of_bind_eq_ok h
  cases h
  exact ⟨x, rfl⟩

lemma setI32_eq_ok {get : Parsed → Option ℤ} {put : Parsed → Option ℤ → Parsed}
    (h : setI32 get put p v = .ok p') : ∃ x, p' = put p x ∧ (x = get p ∨ x = some v) := by
  obtain ⟨u, hu, h⟩ := exists_of_bind_eq_ok h
  obtain ⟨x, hx, h⟩ := exists_of_bind_eq_ok h
  cases h
  unfold toI32 at hu
  split_ifs at hu
  cases hu
  refine ⟨x, rfl, ?_⟩
  unfold setIfConsistent at hx
  split at hx
  · split_ifs at hx; cases hx; exact .inl rfl
  · cases hx; exact .inr rfl

lemma setHour_eq_ok (h : p.setHour v = .ok p') :
    ∃ a b, p' = { p with hourDiv12 := a, hourMod12 := b } := by
  obtain ⟨u, -, h⟩ := exists_of_bind_eq_ok h
  obtain ⟨a, -, h⟩ := exists_of_bind_eq_ok h
  obtain ⟨b, -, h⟩ := exists_of_bind_eq_ok h
  cases h
  exact ⟨a, b, rfl⟩

end Parsed

lemma Numeric.set_offset {n : Numeric} {p p' : Parsed} {v : ℤ} (h : n.set p v = .ok p') :
    p'.offset = p.offset := by
  cases n with
  | year =>
    simp only [Numeric.set, Parsed.setYear] at h
    obtain ⟨x, rfl, -⟩ := Parsed.setI32_eq_ok h; rfl
  | hour =>
    simp only [Numeric.set] at h
    obtain ⟨a, b, rfl⟩ := Parsed.setHour_eq_ok h; rfl
  | month | day | minute | second =>
    simp only [Numeric.set, Parsed.setMonth, Parsed.setDay, Parsed.setMinute,
      Parsed.setSecond] at h
    obtain ⟨x, rfl⟩ := Parsed.setU32_eq_ok h; rfl

/-- Every item keeps the offset a whole number of minutes: only the offset item sets it, to
what `timezone_offset_zulu` reads. -/
lemma parseItem_offsetWhole {p p' : Parsed} {s s' : List Char} {i : Item}
    (h : parseItem p s i = .ok (p', s')) (hp : p.OffsetWhole) : p'.OffsetWhole := by
  cases i with
  | literal c =>
    simp only [parseItem] at h
    split at h
    · cases h
    · split_ifs at h; cases h; exact hp
  | space => cases h; exact hp
  | numeric n =>
    simp only [parseItem] at h
    obtain ⟨⟨s₁, v⟩, -, h⟩ := exists_of_bind_eq_ok h
    obtain ⟨p₁, hset, h⟩ := exists_of_bind_eq_ok h
    cases h
    intro v' hv'
    rw [Numeric.set_offset hset] at hv'
    exact hp v' hv'
  | fixed f =>
    cases f with
    | nanosecond =>
      simp only [parseItem] at h
      split_ifs at h
      · obtain ⟨⟨s₁, v⟩, -, h⟩ := exists_of_bind_eq_ok h
        obtain ⟨p₁, hset, h⟩ := exists_of_bind_eq_ok h
        cases h
        obtain ⟨x, rfl⟩ := Parsed.setU32_eq_ok hset
        exact hp
      · cases h; exact hp
    | timezoneOffsetZ =>
      simp only [parseItem] at h
      obtain ⟨⟨s₁, off⟩, hz, h⟩ := exists_of_bind_eq_ok h
      obtain ⟨p₁, hset, h⟩ := exists_of_bind_eq_ok h
      cases h
      obtain ⟨x, rfl, hx⟩ := Parsed.setI32_eq_ok hset
      intro v hv
      rcases hx with rfl | rfl
      · exact hp v hv
      · cases hv; exact timezoneOffsetZulu_whole hz

lemma parseItems_offsetWhole {p p' : Parsed} {s s' : List Char} {is : List Item}
    (h : parseItems p s is = .ok (p', s')) (hp : p.OffsetWhole) : p'.OffsetWhole := by
  induction is generalizing p s with
  | nil => cases h; exact hp
  | cons i is ih =>
    obtain ⟨⟨p₁, s₁⟩, hi, h⟩ := exists_of_bind_eq_ok h
    exact ih h (parseItem_offsetWhole hi hp)

lemma parse_offsetWhole {s : List Char} {is : List Item} {p : Parsed}
    (h : parse Parsed.new s is = .ok p) : p.OffsetWhole := by
  obtain ⟨⟨p₁, s₁⟩, hi, h⟩ := exists_of_bind_eq_ok h
  dsimp only at h
  split_ifs at h
  cases h
  exact parseItems_offsetWhole hi fun v hv => by cases hv

/-! ### The resolved time and its shift -/

lemma NaiveTime.fields_of_fromHmsNanoOpt {hour min sec nano : ℕ} {t : NaiveTime}
    (h : fromHmsNanoOpt hour min sec nano = some t) :
    t.secs = hour * 3600 + min * 60 + sec ∧ t.frac = nano ∧ sec < 60 := by
  unfold fromHmsNanoOpt at h
  split_ifs at h with hv
  cases h
  exact ⟨rfl, rfl, hv.2.2.1⟩

lemma Parsed.extraNano_le {a b : Option ℕ} {e : ℕ} (h : extraNano a b = .ok e) :
    e ≤ 999999999 := by
  unfold extraNano at h
  split at h
  · split_ifs at h with h₁ h₂; cases h; exact h₁
  · cases h; omega

/-- The time `to_naive_time` resolves holds a leap second only in the 59th second of a
minute: a second `60` is read as the leap second of `59`, and a fraction is below a
second. -/
lemma Parsed.toNaiveTime_leap {p : Parsed} {t : NaiveTime} (h : p.toNaiveTime = .ok t) :
    t.frac < 1000000000 ∨ t.secs % 60 = 59 := by
  unfold toNaiveTime at h
  obtain ⟨a, -, h⟩ := exists_of_bind_eq_ok h
  obtain ⟨b, -, h⟩ := exists_of_bind_eq_ok h
  obtain ⟨m, -, h⟩ := exists_of_bind_eq_ok h
  dsimp only at h
  split_ifs at h
  all_goals
    obtain ⟨x, hx, h⟩ := exists_of_bind_eq_ok h
    have := Parsed.extraNano_le hx
    split at h
    · cases h
      obtain ⟨hs, hf, -⟩ := NaiveTime.fields_of_fromHmsNanoOpt ‹_ = some t›
      omega
    · cases h

/-- A shift by whole minutes keeps the fraction and the second within the minute. -/
lemma NaiveDateTime.subOffset_time {t t' : NaiveDateTime} {off : FixedOffset}
    (h : t.subOffset off = some t') (hoff : off.localMinusUtc % 60 = 0) :
    t'.time.frac = t.time.frac ∧ t'.time.secs % 60 = t.time.secs % 60 := by
  have := off.gt
  have := off.lt
  unfold subOffset at h
  dsimp only at h
  split_ifs at h
  · obtain ⟨d, -, rfl⟩ := Option.map_eq_some'.1 h
    exact ⟨rfl, by dsimp only; omega⟩
  · obtain ⟨d, -, rfl⟩ := Option.map_eq_some'.1 h
    exact ⟨rfl, by dsimp only; omega⟩
  · cases h
    exact ⟨rfl, by dsimp only; omega⟩

lemma FixedOffset.eastOpt_eq_some {v : ℤ} {off : FixedOffset} (h : eastOpt v = some off) :
    off.localMinusUtc = v := by
  unfold eastOpt at h
  split_ifs at h
  cases h
  rfl

namespace Parsed

variable {p : Parsed}

lemma toNaiveDatetimeWithOffset_time {dt : NaiveDateTime}
    (h : p.toNaiveDatetimeWithOffset = .ok dt) : p.toNaiveTime = .ok dt.time := by
  unfold toNaiveDatetimeWithOffset at h
  split at h
  · cases h; assumption
  all_goals cases h

/-- What `to_datetime` returns is the local date and time of the fields, shifted by the
offset they hold. -/
lemma toDatetime_eq_ok {t : NaiveDateTime} (h : p.toDatetime = .ok (.ok t)) :
    ∃ v dt off, p.offset = some v ∧ p.toNaiveDatetimeWithOffset = .ok dt ∧
      off.localMinusUtc = v ∧ dt.subOffset off = some t := by
  unfold toDatetime at h
  split at h
  · cases h
  rename_i v hv
  split at h
  · cases h
  rename_i dt hdt
  split at h
  · cases h
  rename_i off hoff
  split at h
  · cases h
    exact ⟨v, dt, off, hv, hdt, FixedOffset.eastOpt_eq_some hoff, ‹_›⟩
  · cases h

end Parsed

/-! ### What `from_str` returns -/

/-- **`from_str` returns no other leap second.** Whatever the text, the date and time
`from_str` returns holds a leap second only in the 59th second of a minute: the second `60`
is read as the leap second of `59`, and the offset moves the time by whole minutes. -/
lemma fromStr_leapNormal {s : List Char} {t : NaiveDateTime} (h : fromStr s = .ok (.ok t)) :
    t.leapNormal = t := by
  unfold fromStr at h
  split at h
  · cases h
  rename_i p hp
  obtain ⟨v, dt, off, hv, hdt, hoff, hshift⟩ := p.toDatetime_eq_ok h
  obtain ⟨hf, hs⟩ := dt.subOffset_time hshift (hoff ▸ parse_offsetWhole hp v hv)
  have hleap := Parsed.toNaiveTime_leap (Parsed.toNaiveDatetimeWithOffset_time hdt)
  show NaiveDateTime.mk t.date t.time.leapNormal = t
  rw [(NaiveTime.leapNormal_eq_self_iff _).2 (by omega)]

/-! ### Where `from_str` panics -/

lemma daysInMonth_ge (y : ℤ) (m : ℕ) : 28 ≤ daysInMonth y m := by
  unfold daysInMonth
  split <;> (try split) <;> omega

/-- Only the first day of `MIN_YEAR` has no day before it. -/
lemma NaiveDate.predOpt_eq_none {d : NaiveDate} (h : d.predOpt = none) :
    d.year = minYear ∧ d.month = 1 ∧ d.day = 1 := by
  obtain ⟨y, m, dd, hy₁, hy₂, hm₁, hm₂, hd₁, hd₂⟩ := d
  have := daysInMonth_ge y (m - 1)
  have h31 : daysInMonth (y - 1) 12 = 31 := rfl
  unfold predOpt fromYmdOpt YmdValid at h
  unfold minYear at hy₁ h ⊢
  unfold maxYear at hy₂ h ⊢
  dsimp only at h ⊢
  split_ifs at h <;> omega

/-- Only the last day of `MAX_YEAR` has no day after it. -/
lemma NaiveDate.succOpt_eq_none {d : NaiveDate} (h : d.succOpt = none) :
    d.year = maxYear ∧ d.month = 12 ∧ d.day = 31 := by
  obtain ⟨y, m, dd, hy₁, hy₂, hm₁, hm₂, hd₁, hd₂⟩ := d
  have := daysInMonth_ge y (m + 1)
  have := daysInMonth_ge (y + 1) 1
  have h31 : m = 12 → daysInMonth y m = 31 := by rintro rfl; rfl
  unfold succOpt fromYmdOpt YmdValid at h
  unfold minYear at hy₁ h ⊢
  unfold maxYear at hy₂ h ⊢
  dsimp only at h ⊢
  split_ifs at h <;> omega

lemma NaiveDateTime.subOffset_eq_none {t : NaiveDateTime} {off : FixedOffset}
    (h : t.subOffset off = none) : t.date.predOpt = none ∨ t.date.succOpt = none := by
  unfold subOffset at h
  dsimp only at h
  split_ifs at h
  · exact .inl (Option.map_eq_none'.1 h)
  · exact .inr (Option.map_eq_none'.1 h)

/-- **Where `from_str` panics.** The shift to UTC is the only panic, and it happens only
on a local date that is the first day of `MIN_YEAR` or the last day of `MAX_YEAR`. -/
lemma fromStr_panic {s : List Char} {msg : String} (h : fromStr s = .error msg) :
    msg = "`NaiveDateTime + Duration` overflowed" ∧
      ∃ p dt, parse Parsed.new s rfc3339Items = .ok p ∧ p.toNaiveDatetimeWithOffset = .ok dt ∧
        ((dt.date.year = minYear ∧ dt.date.month = 1 ∧ dt.date.day = 1) ∨
          (dt.date.year = maxYear ∧ dt.date.month = 12 ∧ dt.date.day = 31)) := by
  unfold fromStr at h
  split at h
  · cases h
  rename_i p hp
  unfold Parsed.toDatetime at h
  split at h
  · cases h
  split at h
  · cases h
  rename_i dt hdt
  split at h
  · cases h
  split at h
  · cases h
  rename_i hnone
  cases h
  refine ⟨rfl, p, dt, hp, hdt, ?_⟩
  rcases dt.subOffset_eq_none hnone with h' | h'
  · exact .inl (NaiveDate.predOpt_eq_none h')
  · exact .inr (NaiveDate.succOpt_eq_none h')

end Chrono

end CryptoChain
