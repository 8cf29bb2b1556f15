import Mathlib.Algebra.Group.Nat.Basic
import Mathlib.Tactic.Common

/-!
The `chrono` 0.4 dates and times that `TransactionChange` stores as its block time, and the
text `DateTime::<Utc>::to_rfc3339` writes for them.

* `NaiveDate` is a day of the proleptic Gregorian calendar between chrono's `MIN_YEAR` and
  `MAX_YEAR`; `NaiveDate.fromYmdOpt` builds one and fails on anything else.
* `NaiveTime` is a second of the day with a fraction in nanoseconds, which chrono lets run to
  a second more to hold a leap second, at any second of a minute.
* `NaiveDateTime.subOffset` is `local - offset` for a `FixedOffset`: the whole seconds move,
  the fraction stays, and a day carried into the date can leave chrono's range, where
  `NaiveDateTime + Duration` panics.
* `NaiveDateTime.toRfc3339` is the `Debug` text of the date, `T`, the `Debug` text of the
  time and the offset `+00:00`. The time prints a leap second as the next second: `60` in
  the 59th second of a minute, and otherwise a second that exists, which is where the
  text stops telling the two apart (`NaiveTime.leapNormal`).
* `padZero w n` is `{:0w}`; `digitsValue_digits` reads its digits back, and
  `toRfc3339_ascii` and `length_toRfc3339_le` bound what the codec has to carry.
-/

namespace CryptoChain

namespace Chrono

/-! ### Decimal digits -/

/-- The decimal digit of `d % 10`. -/
def digitChar (d : ℕ) : Char := Char.ofNat (48 + d % 10)

/-- The value of a decimal digit. -/
def digitValue (c : Char) : ℕ := c.toNat - 48

/-- The last `w` decimal digits of `n`, the most significant first. -/
def digits : ℕ → ℕ → List Char
  | 0, _ => []
  | w + 1, n => digits w (n / 10) ++ [digitChar n]

/-- The number a list of decimal digits spells. -/
def digitsValue (ds : List Char) : ℕ := ds.foldl (fun n c => 10 * n + digitValue c) 0

/-- The number of decimal digits of `n`, counting at most `fuel + 1` of them. -/
def numDigitsAux : ℕ → ℕ → ℕ
  | 0, _ => 1
  | fuel + 1, n => if n < 10 then 1 else numDigitsAux fuel (n / 10) + 1

/-- The number of decimal digits of `n`. -/
def numDigits (n : ℕ) : ℕ := numDigitsAux n n

/-- `{:0w}`: the decimal digits of `n`, padded with zeros on the left to `w`. -/
def padZero (w n : ℕ) : List Char := digits (if numDigits n ≤ w then w else numDigits n) n

lemma digitChar_spec (d : ℕ) : (digitChar d).isDigit = true ∧ digitValue (digitChar d) = d % 10 ∧
    (digitChar d).toNat < 128 := by
  have key : ∀ r : Fin 10, (Char.ofNat (48 + r.val)).isDigit = true ∧
      digitValue (Char.ofNat (48 + r.val)) = r.val ∧ (Char.ofNat (48 + r.val)).toNat < 128 := by
    decide
  exact key ⟨d % 10, Nat.mod_lt _ (by decide)⟩

@[simp] lemma length_digits (w n : ℕ) : (digits w n).length = w := by
  induction w generalizing n <;> simp [digits, *]

/-- The leading digit of `w + 1` digits. -/
lemma digits_succ (w n : ℕ) : digits (w + 1) n = digitChar (n / 10 ^ w) :: digits w n := by
  induction w generalizing n with
  | zero => simp [digits]
  | succ w ih =>
    rw [digits, ih, Nat.div_div_eq_div_mul, ← Nat.pow_succ', digits]
    rfl

lemma mem_digits {w n : ℕ} {c : Char} (h : c ∈ digits w n) : ∃ d, c = digitChar d := by
  induction w generalizing n with
  | zero => simp [digits] at h
  | succ w ih =>
    simp only [digits, List.mem_append, List.mem_singleton] at h
    rcases h with h | rfl
    · exact ih h
    · exact ⟨n, rfl⟩

lemma isDigit_of_mem_digits {w n : ℕ} {c : Char} (h : c ∈ digits w n) : c.isDigit = true := by
  obtain ⟨d, rfl⟩ := mem_digits h
  exact (digitChar_spec d).1

lemma ascii_of_mem_digits {w n : ℕ} {c : Char} (h : c ∈ digits w n) : c.toNat < 128 := by
  obtain ⟨d, rfl⟩ := mem_digits h
  exact (digitChar_spec d).2.2

lemma digitsValue_append_singleton (ds : List Char) (c : Char) :
    digitsValue (ds ++ [c]) = 10 * digitsValue ds + digitValue c := by
  simp [digitsValue, List.foldl_append]

lemma digitsValue_digits (w n : ℕ) : digitsValue (digits w n) = n % 10 ^ w := by
  induction w generalizing n with
  | zero => simp [digits, digitsValue, Nat.mod_one]
  | succ w ih =>
    rw [digits, digitsValue_append_singleton, ih, (digitChar_spec n).2.1, Nat.pow_succ',
      Nat.mod_mul]
    omega

lemma lt_pow_numDigitsAux {fuel n : ℕ} (h : n ≤ fuel) : n < 10 ^ numDigitsAux fuel n := by
  induction fuel generalizing n with
  | zero => simp only [numDigitsAux]; omega
  | succ fuel ih =>
    rw [numDigitsAux]
    split_ifs with hn
    · simpa using hn
    · have := ih (n := n / 10) (by omega)
      rw [Nat.pow_succ]
      omega

lemma numDigitsAux_le {fuel w n : ℕ} (hw : 0 < w) (h : n < 10 ^ w) :
    numDigitsAux fuel n ≤ w := by
  induction fuel generalizing w n with
  | zero => exact hw
  | succ fuel ih =>
    rw [numDigitsAux]
    split_ifs with hn
    · exact hw
    · obtain ⟨w, rfl⟩ : ∃ v, w = v + 1 := ⟨w - 1, by omega⟩
      rw [Nat.pow_succ] at h
      have hw : 0 < w := Nat.pos_of_ne_zero fun h0 => by subst h0; omega
      exact Nat.succ_le_succ (ih hw (by omega))

lemma numDigitsAux_le_succ (fuel n : ℕ) : numDigitsAux fuel n ≤ n + 1 := by
  induction fuel generalizing n with
  | zero => simp [numDigitsAux]
  | succ fuel ih =>
    rw [numDigitsAux]
    split_ifs
    · omega
    · have := ih (n / 10); omega

lemma lt_pow_numDigits (n : ℕ) : n < 10 ^ numDigits n := lt_pow_numDigitsAux (Nat.le_refl n)

lemma numDigits_le {w n : ℕ} (hw : 0 < w) (h : n < 10 ^ w) : numDigits n ≤ w :=
  numDigitsAux_le hw h

/-- A number below `10 ^ w` is printed in exactly `w` digits. -/
lemma padZero_of_lt {w n : ℕ} (hw : 0 < w) (h : n < 10 ^ w) : padZero w n = digits w n := by
  rw [padZero, if_pos (numDigits_le hw h)]

lemma length_padZero_le (w n : ℕ) : (padZero w n).length ≤ w + n + 1 := by
  have := numDigitsAux_le_succ n n
  simp only [padZero, numDigits, length_digits]
  split <;> omega

/-- Every character is ASCII, so that its UTF-8 encoding is one byte. -/
def Ascii (s : List Char) : Prop := ∀ c ∈ s, c.toNat < 128

@[simp] lemma ascii_nil : Ascii [] := fun _ h => absurd h (List.not_mem_nil _)

@[simp] lemma ascii_append {s t : List Char} : Ascii (s ++ t) ↔ Ascii s ∧ Ascii t :=
  List.forall_mem_append

@[simp] lemma ascii_cons {c : Char} {s : List Char} : Ascii (c :: s) ↔ c.toNat < 128 ∧ Ascii s :=
  List.forall_mem_cons

@[simp] lemma ascii_padZero (w n : ℕ) : Ascii (padZero w n) := fun _ h => ascii_of_mem_digits h

/-! ### The calendar -/

/-- chrono's `MIN_YEAR`, `i32::MIN >> 13`. -/
def minYear : ℤ := -262144

/-- chrono's `MAX_YEAR`, `i32::MAX >> 13`. -/
def maxYear : ℤ := 262143

/-- A leap year of the proleptic Gregorian calendar. -/
def isLeapYear (y : ℤ) : Bool := y % 4 = 0 && (y % 100 != 0 || y % 400 = 0)

/-- The number of days of month `m` of year `y`. -/
def daysInMonth (y : ℤ) : ℕ → ℕ
  | 2 => if isLeapYear y then 29 else 28
  | 4 | 6 | 9 | 11 => 30
  | _ => 31

lemma daysInMonth_le (y : ℤ) (m : ℕ) : daysInMonth y m ≤ 31 := by
  unfold daysInMonth
  split <;> (try split) <;> omega

/-- The dates `NaiveDate::from_ymd_opt` accepts. -/
def YmdValid (y : ℤ) (m d : ℕ) : Prop :=
  minYear ≤ y ∧ y ≤ maxYear ∧ 1 ≤ m ∧ m ≤ 12 ∧ 1 ≤ d ∧ d ≤ daysInMonth y m

instance (y : ℤ) (m d : ℕ) : Decidable (YmdValid y m d) :=
  inferInstanceAs (Decidable (_ ∧ _ ∧ _ ∧ _ ∧ _ ∧ _))

/-- `chrono::NaiveDate`, by its year, month and day. -/
@[ext] structure NaiveDate where
  year : ℤ
  month : ℕ
  day : ℕ
  valid : YmdValid year month day
  deriving DecidableEq

/-- `NaiveDate::from_ymd_opt`. -/
def NaiveDate.fromYmdOpt (y : ℤ) (m d : ℕ) : Option NaiveDate :=
  if h : YmdValid y m d then some ⟨y, m, d, h⟩ else none

/-- The day after `d`, or `none` past `MAX_YEAR` (`checked_add_signed` of one day). -/
def NaiveDate.succOpt (d : NaiveDate) : Option NaiveDate :=
  if d.day < daysInMonth d.year d.month then fromYmdOpt d.year d.month (d.day + 1)
  else if d.month < 12 then fromYmdOpt d.year (d.month + 1) 1
  else fromYmdOpt (d.year + 1) 1 1

/-- The day before `d`, or `none` before `MIN_YEAR` (`checked_add_signed` of minus one day). -/
def NaiveDate.predOpt (d : NaiveDate) : Option NaiveDate :=
  if 1 < d.day then fromYmdOpt d.year d.month (d.day - 1)
  else if 1 < d.month then fromYmdOpt d.year (d.month - 1) (daysInMonth d.year (d.month - 1))
  else fromYmdOpt (d.year - 1) 12 31

@[simp] lemma NaiveDate.fromYmdOpt_self (d : NaiveDate) :
    fromYmdOpt d.year d.month d.day = some d := by
  simp [fromYmdOpt, d.valid]

/-! ### Times of day -/

/-- `chrono::NaiveTime`: the second of the day and a fraction in nanoseconds, which runs to
`2 * 10^9` so that the second can be a leap second. -/
@[ext] structure NaiveTime where
  secs : ℕ
  frac : ℕ
  secs_lt : secs < 86400
  frac_lt : frac < 2000000000
  deriving DecidableEq

/-- `NaiveTime::from_hms_nano_opt`. -/
def NaiveTime.fromHmsNanoOpt (hour min sec nano : ℕ) : Option NaiveTime :=
  if h : hour < 24 ∧ min < 60 ∧ sec < 60 ∧ nano < 2000000000 then
    some ⟨hour * 3600 + min * 60 + sec, nano, by omega, h.2.2.2⟩
  else none

lemma NaiveTime.fromHmsNanoOpt_eq_some {hour min sec nano : ℕ} {t : NaiveTime}
    (h : hour < 24 ∧ min < 60 ∧ sec < 60) (hsecs : t.secs = hour * 3600 + min * 60 + sec)
    (hfrac : t.frac = nano) : fromHmsNanoOpt hour min sec nano = some t := by
  rw [fromHmsNanoOpt, dif_pos ⟨h.1, h.2.1, h.2.2, hfrac ▸ t.frac_lt⟩]
  congr 1; ext <;> simp only [hsecs, hfrac]

/-- `chrono::NaiveDateTime`; a `DateTime<Utc>` is the one of its UTC date and time. -/
@[ext] structure NaiveDateTime where
  date : NaiveDate
  time : NaiveTime
  deriving DecidableEq

/-- `chrono::FixedOffset`, by its `local_minus_utc`, which `east_opt` keeps within a day. -/
structure FixedOffset where
  localMinusUtc : ℤ
  gt : -86400 < localMinusUtc
  lt : localMinusUtc < 86400

/-- `FixedOffset::east_opt`. -/
def FixedOffset.eastOpt (secs : ℤ) : Option FixedOffset :=
  if h : -86400 < secs ∧ secs < 86400 then some ⟨secs, h.1, h.2⟩ else none

/-- `local - off` (`add_with_leapsecond` of `-off`): the fraction is set aside, the whole
seconds move with the carry of a day into the date, and the fraction is put back. `none` is
the panic of `NaiveDateTime + Duration` when the date leaves chrono's range. -/
def NaiveDateTime.subOffset (t : NaiveDateTime) (off : FixedOffset) : Option NaiveDateTime :=
  let s : ℤ := t.time.secs - off.localMinusUtc
  if h : s < 0 then
    t.date.predOpt.map fun d => ⟨d, ⟨(s + 86400).toNat, t.time.frac, by omega, t.time.frac_lt⟩⟩
  else if h' : 86400 ≤ s then
    t.date.succOpt.map fun d =>
      ⟨d, ⟨(s - 86400).toNat, t.time.frac, by have := off.gt; have := t.time.secs_lt; omega,
        t.time.frac_lt⟩⟩
  else some ⟨t.date, ⟨s.toNat, t.time.frac, by omega, t.time.frac_lt⟩⟩

/-- At offset zero nothing moves. -/
lemma NaiveDateTime.subOffset_zero (t : NaiveDateTime) (off : FixedOffset)
    (h : off.localMinusUtc = 0) : t.subOffset off = some t := by
  have := t.time.secs_lt
  simp only [subOffset, h, Int.sub_zero]
  rw [dif_neg (by omega), dif_neg (by omega)]
  simp

/-! ### The RFC 3339 text -/

/-- The year as `NaiveDate`'s `Debug` writes it: `{:04}` within `0..=9999` and `{:+05}`,
with its sign, beyond. -/
def yearText (y : ℤ) : List Char :=
  if 0 ≤ y ∧ y ≤ 9999 then padZero 4 y.toNat
  else (if y < 0 then '-' else '+') :: padZero 4 y.natAbs

/-- `Debug` of `NaiveDate`: `YYYY-MM-DD`. -/
def NaiveDate.debug (d : NaiveDate) : List Char :=
  yearText d.year ++ '-' :: padZero 2 d.month ++ '-' :: padZero 2 d.day

/-- The fraction `Debug` of `NaiveTime` writes: nothing for none, and otherwise 3, 6 or 9
digits, the fewest that hold it. -/
def fraction (nano : ℕ) : List Char :=
  if nano = 0 then []
  else if nano % 1000000 = 0 then '.' :: padZero 3 (nano / 1000000)
  else if nano % 1000 = 0 then '.' :: padZero 6 (nano / 1000)
  else '.' :: padZero 9 nano

/-- The second `Debug` of `NaiveTime` writes: a leap second is the next one. -/
def NaiveTime.shownSecond (t : NaiveTime) : ℕ :=
  if 1000000000 ≤ t.frac then t.secs % 60 + 1 else t.secs % 60

/-- The fraction `Debug` of `NaiveTime` writes, without the leap second. -/
def NaiveTime.shownNano (t : NaiveTime) : ℕ :=
  if 1000000000 ≤ t.frac then t.frac - 1000000000 else t.frac

lemma NaiveTime.shownSecond_le (t : NaiveTime) : t.shownSecond ≤ 60 := by
  unfold shownSecond; split_ifs <;> omega

lemma NaiveTime.shownNano_lt (t : NaiveTime) : t.shownNano < 1000000000 := by
  have := t.frac_lt; unfold shownNano; split_ifs <;> omega

/-- `Debug` of `NaiveTime`: `hh:mm:ss` and the fraction. -/
def NaiveTime.debug (t : NaiveTime) : List Char :=
  padZero 2 (t.secs / 3600) ++ ':' :: padZero 2 (t.secs / 60 % 60) ++ ':' ::
    padZero 2 t.shownSecond ++ fraction t.shownNano

/-- `write_local_minus_utc` as `Fixed::RFC3339` calls it, with a colon and without `Z`. -/
def writeLocalMinusUtc (off : ℤ) : List Char :=
  (if off < 0 then '-' else '+') :: padZero 2 (off.natAbs / 3600) ++ ':' ::
    padZero 2 (off.natAbs / 60 % 60)

/-- `DateTime::<Utc>::to_rfc3339`: `{:?}T{:?}` of the date and time, and the offset zero. -/
def NaiveDateTime.toRfc3339 (t : NaiveDateTime) : List Char :=
  t.date.debug ++ 'T' :: t.time.debug ++ writeLocalMinusUtc 0

/-- The time the text of `t` reads back as: a leap second outside the 59th second of a minute
is printed as, and so becomes, the second after it. -/
def NaiveTime.leapNormal (t : NaiveTime) : NaiveTime :=
  if h : 1000000000 ≤ t.frac ∧ t.secs % 60 ≠ 59 then
    ⟨t.secs + 1, t.frac - 1000000000, by have := t.secs_lt; omega, by have := t.frac_lt; omega⟩
  else t

/-- The date and time the text of `t` reads back as. -/
def NaiveDateTime.leapNormal (t : NaiveDateTime) : NaiveDateTime := ⟨t.date, t.time.leapNormal⟩

lemma NaiveTime.leapNormal_secs (t : NaiveTime) : t.leapNormal.secs =
    if 1000000000 ≤ t.frac ∧ t.secs % 60 ≠ 59 then t.secs + 1 else t.secs := by
  unfold leapNormal; split_ifs <;> rfl

lemma NaiveTime.leapNormal_frac (t : NaiveTime) : t.leapNormal.frac =
    if 1000000000 ≤ t.frac ∧ t.secs % 60 ≠ 59 then t.frac - 1000000000 else t.frac := by
  unfold leapNormal; split_ifs <;> rfl

lemma NaiveTime.leapNormal_eq_self_iff (t : NaiveTime) :
    t.leapNormal = t ↔ t.frac < 1000000000 ∨ t.secs % 60 = 59 := by
  unfold leapNormal
  split_ifs with h
  · simp only [NaiveTime.ext_iff]
    omega
  · simp only [true_iff]
    omega

/-! ### What the codec carries -/

@[simp] lemma yearText_ascii (y : ℤ) : Ascii (yearText y) := by
  unfold yearText
  split_ifs <;> simp +decide

@[simp] lemma fraction_ascii (nano : ℕ) : Ascii (fraction nano) := by
  unfold fraction
  split_ifs <;> simp +decide

/-- The text is ASCII, so its UTF-8 bytes are its characters. -/
lemma NaiveDateTime.toRfc3339_ascii (t : NaiveDateTime) : Ascii t.toRfc3339 := by
  simp +decide only [toRfc3339, NaiveDate.debug, NaiveTime.debug, writeLocalMinusUtc, ascii_append,
    ascii_cons, ascii_padZero, yearText_ascii, fraction_ascii, apply_ite, ite_self, and_true]

lemma length_yearText_le (y : ℤ) : (yearText y).length ≤ y.natAbs + 6 := by
  have := length_padZero_le 4 y.natAbs
  unfold yearText
  split_ifs
  · have := length_padZero_le 4 y.toNat; omega
  all_goals simp only [List.length_cons]; omega

lemma length_fraction_le (nano : ℕ) : (fraction nano).length ≤ nano + 11 := by
  unfold fraction
  split_ifs
  · simp
  · have := length_padZero_le 3 (nano / 1000000); simp only [List.length_cons]; omega
  · have := length_padZero_le 6 (nano / 1000); simp only [List.length_cons]; omega
  · have := length_padZero_le 9 nano; simp only [List.length_cons]; omega

/-- The offset of UTC. -/
lemma writeLocalMinusUtc_zero : writeLocalMinusUtc 0 = ['+', '0', '0', ':', '0', '0'] := by
  simp only [writeLocalMinusUtc, Int.natAbs_zero, Nat.zero_div, Nat.zero_mod,
    padZero_of_lt (by decide : 0 < 2) (by decide : 0 < 10 ^ 2)]
  decide

/-- The text fits the 32-bit compact length of the codec. -/
lemma NaiveDateTime.length_toRfc3339_lt (t : NaiveDateTime) :
    t.toRfc3339.length < 4294967296 := by
  obtain ⟨⟨y, m, d, hy₁, hy₂, -, hm, -, hd⟩, time⟩ := t
  have hy : y.natAbs ≤ 262144 := by simp only [minYear, maxYear] at hy₁ hy₂; omega
  have := daysInMonth_le y m
  have := time.secs_lt
  have := time.shownSecond_le
  have := time.shownNano_lt
  have := length_yearText_le y
  have := length_padZero_le 2 m
  have := length_padZero_le 2 d
  have := length_padZero_le 2 (time.secs / 3600)
  have := length_padZero_le 2 (time.secs / 60 % 60)
  have := length_padZero_le 2 time.shownSecond
  have := length_fraction_le time.shownNano
  simp only [toRfc3339, NaiveDate.debug, NaiveTime.debug, writeLocalMinusUtc_zero,
    List.length_append, List.length_cons, List.length_nil]
  omega

end Chrono

end CryptoChain
