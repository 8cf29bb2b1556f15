import CryptoChain.Codec.Chrono

/-!
`DateTime::<Utc>::from_str` of chrono 0.4: the format items of `DateTime<FixedOffset>`'s
`from_str` run by `format::parse` into a `Parsed`, which `to_datetime` resolves to a date
and time at an offset, then shifted to UTC.

* `scanNumber`, `scanNanosecond`, `timezoneOffsetZulu`: the scanners of `format::scan`, each
  returning what it has not read.
* `parseItem` runs one `Item` and `parse` the whole list, failing on trailing text;
  `rfc3339Items` is the list of `from_str`.
* `Parsed.toNaiveDate`, `Parsed.toNaiveTime` and `Parsed.toDatetime` are the resolution; its
  outer `error` is the panic of the offset shift.
* `fromStr_toRfc3339`: the text `to_rfc3339` writes reads back as the same date and time,
  except that a leap second outside the 59th second of a minute becomes the second after it.
-/

namespace CryptoChain

namespace Chrono

/-- The kinds of `chrono::format::ParseError`. -/
inductive ParseError where
  | outOfRange
  | impossible
  | notEnough
  | invalid
  | tooShort
  | tooLong
  deriving DecidableEq, Repr

/-- `i64::MAX`. -/
def i64Max : ℤ := 9223372036854775807

/-- `usize::MAX`, the digit bound of a signed year. -/
def usizeMax : ℕ := 18446744073709551615

/-! ### Scanning -/

/-- `char::is_whitespace`: the characters of Unicode's `White_Space`. -/
def isWhitespace (c : Char) : Bool :=
  let n := c.toNat
  (9 ≤ n && n ≤ 13) || n == 32 || n == 0x85 || n == 0xA0 || n == 0x1680 ||
    (0x2000 ≤ n && n ≤ 0x200A) || n == 0x2028 || n == 0x2029 || n == 0x202F || n == 0x205F ||
    n == 0x3000

/-- `str::trim_left`. -/
def trimLeft (s : List Char) : List Char := s.dropWhile isWhitespace

/-- `scan::number`: at least `min` and at most `max` decimal digits, read as an `i64`. -/
def scanNumber (s : List Char) (min max : ℕ) : Except ParseError (List Char × ℤ) :=
  let window := s.take max
  let ds := window.takeWhile Char.isDigit
  if ds.length < min then .error (if window.isEmpty then .tooShort else .invalid)
  else if (digitsValue ds : ℤ) ≤ i64Max then .ok (s.drop ds.length, digitsValue ds)
  else .error .outOfRange

/-- `SCALE`: the nanoseconds of the last of `k` digits of a fraction. -/
def scale (k : ℕ) : ℤ :=
  [0, 100000000, 10000000, 1000000, 100000, 10000, 1000, 100, 10, 1].getD k 0

/-- `scan::nanosecond`: one to nine digits of a fraction of a second, in nanoseconds; the
digits past the ninth are skipped. -/
def scanNanosecond (s : List Char) : Except ParseError (List Char × ℤ) := do
  let (s', v) ← scanNumber s 1 9
  let v := v * scale (s.length - s'.length)
  if v ≤ i64Max then pure (s'.dropWhile Char.isDigit, v) else .error .outOfRange

/-- The two bytes `timezone_offset` reads as digits, as characters: fewer than two bytes are
`TOO_SHORT`, and a character beyond ASCII starts with a byte that is no digit. -/
def twoChars : List Char → Except ParseError (Char × Char × List Char)
  | c₁ :: c₂ :: s => .ok (c₁, c₂, s)
  | [c] => .error (if c.toNat < 128 then .tooShort else .invalid)
  | [] => .error .tooShort

/-- `scan::colon_or_space`. -/
def colonOrSpace (s : List Char) : List Char := s.dropWhile fun c => c == ':' || isWhitespace c

/-- `scan::timezone_offset` with `colon_or_space`: a sign, two digits of hours, separators
and two digits of minutes, in seconds. -/
def timezoneOffset : List Char → Except ParseError (List Char × ℤ)
  | [] => .error .tooShort
  | sign :: s =>
    if sign = '+' ∨ sign = '-' then do
      let (h₁, h₂, s) ← twoChars s
      if h₁.isDigit ∧ h₂.isDigit then
        let (m₁, m₂, s) ← twoChars (colonOrSpace s)
        if '0' ≤ m₁ ∧ m₁ ≤ '5' ∧ m₂.isDigit then
          let secs : ℤ := (digitValue h₁ * 10 + digitValue h₂) * 3600 +
            (digitValue m₁ * 10 + digitValue m₂) * 60
          pure (s, if sign = '-' then -secs else secs)
        else if '6' ≤ m₁ ∧ m₁ ≤ '9' ∧ m₂.isDigit then .error .outOfRange
        else .error .invalid
      else .error .invalid
    else .error .invalid

/-- `scan::timezone_offset_zulu`: `Z` or `z` is the offset zero. -/
def timezoneOffsetZulu : List Char → Except ParseError (List Char × ℤ)
  | 'z' :: s | 'Z' :: s => .ok (s, 0)
  | s => timezoneOffset s

/-! ### The parsed fields -/

/-- The fields of `chrono::format::Parsed` that the items of `from_str` set. -/
structure Parsed where
  year : Option ℤ := none
  month : Option ℕ := none
  day : Option ℕ := none
  hourDiv12 : Option ℕ := none
  hourMod12 : Option ℕ := none
  minute : Option ℕ := none
  second : Option ℕ := none
  nanosecond : Option ℕ := none
  offset : Option ℤ := none
  deriving DecidableEq

/-- `Parsed::new`. -/
def Parsed.new : Parsed := {}

/-- `set_if_consistent`: a field is set once, or again to the same value. -/
def setIfConsistent {α : Type} [DecidableEq α] (old : Option α) (new : α) :
    Except ParseError (Option α) :=
  match old with
  | some o => if o = new then .ok old else .error .impossible
  | none => .ok (some new)

/-- `to_i32`. -/
def toI32 (v : ℤ) : Except ParseError ℤ :=
  if -2147483648 ≤ v ∧ v < 2147483648 then .ok v else .error .outOfRange

/-- `to_u32`. -/
def toU32 (v : ℤ) : Except ParseError ℕ :=
  if 0 ≤ v ∧ v < 4294967296 then .ok v.toNat else .error .outOfRange

namespace Parsed

/-- The setters of a `u32` field: `set_if_consistent(&mut self.field, value.to_u32()?)`. -/
def setU32 (get : Parsed → Option ℕ) (put : Parsed → Option ℕ → Parsed) (p : Parsed) (v : ℤ) :
    Except ParseError Parsed := do
  let v ← toU32 v
  let x ← setIfConsistent (get p) v
  pure (put p x)

/-- The setters of an `i32` field. -/
def setI32 (get : Parsed → Option ℤ) (put : Parsed → Option ℤ → Parsed) (p : Parsed) (v : ℤ) :
    Except ParseError Parsed := do
  let v ← toI32 v
  let x ← setIfConsistent (get p) v
  pure (put p x)

/-- `Parsed::set_year`. -/
def setYear : Parsed → ℤ → Except ParseError Parsed :=
  setI32 (·.year) fun p x => { p with year := x }

/-- `Parsed::set_month`. -/
def setMonth : Parsed → ℤ → Except ParseError Parsed :=
  setU32 (·.month) fun p x => { p with month := x }

/-- `Parsed::set_day`. -/
def setDay : Parsed → ℤ → Except ParseError Parsed :=
  setU32 (·.day) fun p x => { p with day := x }

/-- `Parsed::set_hour`, kept as its quotient and remainder by twelve. -/
def setHour (p : Parsed) (v : ℤ) : Except ParseError Parsed := do
  let v ← toU32 v
  let hourDiv12 ← setIfConsistent p.hourDiv12 (v / 12)
  let hourMod12 ← setIfConsistent p.hourMod12 (v % 12)
  pure { p with hourDiv12, hourMod12 }

/-- `Parsed::set_minute`. -/
def setMinute : Parsed → ℤ → Except ParseError Parsed :=
  setU32 (·.minute) fun p x => { p with minute := x }

/-- `Parsed::set_second`. -/
def setSecond : Parsed → ℤ → Except ParseError Parsed :=
  setU32 (·.second) fun p x => { p with second := x }

/-- `Parsed::set_nanosecond`. -/
def setNanosecond : Parsed → ℤ → Except ParseError Parsed :=
  setU32 (·.nanosecond) fun p x => { p with nanosecond := x }

/-- `Parsed::set_offset`. -/
def setOffset : Parsed → ℤ → Except ParseError Parsed :=
  setI32 (·.offset) fun p x => { p with offset := x }

end Parsed

/-! ### The format items -/

/-- The numeric items of `from_str`. -/
inductive Numeric where
  | year | month | day | hour | minute | second

/-- The fixed items of `from_str`. -/
inductive Fixed where
  | nanosecond | timezoneOffsetZ

/-- `chrono::format::Item`, as `from_str` uses it: literals are of one character. -/
inductive Item where
  | literal (c : Char)
  | space
  | numeric (n : Numeric)
  | fixed (f : Fixed)

namespace Numeric

/-- The width of a numeric item without a sign. -/
def width : Numeric → ℕ
  | year => 4
  | _ => 2

/-- Whether a numeric item takes a sign. -/
def signed : Numeric → Bool
  | year => true
  | _ => false

/-- The setter of a numeric item. -/
def set : Numeric → Parsed → ℤ → Except ParseError Parsed
  | year => Parsed.setYear
  | month => Parsed.setMonth
  | day => Parsed.setDay
  | hour => Parsed.setHour
  | minute => Parsed.setMinute
  | second => Parsed.setSecond

/-- The number of a numeric item: a signed one takes any number of digits after a sign,
and otherwise at most its width. -/
def scan (n : Numeric) (s : List Char) : Except ParseError (List Char × ℤ) :=
  let s := trimLeft s
  if n.signed then
    if s.head? = some '-' then do
      let (s, v) ← scanNumber s.tail 1 usizeMax
      if -i64Max - 1 ≤ 0 - v then pure (s, 0 - v) else .error .outOfRange
    else if s.head? = some '+' then scanNumber s.tail 1 usizeMax
    else scanNumber s 1 n.width
  else scanNumber s 1 n.width

end Numeric

/-- One step of `format::parse`. -/
def parseItem (p : Parsed) (s : List Char) : Item → Except ParseError (Parsed × List Char)
  | .literal c =>
    match s with
    | [] => .error .tooShort
    | d :: s => if d = c then .ok (p, s) else .error .invalid
  | .space => .ok (p, trimLeft s)
  | .numeric n => do
    let (s, v) ← n.scan s
    let p ← n.set p v
    pure (p, s)
  | .fixed .nanosecond =>
    if s.head? = some '.' then do
      let (s, v) ← scanNanosecond s.tail
      let p ← p.setNanosecond v
      pure (p, s)
    else .ok (p, s)
  | .fixed .timezoneOffsetZ => do
    let (s, off) ← timezoneOffsetZulu (trimLeft s)
    let p ← p.setOffset off
    pure (p, s)

/-- The items run one after the other. -/
def parseItems (p : Parsed) (s : List Char) : List Item → Except ParseError (Parsed × List Char)
  | [] => .ok (p, s)
  | i :: is => do
    let (p, s) ← parseItem p s i
    parseItems p s is

/-- `format::parse`: the items, then nothing left. -/
def parse (p : Parsed) (s : List Char) (items : List Item) : Except ParseError Parsed := do
  let (p, s) ← parseItems p s items
  if s.isEmpty then pure p else .error .tooLong

/-- The `ITEMS` of `DateTime<FixedOffset>::from_str`. -/
def rfc3339Items : List Item :=
  [.numeric .year, .space, .literal '-', .numeric .month, .space, .literal '-', .numeric .day,
    .space, .literal 'T', .numeric .hour, .space, .literal ':', .numeric .minute, .space,
    .literal ':', .numeric .second, .fixed .nanosecond, .space, .fixed .timezoneOffsetZ, .space]

/-! ### Resolution -/

/-- A field within `0..=hi`: `Some(v @ 0..=hi) => v`, `Some(_) => OUT_OF_RANGE`,
`None => NOT_ENOUGH`. -/
def bounded (o : Option ℕ) (hi : ℕ) : Except ParseError ℕ :=
  match o with
  | some v => if v ≤ hi then .ok v else .error .outOfRange
  | none => .error .notEnough

namespace Parsed

/-- `Parsed::to_naive_date` for the fields `from_str` sets: year, month and day. -/
def toNaiveDate (p : Parsed) : Except ParseError NaiveDate :=
  match p.year, p.month, p.day with
  | some y, some m, some d =>
    match NaiveDate.fromYmdOpt y m d with
    | some date => .ok date
    | none => .error .outOfRange
  | _, _, _ => .error .notEnough

/-- The nanoseconds `to_naive_time` adds to the second: a fraction needs the second it is
of. -/
def extraNano (nanosecond second : Option ℕ) : Except ParseError ℕ :=
  match nanosecond with
  | some v =>
    if v ≤ 999999999 then (if second.isSome then .ok v else .error .notEnough)
    else .error .outOfRange
  | none => .ok 0

/-- `Parsed::to_naive_time`: a second `60` is the leap second of `59`. -/
def toNaiveTime (p : Parsed) : Except ParseError NaiveTime := do
  let hourDiv12 ← bounded p.hourDiv12 1
  let hourMod12 ← bounded p.hourMod12 11
  let minute ← bounded p.minute 59
  let sec := p.second.getD 0
  if 60 < sec then .error .outOfRange else
  let second := if sec = 60 then 59 else sec
  let nano₀ := if sec = 60 then 1000000000 else 0
  let extra ← extraNano p.nanosecond p.second
  match NaiveTime.fromHmsNanoOpt (hourDiv12 * 12 + hourMod12) minute second (nano₀ + extra) with
  | some t => .ok t
  | none => .error .outOfRange

/-- `Parsed::to_naive_datetime_with_offset` without a timestamp: the error of the date
first. -/
def toNaiveDatetimeWithOffset (p : Parsed) : Except ParseError NaiveDateTime :=
  match p.toNaiveDate, p.toNaiveTime with
  | .ok d, .ok t => .ok ⟨d, t⟩
  | .error e, _ => .error e
  | .ok _, .error e => .error e

/-- `Parsed::to_datetime`, then `with_timezone(&Utc)`: the local date and time shifted by the
offset. The outer `error` is the panic of the shift. -/
def toDatetime (p : Parsed) : Except String (Except ParseError NaiveDateTime) :=
  match p.offset with
  | none => .ok (.error .notEnough)
  | some off =>
    match p.toNaiveDatetimeWithOffset with
    | .error e => .ok (.error e)
    | .ok dt =>
      match FixedOffset.eastOpt off with
      | none => .ok (.error .outOfRange)
      | some off =>
        match dt.subOffset off with
        | some t => .ok (.ok t)
        | none => .error "`NaiveDateTime + Duration` overflowed"

end Parsed

/-- `DateTime::<Utc>::from_str`; the outer `error` is a panic. -/
def fromStr (s : List Char) : Except String (Except ParseError NaiveDateTime) :=
  match parse Parsed.new s rfc3339Items with
  | .error e => .ok (.error e)
  | .ok p => p.toDatetime

/-! ### Scanning what the printer writes -/

/-- What follows a printed number does not start with a digit. -/
def NoDigitHead (s : List Char) : Prop := s.head?.all (fun c => !c.isDigit) = true

instance : DecidablePred NoDigitHead := fun _ => inferInstanceAs (Decidable (_ = true))

lemma noDigitHead_cons {c : Char} (hc : c.isDigit = false) (s : List Char) :
    NoDigitHead (c :: s) := by
  simp [NoDigitHead, hc]

lemma digitChar_not_sign (d : ℕ) :
    isWhitespace (digitChar d) = false ∧ digitChar d ≠ '-' ∧ digitChar d ≠ '+' := by
  have key : ∀ r : Fin 10, isWhitespace (Char.ofNat (48 + r.val)) = false ∧
      Char.ofNat (48 + r.val) ≠ '-' ∧ Char.ofNat (48 + r.val) ≠ '+' := by
    decide
  exact key ⟨d % 10, Nat.mod_lt _ (by decide)⟩

lemma trimLeft_cons {c : Char} (hc : isWhitespace c = false) (s : List Char) :
    trimLeft (c :: s) = c :: s :=
  List.dropWhile_cons_of_neg (by simp [hc])

lemma takeWhile_take_digits {w max n : ℕ} {rest : List Char} (hw : w ≤ max)
    (hr : NoDigitHead rest) : ((digits w n ++ rest).take max).takeWhile Char.isDigit = digits w n := by
  obtain ⟨k, rfl⟩ : ∃ k, max = w + k := ⟨max - w, by omega⟩
  have htake : (digits w n ++ rest).take (w + k) = digits w n ++ rest.take k := by
    simpa using @List.take_append _ (digits w n) rest k
  rw [htake, List.takeWhile_append_of_pos fun _ h => isDigit_of_mem_digits h]
  match rest, k with
  | [], _ => simp
  | _ :: _, 0 => simp
  | c :: r, k + 1 =>
    rw [List.take_succ_cons, List.takeWhile_cons_of_neg (by simpa [NoDigitHead] using hr),
      List.append_nil]

/-- `scan::number` reads back `w` printed digits, and leaves what follows them. -/
lemma scanNumber_digits {w n min max : ℕ} {rest : List Char} (hmin : min ≤ w) (hw : w ≤ max)
    (hn : n < 10 ^ w) (hv : (n : ℤ) ≤ i64Max) (hr : NoDigitHead rest) :
    scanNumber (digits w n ++ rest) min max = .ok (rest, n) := by
  simp only [scanNumber, takeWhile_take_digits hw hr, length_digits, digitsValue_digits,
    Nat.mod_eq_of_lt hn, if_neg (Nat.not_lt.mpr hmin), if_pos hv,
    List.drop_left' (length_digits w n)]

lemma trimLeft_digits {w n : ℕ} (hw : 0 < w) (s : List Char) :
    trimLeft (digits w n ++ s) = digits w n ++ s := by
  obtain ⟨w, rfl⟩ : ∃ v, w = v + 1 := ⟨w - 1, by omega⟩
  rw [digits_succ, List.cons_append, trimLeft_cons (digitChar_not_sign _).1]

/-- An unsigned numeric item reads back its two printed digits. -/
lemma Numeric.scan_digits {n : Numeric} (hn : n.signed = false) (hw : n.width = 2) {v : ℕ}
    (hv : v < 100) {rest : List Char} (hr : NoDigitHead rest) :
    n.scan (digits 2 v ++ rest) = .ok (rest, v) := by
  rw [Numeric.scan, trimLeft_digits (by decide), hn, hw, if_neg (by decide)]
  exact scanNumber_digits (by decide) (Nat.le_refl 2) hv (by unfold i64Max; omega) hr

/-- The digits of a year beyond `0..=9999`: at least four, at most six. -/
lemma padZero_natAbs_year {y : ℤ} (hy₁ : minYear ≤ y) (hy₂ : y ≤ maxYear) :
    ∃ k, padZero 4 y.natAbs = digits k y.natAbs ∧ 1 ≤ k ∧ k ≤ usizeMax ∧ y.natAbs < 10 ^ k := by
  unfold minYear at hy₁; unfold maxYear at hy₂
  have h6 := numDigits_le (n := y.natAbs) (by decide : 0 < 6) (by omega)
  have hk : numDigits y.natAbs ≤ (if numDigits y.natAbs ≤ 4 then 4 else numDigits y.natAbs) := by
    split <;> omega
  refine ⟨_, rfl, by split <;> omega, by unfold usizeMax; split <;> omega, ?_⟩
  exact Nat.lt_of_lt_of_le (lt_pow_numDigits _) (Nat.pow_le_pow_right (by decide) hk)

/-- The year item reads back the year `Debug` writes, with its sign beyond `0..=9999`. -/
lemma Numeric.scan_yearText {y : ℤ} (hy₁ : minYear ≤ y) (hy₂ : y ≤ maxYear) {rest : List Char}
    (hr : NoDigitHead rest) : Numeric.year.scan (yearText y ++ rest) = .ok (rest, y) := by
  unfold yearText
  split_ifs with h hneg
  · have hlt : y.toNat < 10 ^ 4 := by omega
    have hc := digitChar_not_sign (y.toNat / 10 ^ 3)
    have hhead : (digits 4 y.toNat ++ rest).head? = some (digitChar (y.toNat / 10 ^ 3)) := by
      rw [digits_succ]; rfl
    rw [padZero_of_lt (by decide) hlt, Numeric.scan, trimLeft_digits (by decide)]
    simp only [Numeric.signed, hhead, Option.some.injEq, hc.2.1, hc.2.2, if_true, if_false,
      Numeric.width]
    rw [scanNumber_digits (by decide) (Nat.le_refl 4) hlt (by unfold i64Max; omega) hr]
    congr 2
    omega
  all_goals
    obtain ⟨k, hk, hk₁, hk₂, hlt⟩ := padZero_natAbs_year hy₁ hy₂
    have hv : (y.natAbs : ℤ) ≤ i64Max := by unfold i64Max minYear maxYear at *; omega
    rw [hk, Numeric.scan, List.cons_append, trimLeft_cons (by decide)]
    simp only [Numeric.signed, List.head?_cons, Option.some.injEq, List.tail_cons, if_true,
      scanNumber_digits hk₁ hk₂ hlt hv hr]
  · simp only [if_true, bind, Except.bind, pure, Except.pure]
    rw [if_pos (by omega)]
    congr 2
    omega
  · simp only [show ('+' = '-') = False by decide, if_false, if_true]
    congr 2
    omega

lemma dropWhile_isDigit_of_head? {s : List Char} (h : s.head? = some '+') :
    s.dropWhile Char.isDigit = s := by
  match s, h with
  | _ :: _, h =>
    rw [List.head?_cons, Option.some.injEq] at h
    subst h
    exact List.dropWhile_cons_of_neg (by decide)

/-- `scan::nanosecond` reads back `k` printed digits of a fraction. -/
lemma scanNanosecond_digits {k q : ℕ} (hk₁ : 1 ≤ k) (hk₂ : k ≤ 9) (hq : q < 10 ^ k)
    (hv : (q : ℤ) * scale k ≤ i64Max) {rest : List Char} (hr : rest.head? = some '+') :
    scanNanosecond (digits k q ++ rest) = .ok (rest, q * scale k) := by
  have hq' : (q : ℤ) ≤ i64Max := by
    have := Nat.pow_le_pow_right (by decide : 0 < 10) hk₂
    unfold i64Max; omega
  have hd : NoDigitHead rest := by simp +decide [NoDigitHead, hr]
  simp only [scanNanosecond, scanNumber_digits hk₁ hk₂ hq hq' hd, List.length_append,
    length_digits, Nat.add_sub_cancel, bind, Except.bind, if_pos hv,
    dropWhile_isDigit_of_head? hr, pure, Except.pure]

/-! ### Setting the fields -/

/-- `?` on a success goes on with its value. -/
lemma ok_bind {ε α β : Type} (a : α) (f : α → Except ε β) : (Except.ok a >>= f) = f a := rfl

lemma toU32_of_lt {v : ℕ} (hv : v < 4294967296) : toU32 v = .ok v := by
  rw [toU32, if_pos (by omega), Int.toNat_ofNat]

namespace Parsed

variable {p : Parsed}

lemma setU32_of_none {get : Parsed → Option ℕ} {put : Parsed → Option ℕ → Parsed} {v : ℕ}
    (hget : get p = none) (hv : v < 4294967296) : setU32 get put p v = .ok (put p (some v)) := by
  rw [setU32, toU32_of_lt hv]
  show setIfConsistent (get p) v >>= _ = _
  rw [hget]
  rfl

lemma setI32_of_none {get : Parsed → Option ℤ} {put : Parsed → Option ℤ → Parsed} {v : ℤ}
    (hget : get p = none) (hv₁ : -2147483648 ≤ v) (hv₂ : v < 2147483648) :
    setI32 get put p v = .ok (put p (some v)) := by
  rw [setI32, toI32, if_pos ⟨hv₁, hv₂⟩]
  show setIfConsistent (get p) v >>= _ = _
  rw [hget]
  rfl

lemma setHour_of_none {v : ℕ} (h₁ : p.hourDiv12 = none) (h₂ : p.hourMod12 = none)
    (hv : v < 4294967296) :
    p.setHour v = .ok { p with hourDiv12 := some (v / 12), hourMod12 := some (v % 12) } := by
  rw [setHour, toU32_of_lt hv]
  show setIfConsistent p.hourDiv12 (v / 12) >>= _ = _
  rw [h₁]
  show setIfConsistent p.hourMod12 (v % 12) >>= _ = _
  rw [h₂]
  rfl

end Parsed

/-! ### Running the items over the printed text -/

section Items

variable {p p' : Parsed} {s s' rest : List Char} {is : List Item}

lemma parseItem_literal (c : Char) : parseItem p (c :: s) (.literal c) = .ok (p, s) := by
  simp [parseItem]

lemma parseItems_cons_of_ok {i : Item} (h : parseItem p s i = .ok (p', s')) :
    parseItems p s (i :: is) = parseItems p' s' is := by
  simp only [parseItems, h, bind, Except.bind]

lemma parseItems_numeric {n : Numeric} {v : ℤ} (hs : n.scan s = .ok (s', v))
    (hp : n.set p v = .ok p') : parseItems p s (.numeric n :: is) = parseItems p' s' is :=
  parseItems_cons_of_ok (by simp only [parseItem, hs, hp, bind, Except.bind, pure, Except.pure])

/-- A space before a literal skips nothing when the literal follows at once. -/
lemma parseItems_space_literal {c : Char} (hc : isWhitespace c = false) :
    parseItems p (c :: s) (.space :: .literal c :: is) = parseItems p s is := by
  rw [parseItems_cons_of_ok (by rw [parseItem, trimLeft_cons hc]),
    parseItems_cons_of_ok (parseItem_literal c)]

lemma parseItems_append_of_ok {js : List Item} (h : parseItems p s is = .ok (p', s')) :
    parseItems p s (is ++ js) = parseItems p' s' js := by
  induction is generalizing p s with
  | nil => cases h; rfl
  | cons i is ih =>
    simp only [parseItems, bind, Except.bind] at h ⊢
    split at h
    · cases h
    · exact ih h

end Items

/-- The date items read back the `Debug` text of a date. -/
lemma parseItems_date (d : NaiveDate) (rest : List Char) :
    parseItems Parsed.new (d.debug ++ 'T' :: rest)
      [.numeric .year, .space, .literal '-', .numeric .month, .space, .literal '-', .numeric .day] =
      .ok ({ year := some d.year, month := some d.month, day := some d.day }, 'T' :: rest) := by
  obtain ⟨y, m, dd, hy₁, hy₂, -, hm, -, hd⟩ := d
  have hdd : dd < 100 := by have := daysInMonth_le y m; omega
  have hy : -2147483648 ≤ y ∧ y < 2147483648 := by unfold minYear maxYear at *; omega
  have hyear : Numeric.year.set Parsed.new y = .ok { year := some y } := by
    simp only [Numeric.set, Parsed.setYear]; exact Parsed.setI32_of_none rfl hy.1 hy.2
  have hmonth : Numeric.month.set { year := some y } m = .ok { year := some y, month := some m } := by
    simp only [Numeric.set, Parsed.setMonth]; exact Parsed.setU32_of_none rfl (by omega)
  have hday : Numeric.day.set { year := some y, month := some m } dd =
      .ok { year := some y, month := some m, day := some dd } := by
    simp only [Numeric.set, Parsed.setDay]; exact Parsed.setU32_of_none rfl (by omega)
  simp only [NaiveDate.debug, List.append_assoc, List.cons_append,
    padZero_of_lt (by decide : 0 < 2) (by omega : m < 10 ^ 2),
    padZero_of_lt (by decide : 0 < 2) (by omega : dd < 10 ^ 2)]
  rw [parseItems_numeric (Numeric.scan_yearText hy₁ hy₂ (noDigitHead_cons (by decide) _)) hyear,
    parseItems_space_literal (by decide),
    parseItems_numeric (Numeric.scan_digits (n := .month) rfl rfl (by omega)
      (noDigitHead_cons (by decide) _)) hmonth,
    parseItems_space_literal (by decide),
    parseItems_numeric (Numeric.scan_digits (n := .day) rfl rfl hdd
      (noDigitHead_cons (by decide) _)) hday]
  rfl

lemma noDigitHead_fraction_append (nano : ℕ) {rest : List Char} (hr : rest.head? = some '+') :
    NoDigitHead (fraction nano ++ rest) := by
  unfold fraction
  split_ifs
  · simp +decide [NoDigitHead, hr]
  all_goals exact noDigitHead_cons (by decide) _

/-- A fraction of `k` printed digits sets the nanoseconds it stands for. -/
lemma parseItems_dot_digits {p : Parsed} (hp : p.nanosecond = none) {k q nano : ℕ}
    (hk₁ : 1 ≤ k) (hk₂ : k ≤ 9) (hq : q < 10 ^ k) (hnano : (q : ℤ) * scale k = nano)
    (hlt : nano < 1000000000) {rest : List Char} (hr : rest.head? = some '+') {is : List Item} :
    parseItems p ('.' :: (digits k q ++ rest)) (.fixed .nanosecond :: is) =
      parseItems { p with nanosecond := some nano } rest is := by
  have hs := scanNanosecond_digits hk₁ hk₂ hq (by rw [hnano]; unfold i64Max; omega) hr
  have hset : p.setNanosecond nano = .ok { p with nanosecond := some nano } :=
    Parsed.setU32_of_none hp (by omega)
  have hdot : parseItem p ('.' :: (digits k q ++ rest)) (.fixed .nanosecond) =
      (do let (s, v) ← scanNanosecond (digits k q ++ rest); let p ← p.setNanosecond v; pure (p, s)) :=
    rfl
  refine parseItems_cons_of_ok ?_
  rw [hdot, hs, ok_bind]
  show (p.setNanosecond (↑q * scale k) >>= fun p => pure (p, rest)) = _
  rw [hnano, hset, ok_bind]
  rfl

/-- The nanosecond item reads back the fraction `Debug` writes, and nothing when there is
none. -/
lemma parseItems_fraction {p : Parsed} (hp : p.nanosecond = none) {nano : ℕ}
    (hnano : nano < 1000000000) {rest : List Char} (hr : rest.head? = some '+') {is : List Item} :
    parseItems p (fraction nano ++ rest) (.fixed .nanosecond :: is) =
      parseItems { p with nanosecond := if nano = 0 then none else some nano } rest is := by
  unfold fraction
  split_ifs with h₀ h₆ h₃
  · have h : parseItem p rest (.fixed .nanosecond) = .ok (p, rest) := by simp [parseItem, hr]
    rw [List.nil_append, parseItems_cons_of_ok h]
    obtain ⟨_, _, _, _, _, _, _, _, _⟩ := p
    cases hp
    rfl
  all_goals
    rw [List.cons_append, padZero_of_lt (by decide) (by omega)]
    refine parseItems_dot_digits hp (by decide) (by decide) (by omega) ?_ hnano hr
    simp only [scale, List.getD_cons_succ, List.getD_cons_zero]
    omega

/-- The time items read back the `Debug` text of a time: a leap second as the second after it. -/
lemma parseItems_time (p : Parsed) (hp : p.hourDiv12 = none ∧ p.hourMod12 = none ∧
      p.minute = none ∧ p.second = none ∧ p.nanosecond = none)
    (t : NaiveTime) {rest : List Char} (hr : rest.head? = some '+') :
    parseItems p ('T' :: (t.debug ++ rest))
      [.space, .literal 'T', .numeric .hour, .space, .literal ':', .numeric .minute, .space,
        .literal ':', .numeric .second, .fixed .nanosecond] =
      .ok ({ p with
        hourDiv12 := some (t.secs / 3600 / 12), hourMod12 := some (t.secs / 3600 % 12),
        minute := some (t.secs / 60 % 60), second := some t.shownSecond,
        nanosecond := if t.shownNano = 0 then none else some t.shownNano }, rest) := by
  obtain ⟨h₁, h₂, h₃, h₄, h₅⟩ := hp
  have hs := t.secs_lt
  have hf := t.frac_lt
  have hsec := t.shownSecond_le
  have hnano := t.shownNano_lt
  have hhour : Numeric.hour.set p ↑(t.secs / 3600) = .ok { p with
      hourDiv12 := some (t.secs / 3600 / 12), hourMod12 := some (t.secs / 3600 % 12) } := by
    simp only [Numeric.set]; exact Parsed.setHour_of_none h₁ h₂ (by omega)
  have hminute : Numeric.minute.set { p with
      hourDiv12 := some (t.secs / 3600 / 12), hourMod12 := some (t.secs / 3600 % 12) }
      ↑(t.secs / 60 % 60) = .ok { p with
      hourDiv12 := some (t.secs / 3600 / 12), hourMod12 := some (t.secs / 3600 % 12),
      minute := some (t.secs / 60 % 60) } := by
    simp only [Numeric.set, Parsed.setMinute]; exact Parsed.setU32_of_none h₃ (by omega)
  have hsecond : Numeric.second.set { p with
      hourDiv12 := some (t.secs / 3600 / 12), hourMod12 := some (t.secs / 3600 % 12),
      minute := some (t.secs / 60 % 60) } ↑t.shownSecond = .ok { p with
      hourDiv12 := some (t.secs / 3600 / 12), hourMod12 := some (t.secs / 3600 % 12),
      minute := some (t.secs / 60 % 60), second := some t.shownSecond } := by
    simp only [Numeric.set, Parsed.setSecond]; exact Parsed.setU32_of_none h₄ (by omega)
  simp only [NaiveTime.debug, List.append_assoc, List.cons_append,
    padZero_of_lt (by decide : 0 < 2) (by omega : t.secs / 3600 < 10 ^ 2),
    padZero_of_lt (by decide : 0 < 2) (by omega : t.secs / 60 % 60 < 10 ^ 2),
    padZero_of_lt (by decide : 0 < 2) (by omega : t.shownSecond < 10 ^ 2)]
  rw [parseItems_space_literal (by decide),
    parseItems_numeric (Numeric.scan_digits (n := .hour) rfl rfl (by omega)
      (noDigitHead_cons (by decide) _)) hhour,
    parseItems_space_literal (by decide),
    parseItems_numeric (Numeric.scan_digits (n := .minute) rfl rfl (by omega)
      (noDigitHead_cons (by decide) _)) hminute,
    parseItems_space_literal (by decide),
    parseItems_numeric (Numeric.scan_digits (n := .second) rfl rfl (by omega)
      (noDigitHead_fraction_append _ hr)) hsecond,
    parseItems_fraction ?_ hnano hr]
  · rfl
  · exact h₅

/-- The offset items read back the offset zero of UTC, and nothing is left. -/
lemma parseItems_offset (p : Parsed) (hp : p.offset = none) :
    parseItems p (writeLocalMinusUtc 0) [.space, .fixed .timezoneOffsetZ, .space] =
      .ok ({ p with offset := some 0 }, []) := by
  have hset : p.setOffset 0 = .ok { p with offset := some 0 } :=
    Parsed.setI32_of_none hp (by decide) (by decide)
  have hz : timezoneOffsetZulu (trimLeft ['+', '0', '0', ':', '0', '0']) = .ok ([], 0) := rfl
  have htz : parseItem p ['+', '0', '0', ':', '0', '0'] (.fixed .timezoneOffsetZ) =
      .ok ({ p with offset := some 0 }, []) := by
    simp only [parseItem, hz, ok_bind, hset]
    rfl
  rw [writeLocalMinusUtc_zero, parseItems_cons_of_ok (by rw [parseItem, trimLeft_cons (by decide)]),
    parseItems_cons_of_ok htz]
  rfl

/-! ### The round trip -/

/-- The fields the RFC 3339 text of `t` sets. -/
def NaiveDateTime.parsedFields (t : NaiveDateTime) : Parsed where
  year := some t.date.year
  month := some t.date.month
  day := some t.date.day
  hourDiv12 := some (t.time.secs / 3600 / 12)
  hourMod12 := some (t.time.secs / 3600 % 12)
  minute := some (t.time.secs / 60 % 60)
  second := some t.time.shownSecond
  nanosecond := if t.time.shownNano = 0 then none else some t.time.shownNano
  offset := some 0

lemma parse_toRfc3339 (t : NaiveDateTime) :
    parse Parsed.new t.toRfc3339 rfc3339Items = .ok t.parsedFields := by
  have hitems : rfc3339Items =
      [.numeric .year, .space, .literal '-', .numeric .month, .space, .literal '-', .numeric .day] ++
      ([.space, .literal 'T', .numeric .hour, .space, .literal ':', .numeric .minute, .space,
        .literal ':', .numeric .second, .fixed .nanosecond] ++
      [.space, .fixed .timezoneOffsetZ, .space]) := rfl
  have htext : t.toRfc3339 = t.date.debug ++ 'T' :: (t.time.debug ++ writeLocalMinusUtc 0) := by
    simp only [NaiveDateTime.toRfc3339, List.append_assoc, List.cons_append]
  have hr : (writeLocalMinusUtc 0).head? = some '+' := by rw [writeLocalMinusUtc_zero]; rfl
  rw [parse, hitems, htext, parseItems_append_of_ok (parseItems_date _ _),
    parseItems_append_of_ok (parseItems_time _ ⟨rfl, rfl, rfl, rfl, rfl⟩ _ hr),
    parseItems_offset _ rfl]
  rfl

lemma bounded_some {v hi : ℕ} (h : v ≤ hi) : bounded (some v) hi = .ok v := by
  simp [bounded, h]

/-- `to_naive_time` on an hour, a minute, a second up to `60` and a fraction below a second. -/
lemma Parsed.toNaiveTime_of_fields {p : Parsed} {h m sec nano : ℕ}
    (h₁ : p.hourDiv12 = some (h / 12)) (h₂ : p.hourMod12 = some (h % 12))
    (h₃ : p.minute = some m) (h₄ : p.second = some sec)
    (h₅ : p.nanosecond = if nano = 0 then none else some nano)
    (hh : h < 24) (hm : m < 60) (hsec : sec ≤ 60) (hnano : nano < 1000000000) :
    p.toNaiveTime =
      match NaiveTime.fromHmsNanoOpt h m (if sec = 60 then 59 else sec)
          ((if sec = 60 then 1000000000 else 0) + nano) with
      | some t => .ok t
      | none => .error .outOfRange := by
  have hextra : extraNano p.nanosecond p.second = .ok nano := by
    rw [h₅, h₄]
    by_cases h0 : nano = 0
    · simp [extraNano, h0]
    · simp [extraNano, h0, show nano ≤ 999999999 by omega]
  rw [toNaiveTime, h₁, h₂, h₃, bounded_some (by omega), ok_bind, bounded_some (by omega), ok_bind,
    bounded_some (by omega), ok_bind, hextra, h₄, Option.getD_some, if_neg (by omega)]
  dsimp only
  rw [ok_bind, show h / 12 * 12 + h % 12 = h by omega]

/-- The hour, minute, second and fraction the text shows make the time back, with a leap
second outside the 59th second of a minute moved to the second after it. -/
lemma NaiveTime.fromHmsNanoOpt_shown (t : NaiveTime) :
    fromHmsNanoOpt (t.secs / 3600) (t.secs / 60 % 60)
      (if t.shownSecond = 60 then 59 else t.shownSecond)
      ((if t.shownSecond = 60 then 1000000000 else 0) + t.shownNano) = some t.leapNormal := by
  have hs := t.secs_lt
  have hf := t.frac_lt
  have hminute : t.secs / 3600 * 3600 + t.secs / 60 % 60 * 60 = t.secs - t.secs % 60 := by omega
  refine fromHmsNanoOpt_eq_some ⟨by omega, by omega, ?_⟩ ?_ ?_
  · unfold shownSecond; split_ifs <;> omega
  · rw [leapNormal_secs, hminute]; unfold shownSecond; split_ifs <;> omega
  · rw [leapNormal_frac]; unfold shownSecond shownNano; split_ifs <;> omega

lemma toNaiveTime_parsedFields (t : NaiveDateTime) :
    t.parsedFields.toNaiveTime = .ok t.time.leapNormal := by
  have hs := t.time.secs_lt
  rw [Parsed.toNaiveTime_of_fields rfl rfl rfl rfl rfl (by omega) (by omega) t.time.shownSecond_le
    t.time.shownNano_lt, NaiveTime.fromHmsNanoOpt_shown]

lemma toDatetime_parsedFields (t : NaiveDateTime) :
    t.parsedFields.toDatetime = .ok (.ok t.leapNormal) := by
  have hdate : t.parsedFields.toNaiveDate = .ok t.date := by
    simp [Parsed.toNaiveDate, NaiveDateTime.parsedFields]
  have hlocal : t.parsedFields.toNaiveDatetimeWithOffset = .ok t.leapNormal := by
    rw [Parsed.toNaiveDatetimeWithOffset, hdate, toNaiveTime_parsedFields]
    rfl
  have hshift : t.leapNormal.subOffset ⟨0, by decide, by decide⟩ = some t.leapNormal :=
    NaiveDateTime.subOffset_zero _ _ rfl
  rw [Parsed.toDatetime, show t.parsedFields.offset = some 0 from rfl, hlocal]
  show (match t.leapNormal.subOffset ⟨0, by decide, by decide⟩ with
    | some t => Except.ok (Except.ok t)
    | none => Except.error "`NaiveDateTime + Duration` overflowed") = _
  rw [hshift]

/-- **The RFC 3339 round trip.** `DateTime::<Utc>::from_str` reads the text of `to_rfc3339`
back as the same date and time, except that a leap second outside the 59th second of a
minute becomes the second after it. -/
theorem fromStr_toRfc3339 (t : NaiveDateTime) : fromStr t.toRfc3339 = .ok (.ok t.leapNormal) := by
  rw [fromStr, parse_toRfc3339]
  exact toDatetime_parsedFields t

end Chrono

end CryptoChain
