import LaneQuota.Calendar.Timestamp
import LaneQuota.Proofs.Calendar.DayOrder
import LaneQuota.Proofs.Json.Numbers

namespace LaneQuota

namespace Date

theorem isLeapYear_of_lastDay {d y : ℤ} (h0 : 0 ≤ d) (h1 : d ≤ 146096)
    (hy : y = (d - d / 1460 + d / 36524 - d / 146096) / 365)
    (hlast : d - (365 * y + y / 4 - y / 100) = 365) (era : ℤ) :
    isLeapYear (era * 400 + y + 1) = true := by
  -- Centuries, groups of four years and years, counted from the start of the era.
  have hy0 : 0 ≤ y ∧ y ≤ 399 := by omega
  obtain ⟨c, q, r, rfl, hc, hq, hr⟩ : ∃ c q r : ℤ, y = 100 * c + 4 * q + r ∧ (0 ≤ c ∧ c ≤ 3) ∧
      (0 ≤ q ∧ q ≤ 24) ∧ 0 ≤ r ∧ r ≤ 3 := by
    clear hy hlast
    exact ⟨y / 100, y % 100 / 4, y % 100 % 4, by omega, by omega, by omega, by omega⟩
  have h4 : (100 * c + 4 * q + r) / 4 = 25 * c + q := by
    clear hy hlast
    omega
  have h100 : (100 * c + 4 * q + r) / 100 = c := by
    clear hy hlast
    omega
  have hdays : d = 36524 * c + 1461 * q + 365 * r + 365 := by
    rw [h4, h100] at hlast
    linarith
  clear hlast
  have hr3 : r = 3 := by
    by_contra hr3
    have h1 : d / 1460 = 25 * c + q := by omega
    have h2 : d / 36524 = c := by omega
    have h3 : d / 146096 = 0 := by omega
    omega
  have hcentury : q = 24 → c = 3 := by
    rintro rfl
    by_contra hc3
    have h1 : d / 1460 = 25 * c + 25 := by omega
    have h2 : d / 36524 = c + 1 := by omega
    have h3 : d / 146096 = 0 := by omega
    omega
  clear hy hdays
  have hfour : (era * 400 + (100 * c + 4 * q + r) + 1) % 4 = 0 := by omega
  have hhundred : (era * 400 + (100 * c + 4 * q + r) + 1) % 100 ≠ 0 ∨
      (era * 400 + (100 * c + 4 * q + r) + 1) % 400 = 0 := by omega
  simp only [isLeapYear, Bool.and_eq_true, Bool.or_eq_true, beq_iff_eq, bne_iff_ne, ne_eq]
  exact ⟨hfour, hhundred⟩

theorem day_le_daysInMonth (n : ℤ) : 1 ≤ (ofDayNumber n).month ∧ (ofDayNumber n).month ≤ 12 ∧
    1 ≤ (ofDayNumber n).day ∧
      (ofDayNumber n).day ≤ daysInMonth (ofDayNumber n).year (ofDayNumber n).month := by
  obtain ⟨d, hd⟩ : ∃ d, d = n + 719468 - (n + 719468) / 146097 * 146097 := ⟨_, rfl⟩
  obtain ⟨y, hy⟩ : ∃ y, y = (d - d / 1460 + d / 36524 - d / 146096) / 365 := ⟨_, rfl⟩
  have hd0 : 0 ≤ d ∧ d ≤ 146096 := by omega
  obtain ⟨-, -, hday0, hday1⟩ := yearOfEra_bounds hd0.1 hd0.2 hy
  have hlast := isLeapYear_of_lastDay hd0.1 hd0.2 hy
  obtain ⟨e, he⟩ : ∃ e, e = d - (365 * y + y / 4 - y / 100) := ⟨_, rfl⟩
  rw [← he] at hday0 hday1 hlast
  obtain ⟨m, hm⟩ : ∃ m, m = (5 * e + 2) / 153 := ⟨_, rfl⟩
  obtain ⟨hm0, hm11⟩ : 0 ≤ m ∧ m ≤ 11 := by omega
  simp only [ofDayNumber, ← hd, ← hy, ← he, ← hm]
  clear hd hd0 hy he
  by_cases hfeb : m = 11
  · subst hfeb
    have hyear : y + (n + 719468) / 146097 * 400 + 1 = (n + 719468) / 146097 * 400 + y + 1 := by ring
    have hleap : e = 365 → isLeapYear ((n + 719468) / 146097 * 400 + y + 1) = true :=
      fun h => hlast h _
    simp only [Int.reduceLT, if_false, Int.reduceSub, Int.reduceToNat, Int.reduceLE, if_true,
      Int.reduceMul, Int.reduceAdd, Int.reduceDiv, daysInMonth, hyear]
    refine ⟨by omega, by omega, by omega, ?_⟩
    by_cases hl : isLeapYear ((n + 719468) / 146097 * 400 + y + 1) = true
    · rw [if_pos hl]
      omega
    · have he : e ≠ 365 := fun h => hl (hleap h)
      rw [if_neg hl]
      omega
  · interval_cases m
    all_goals simp [daysInMonth]
    all_goals omega

theorem year_ofDayNumber_bounds {n : ℤ} (h0 : earliest.dayNumber ≤ n) (h1 : n ≤ latest.dayNumber) :
    firstYear ≤ (ofDayNumber n).year ∧ (ofDayNumber n).year ≤ lastYear := by
  have hfirst : ofDayNumber earliest.dayNumber = earliest := by decide
  have hlast : ofDayNumber latest.dayNumber = latest := by decide
  have hlow : earliest.rank ≤ (ofDayNumber n).rank := hfirst ▸ rank_strictMono.monotone h0
  have hhigh : (ofDayNumber n).rank ≤ latest.rank := hlast ▸ rank_strictMono.monotone h1
  obtain ⟨hm1, hm12, hd1, -⟩ := day_le_daysInMonth n
  have hd := day_ofDayNumber_lt n
  simp only [rank, earliest, latest, firstYear, lastYear] at hlow hhigh ⊢
  omega

theorem ofYearMonthDay?_ofDayNumber {n : ℤ} (h0 : earliest.dayNumber ≤ n)
    (h1 : n ≤ latest.dayNumber) :
    ofYearMonthDay? (ofDayNumber n).year (ofDayNumber n).month (ofDayNumber n).day =
      some (ofDayNumber n) := by
  obtain ⟨hy0, hy1⟩ := year_ofDayNumber_bounds h0 h1
  obtain ⟨hm1, hm12, hd1, hdays⟩ := day_le_daysInMonth n
  exact if_pos ⟨hy0, hy1, hm1, hm12, hd1, hdays⟩

end Date

theorem isBlank_of_isDigit {c : Char} (h : c.isDigit = true) : isBlank c = false := by
  have hbounds := toNat_bounds_of_isDigit h
  have hzero : '0'.toNat = 48 := rfl
  rw [hzero] at hbounds
  simp [isBlank]
  omega

theorem dropBlanks_cons {c : Char} (h : isBlank c = false) (cs : List Char) :
    dropBlanks (c :: cs) = c :: cs := List.dropWhile_cons_of_neg (by simpa using h)

section Padded

variable {width n : ℕ} (rest : List Char)

theorem digitsValue_paddedText (width n : ℕ) : digitsValue (paddedText width n).toList = n :=
  ofDigitChars_paddedText width n

theorem isDigit_paddedText : ∀ c ∈ (paddedText width n).toList, isDigit c = true := by
  intro c hc
  rw [isDigit_eq]
  exact isDigit_of_mem_paddedText hc

theorem paddedText_ne_nil (width n : ℕ) : (paddedText width n).toList ≠ [] := by
  simp only [paddedText, String.toList_ofList]
  exact List.append_ne_nil_of_right_ne_nil _ Nat.toDigits_ne_nil

theorem isEmpty_paddedText (width n : ℕ) : (paddedText width n).toList.isEmpty = false :=
  List.isEmpty_eq_false_iff.mpr (paddedText_ne_nil width n)

theorem dropBlanks_paddedText :
    dropBlanks ((paddedText width n).toList ++ rest) = (paddedText width n).toList ++ rest := by
  obtain ⟨c, cs, hcs⟩ := List.exists_cons_of_ne_nil (paddedText_ne_nil width n)
  rw [hcs, List.cons_append]
  apply dropBlanks_cons
  apply isBlank_of_isDigit
  exact isDigit_of_mem_paddedText (hcs ▸ List.mem_cons_self)

theorem paddedText_append_ne_cons {c : Char} (hc : c.isDigit = false) (rest cs : List Char) :
    (paddedText width n).toList ++ rest ≠ c :: cs := by
  intro h
  obtain ⟨d, ds, hds⟩ := List.exists_cons_of_ne_nil (paddedText_ne_nil width n)
  rw [hds, List.cons_append] at h
  have hd : d.isDigit = true := isDigit_of_mem_paddedText (hds ▸ List.mem_cons_self)
  rw [(List.cons.inj h).1, hc] at hd
  contradiction

end Padded

namespace Timestamp

variable {width n : ℕ} (rest : List Char)

theorem number?_paddedText (hw : 0 < width) (hn : n < 10 ^ width) :
    number? width ((paddedText width n).toList ++ rest) = some (n, rest) := by
  have hlen := length_paddedText hw hn
  unfold number?
  rw [List.take_left' hlen, List.takeWhile_eq_self_iff.mpr isDigit_paddedText]
  simp only [isEmpty_paddedText, digitsValue_paddedText, List.drop_left]
  rfl

theorem paddedNumber?_paddedText (hw : 0 < width) (hn : n < 10 ^ width) :
    paddedNumber? width ((paddedText width n).toList ++ rest) = some (n, rest) := by
  rw [paddedNumber?, dropBlanks_paddedText, number?_paddedText rest hw hn]

theorem number?_length (width n : ℕ) {rest : List Char}
    (hrest : ∀ c ∈ rest.head?, isDigit c = false) :
    number? ((paddedText width n).toList ++ rest).length ((paddedText width n).toList ++ rest) =
      some (n, rest) := by
  unfold number?
  rw [List.take_length, takeWhile_append_of_head hrest,
    List.takeWhile_eq_self_iff.mpr isDigit_paddedText]
  simp only [isEmpty_paddedText, digitsValue_paddedText, List.drop_left]
  rfl

theorem mark?_cons {c : Char} (h : isBlank c = false) : mark? c (c :: rest) = some rest := by
  simp [mark?, dropBlanks_cons h]

theorem year?_yearText (y : ℤ) :
    year? ((yearText y).toList ++ '-' :: rest) = some (y, '-' :: rest) := by
  have hminus : "-".toList = ['-'] := rfl
  have hplus : "+".toList = ['+'] := rfl
  have hrest : ∀ c ∈ ('-' :: rest).head?, isDigit c = false := by simp; rfl
  unfold yearText
  split_ifs with hfour hneg
  · have hread := number?_paddedText ('-' :: rest) four_pos (show y.toNat < 10 ^ 4 by omega)
    have hy : ((y.toNat : ℕ) : ℤ) = y := by omega
    unfold year?
    rw [dropBlanks_paddedText]
    split
    · next heq => exact absurd heq (paddedText_append_ne_cons rfl _ _)
    · next heq => exact absurd heq (paddedText_append_ne_cons rfl _ _)
    · rw [hread]
      simp only [Option.map_some, hy]
  · have hy : -((y.natAbs : ℕ) : ℤ) = y := by omega
    rw [String.toList_append, hminus, List.append_assoc, List.singleton_append, year?,
      dropBlanks_cons (by decide)]
    simp only [number?_length 4 y.natAbs hrest, Option.map_some, hy]
  · have hy : ((y.natAbs : ℕ) : ℤ) = y := by omega
    rw [String.toList_append, hplus, List.append_assoc, List.singleton_append, year?,
      dropBlanks_cons (by decide)]
    simp only [number?_length 4 y.natAbs hrest, Option.map_some, hy]

theorem date?_text {n : ℤ} (h0 : Date.earliest.dayNumber ≤ n) (h1 : n ≤ Date.latest.dayNumber) :
    date? ((Date.ofDayNumber n).text.toList ++ rest) = some (Date.ofDayNumber n, rest) := by
  have hdash : "-".toList = ['-'] := rfl
  simp only [Date.text, Date.monthText, String.toList_append, hdash, List.append_assoc,
    List.cons_append, List.nil_append]
  have hblank : isBlank '-' = false := by decide
  unfold date?
  simp only [year?_yearText, Option.bind_eq_bind, Option.bind_some, mark?_cons _ hblank,
    paddedNumber?_paddedText _ two_pos (Date.month_ofDayNumber_lt n),
    paddedNumber?_paddedText _ two_pos (Date.day_ofDayNumber_lt n),
    Date.ofYearMonthDay?_ofDayNumber h0 h1]
  rfl

theorem fraction?_paddedText (hw : 0 < width) (hw9 : width ≤ 9) (hn : n < 10 ^ width)
    (hrest : ∀ c ∈ rest.head?, isDigit c = false) :
    fraction? ('.' :: ((paddedText width n).toList ++ rest)) =
      some (n * 10 ^ (9 - width), rest) := by
  have hlen := length_paddedText hw hn
  have htake : ((paddedText width n).toList ++ rest).take 9 =
      (paddedText width n).toList ++ rest.take (9 - width) := by
    rw [List.take_append, List.take_of_length_le (by omega), hlen]
  have hhead : ∀ c ∈ (rest.take (9 - width)).head?, isDigit c = false := by
    intro c hc
    rw [List.head?_take] at hc
    split at hc
    · contradiction
    · exact hrest c hc
  have hdigits : ((paddedText width n).toList ++ rest.take (9 - width)).takeWhile isDigit =
      (paddedText width n).toList := by
    rw [takeWhile_append_of_head hhead, List.takeWhile_eq_self_iff.mpr isDigit_paddedText]
  have hafter : ((paddedText width n).toList ++ rest).dropWhile isDigit = rest := by
    rw [dropWhile_append_of_head hrest, List.dropWhile_eq_nil_iff.mpr isDigit_paddedText,
      List.nil_append]
  unfold fraction?
  simp only [htake, hdigits, hafter, isEmpty_paddedText, digitsValue_paddedText, hlen]
  rfl

theorem fraction?_fractionText {nanos : ℕ} (h : nanos < nanosPerSecond) :
    fraction? ((fractionText nanos).toList ++ 'Z' :: rest) = some (nanos, 'Z' :: rest) := by
  have hpoint : ".".toList = ['.'] := rfl
  have hrest : ∀ c ∈ ('Z' :: rest).head?, isDigit c = false := by simp; rfl
  unfold nanosPerSecond at h
  unfold fractionText
  split_ifs with h0 h3 h6
  · subst h0
    rfl
  · rw [String.toList_append, hpoint, List.append_assoc, List.singleton_append,
      fraction?_paddedText _ (by norm_num) (by norm_num) (by omega) hrest]
    congr 2
    omega
  · rw [String.toList_append, hpoint, List.append_assoc, List.singleton_append,
      fraction?_paddedText _ (by norm_num) (by norm_num) (by omega) hrest]
    congr 2
    omega
  · rw [String.toList_append, hpoint, List.append_assoc, List.singleton_append,
      fraction?_paddedText _ (by norm_num) (by norm_num) (by omega) hrest]
    congr 2
    omega

end Timestamp

/-- An instant that the calendar reaches. Only the last second of a minute can be followed by a
leap second. -/
structure Instant.IsValid (t : Instant) : Prop where
  reached : t.isReached = true
  nanos : t.nanos < nanosPerSecond ∨ t.nanos < 2 * nanosPerSecond ∧ t.seconds % 60 = 59

instance (t : Instant) : Decidable t.IsValid :=
  decidable_of_iff (t.isReached = true ∧
      (t.nanos < nanosPerSecond ∨ t.nanos < 2 * nanosPerSecond ∧ t.seconds % 60 = 59))
    ⟨fun h => ⟨h.1, h.2⟩, fun h => ⟨h.reached, h.nanos⟩⟩

theorem Instant.secondOfDay_lt (t : Instant) : t.secondOfDay < 86400 := by
  unfold secondOfDay secondsPerDay
  omega

theorem Instant.day_bounds {t : Instant} (h : t.isReached = true) :
    Date.earliest.dayNumber ≤ t.seconds / secondsPerDay ∧
      t.seconds / secondsPerDay ≤ Date.latest.dayNumber := by
  have hbounds := of_decide_eq_true h
  simp only [firstSecond, lastSecond, secondsPerDay] at hbounds ⊢
  omega

namespace Timestamp

theorem read?_parts {n : ℤ} {hour minute second nanos : ℕ} {t : Instant}
    (h0 : Date.earliest.dayNumber ≤ n) (h1 : n ≤ Date.latest.dayNumber) (hh : hour < 24)
    (hm : minute < 60) (hs : second < 61) (hn : nanos < nanosPerSecond)
    (hreached : t.isReached = true)
    (hseconds : t.seconds = n * secondsPerDay +
      (hour * 3600 + minute * 60 + (if second = 60 then 59 else second) : ℕ))
    (hnanos : t.nanos = if second = 60 then nanos + nanosPerSecond else nanos) :
    read? ((Date.ofDayNumber n).text ++ "T" ++ paddedText 2 hour ++ ":" ++ paddedText 2 minute ++
      ":" ++ paddedText 2 second ++ fractionText nanos ++ "Z") = some t := by
  have hT : "T".toList = ['T'] := rfl
  have hcolon : ":".toList = [':'] := rfl
  have hZ : "Z".toList = ['Z'] := rfl
  have hblank : isBlank ':' = false := by decide
  have hdrop : dropBlanks ['Z'] = ['Z'] := by decide
  have hoffset : offset? ['Z'] = some (0, []) := rfl
  have hbounds : (!(dropBlanks []).isEmpty || decide (24 ≤ hour) || decide (60 ≤ minute) ||
      decide (61 ≤ second) || decide (secondsPerDay ≤ ((0 : ℤ).natAbs : ℤ))) = false := by
    have hempty : (dropBlanks []).isEmpty = true := rfl
    have hday : 0 < secondsPerDay := by decide
    simp [hempty, hday, hh, hm, hs]
  unfold read?
  simp only [String.toList_append, hT, hcolon, hZ, List.append_assoc, List.cons_append,
    List.nil_append, date?_text _ h0 h1, Option.bind_eq_bind, Option.bind_some,
    paddedNumber?_paddedText _ two_pos (show hour < 10 ^ 2 by omega),
    paddedNumber?_paddedText _ two_pos (show minute < 10 ^ 2 by omega),
    paddedNumber?_paddedText _ two_pos (show second < 10 ^ 2 by omega), mark?_cons _ hblank,
    fraction?_fractionText [] hn, hdrop, hoffset, hbounds, Instant.ofDate, sub_zero, ← hnanos,
    Date.dayNumber_ofDayNumber, ← hseconds]
  exact (if_neg Bool.false_ne_true).trans (if_pos hreached)

theorem read?_text {t : Instant} (h : t.IsValid) : read? t.text = some t := by
  obtain ⟨hreached, hnanos⟩ := h
  have hs := t.secondOfDay_lt
  obtain ⟨h0, h1⟩ := Instant.day_bounds hreached
  have hday : t.seconds = t.seconds / secondsPerDay * secondsPerDay + t.secondOfDay := by
    unfold Instant.secondOfDay secondsPerDay
    omega
  unfold Instant.text Instant.bareText Instant.date
  by_cases hleap : nanosPerSecond ≤ t.nanos
  · have hlast : t.secondOfDay % 60 = 59 := by
      unfold Instant.secondOfDay secondsPerDay
      omega
    simp only [hleap, if_true]
    apply read?_parts h0 h1 (by omega) (by omega) (by omega) (by omega) hreached
    · rw [if_pos (by omega)]
      omega
    · rw [if_pos (by omega)]
      omega
  · simp only [hleap, if_false]
    apply read?_parts h0 h1 (by omega) (by omega) (by omega) (by omega) hreached
    · rw [if_neg (by omega)]
      omega
    · rw [if_neg (by omega)]

theorem digitsValue_lt {cs : List Char} (h : ∀ c ∈ cs, isDigit c = true) :
    digitsValue cs < 10 ^ cs.length := by
  have hfold : ∀ n, cs.foldl (fun n c => 10 * n + (c.toNat - 48)) n < (n + 1) * 10 ^ cs.length := by
    induction cs with
    | nil => simp
    | cons c cs ih =>
      intro n
      have hc := h c List.mem_cons_self
      rw [isDigit_eq] at hc
      have hzero : '0'.toNat = 48 := rfl
      have hc9 := (toNat_bounds_of_isDigit hc).2
      rw [hzero] at hc9
      have hrest := ih (fun d hd => h d (List.mem_cons_of_mem c hd)) (10 * n + (c.toNat - 48))
      refine hrest.trans_le ?_
      rw [List.length_cons, pow_succ', ← mul_assoc]
      exact Nat.mul_le_mul_right _ (by omega)
  simpa [digitsValue] using hfold 0

theorem fraction?_lt {cs rest : List Char} {nanos : ℕ} (h : fraction? cs = some (nanos, rest)) :
    nanos < nanosPerSecond := by
  unfold fraction? at h
  split at h
  · next digits =>
    dsimp only at h
    split_ifs at h
    obtain ⟨rfl, -⟩ := Prod.mk.inj (Option.some.inj h)
    have hlen : ((digits.take 9).takeWhile isDigit).length ≤ 9 :=
      (List.takeWhile_prefix _).length_le.trans (List.length_take_le 9 digits)
    have hlt : digitsValue ((digits.take 9).takeWhile isDigit) < _ :=
      digitsValue_lt (fun c hc => List.mem_takeWhile_imp hc)
    have hpos : 0 < 10 ^ (9 - ((digits.take 9).takeWhile isDigit).length) := by positivity
    have hmul := Nat.mul_lt_mul_of_pos_right hlt hpos
    rwa [← pow_add, Nat.add_sub_cancel' hlen] at hmul
  · obtain ⟨rfl, -⟩ := Prod.mk.inj (Option.some.inj h)
    decide

theorem offset?_emod {cs rest : List Char} {offset : ℤ} (h : offset? cs = some (offset, rest)) :
    offset % 60 = 0 := by
  unfold offset? at h
  split at h
  · obtain ⟨rfl, -⟩ := Prod.mk.inj (Option.some.inj h)
    rfl
  · obtain ⟨rfl, -⟩ := Prod.mk.inj (Option.some.inj h)
    rfl
  · next u t c digits _ _ =>
    by_cases hword : u.toLower = 'u' ∧ t.toLower = 't' ∧ c.toLower = 'c'
    · rw [if_pos hword] at h
      obtain ⟨rfl, -⟩ := Prod.mk.inj (Option.some.inj h)
      rfl
    rw [if_neg hword] at h
    by_cases hsign : u = '+' ∨ u = '-' ∨ u = Char.ofNat 0x2212
    · rw [if_pos hsign] at h
      simp only [Option.bind_eq_bind, Option.bind_eq_some_iff] at h
      obtain ⟨⟨hours, cs⟩, -, ⟨minutes, cs'⟩, -, h⟩ := h
      dsimp only at h
      by_cases hminutes : 60 ≤ minutes
      · simp [hminutes] at h
      · rw [if_neg hminutes] at h
        obtain ⟨rfl, -⟩ := Prod.mk.inj (Option.some.inj h)
        split_ifs <;> omega
    · rw [if_neg hsign] at h
      contradiction
  · contradiction

theorem isValid_of_read? {text : String} {t : Instant} (h : read? text = some t) : t.IsValid := by
  unfold read? at h
  simp only [Option.bind_eq_bind, Option.bind_eq_some_iff] at h
  obtain ⟨⟨date, cs⟩, -, h⟩ := h
  split at h
  on_goal 4 => contradiction
  all_goals
    simp only [Option.bind_eq_some_iff] at h
    obtain ⟨_, -, ⟨hour, _⟩, -, _, -, ⟨minute, _⟩, -, _, -, ⟨second, _⟩, -, ⟨nanos, _⟩, hnanos,
      ⟨offset, _⟩, hoffset, h⟩ := h
    have hlt := fraction?_lt hnanos
    have hmod := offset?_emod hoffset
    split at h
    · simp at h
    obtain ⟨hreached, h⟩ := Option.ite_none_right_eq_some.mp h
    obtain rfl := Option.some.inj h
    refine ⟨hreached, ?_⟩
    dsimp only [Instant.ofDate, secondsPerDay]
    split_ifs <;> omega

end Timestamp

end LaneQuota
