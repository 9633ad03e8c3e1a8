import LaneQuota.Ledger.Bucket
import Mathlib

namespace LaneQuota

theorem ofDigitChars_paddedText (width n : ℕ) :
    Nat.ofDigitChars 10 (paddedText width n).toList 0 = n := by
  simp only [paddedText, String.toList_ofList, zeros]
  rw [Nat.ofDigitChars_append, Nat.ofDigitChars_replicate_zero, Nat.mul_zero,
    Nat.ofDigitChars_ten_toDigits]

theorem paddedText_injective {width m n : ℕ} (h : paddedText width m = paddedText width n) :
    m = n := by
  rw [← ofDigitChars_paddedText width m, h, ofDigitChars_paddedText]

theorem length_paddedText {width n : ℕ} (hw : 0 < width) (h : n < 10 ^ width) :
    (paddedText width n).toList.length = width := by
  have hl := (Nat.length_toDigits_le_iff (b := 10) (by norm_num) hw).mpr h
  simp only [paddedText, String.toList_ofList, List.length_append, zeros, List.length_replicate]
  omega

theorem isDigit_of_mem_paddedText {width n : ℕ} {c : Char} (h : c ∈ (paddedText width n).toList) :
    c.isDigit = true := by
  simp only [paddedText, String.toList_ofList, List.mem_append, zeros] at h
  rcases h with h | h
  · rw [List.eq_of_mem_replicate h]
    rfl
  · exact Nat.isDigit_of_mem_toDigits (by norm_num) (by norm_num) h

theorem paddedText_ne_sign (width m n : ℕ) {sign : String} {c : Char} (hs : sign.toList = [c])
    (hc : c.isDigit = false) : paddedText width m ≠ sign ++ paddedText width n := by
  intro h
  have hmem : c ∈ (paddedText width m).toList := by simp [h, hs]
  have hd := isDigit_of_mem_paddedText hmem
  rw [hc] at hd
  exact absurd hd (by decide)

theorem yearText_injective {y z : ℤ} (h : yearText y = yearText z) : y = z := by
  have hminus : "-".toList = ['-'] := rfl
  have hplus : "+".toList = ['+'] := rfl
  unfold yearText at h
  split_ifs at h with hy hz hneg hneg hneg' hneg' hneg'
  · have hn := paddedText_injective h
    omega
  · exact absurd h (paddedText_ne_sign _ _ _ hminus rfl)
  · exact absurd h (paddedText_ne_sign _ _ _ hplus rfl)
  · exact absurd h.symm (paddedText_ne_sign _ _ _ hminus rfl)
  · have hn := paddedText_injective (String.append_right_inj _ |>.mp h)
    omega
  · have hl := congrArg String.toList h
    simp [hminus, hplus] at hl
  · exact absurd h.symm (paddedText_ne_sign _ _ _ hplus rfl)
  · have hl := congrArg String.toList h
    simp [hminus, hplus] at hl
  · have hn := paddedText_injective (String.append_right_inj _ |>.mp h)
    omega

namespace Date

theorem yearOfEra_bounds {d y : ℤ} (h0 : 0 ≤ d) (h1 : d ≤ 146096)
    (hy : y = (d - d / 1460 + d / 36524 - d / 146096) / 365) :
    0 ≤ y ∧ y ≤ 399 ∧ 0 ≤ d - (365 * y + y / 4 - y / 100) ∧
      d - (365 * y + y / 4 - y / 100) ≤ 365 := by
  have hy0 : 0 ≤ y := by omega
  have hy1 : y ≤ 399 := by omega
  have hday : d / 36524 = 0 ∨ d / 36524 = 1 ∨ d / 36524 = 2 ∨ d / 36524 = 3 ∨ d / 36524 = 4 := by
    omega
  have hyear : y / 100 = 0 ∨ y / 100 = 1 ∨ y / 100 = 2 ∨ y / 100 = 3 := by omega
  refine ⟨hy0, hy1, ?_⟩
  -- In a century that is known every fourth year is a leap year.
  rcases hday with h | h | h | h | h <;> rcases hyear with h' | h' | h' | h' <;>
    rw [h] at hy <;> rw [h'] <;> constructor <;> omega

def fromMarch (era y m d : ℤ) : Date :=
  let month := if m < 10 then m + 3 else m - 9
  ⟨if month ≤ 2 then y + era * 400 + 1 else y + era * 400, month.toNat, d.toNat⟩

theorem dayNumber_fromMarch (era : ℤ) {y m d : ℤ} (hy : 0 ≤ y) (hy' : y ≤ 399) (hm : 0 ≤ m)
    (hm' : m ≤ 11) (hd : 1 ≤ d) : (fromMarch era y m d).dayNumber =
      era * 146097 + (y * 365 + y / 4 - y / 100 + ((153 * m + 2) / 5 + d - 1)) - 719468 := by
  simp only [dayNumber, fromMarch]
  split_ifs <;> omega

theorem ofDayNumber_eq (n : ℤ) : ∃ era y m d : ℤ, 0 ≤ y ∧ y ≤ 399 ∧ 0 ≤ m ∧ m ≤ 11 ∧ 1 ≤ d ∧
    d ≤ 31 ∧ ofDayNumber n = fromMarch era y m d ∧
    era * 146097 + (y * 365 + y / 4 - y / 100 + ((153 * m + 2) / 5 + d - 1)) - 719468 = n := by
  obtain ⟨d, hd⟩ : ∃ d, d = n + 719468 - (n + 719468) / 146097 * 146097 := ⟨_, rfl⟩
  obtain ⟨y, hy⟩ : ∃ y, y = (d - d / 1460 + d / 36524 - d / 146096) / 365 := ⟨_, rfl⟩
  obtain ⟨hy0, hy1, hday0, hday1⟩ := yearOfEra_bounds (by omega) (by omega) hy
  obtain ⟨e, he⟩ : ∃ e, e = d - (365 * y + y / 4 - y / 100) := ⟨_, rfl⟩
  rw [← he] at hday0 hday1
  refine ⟨(n + 719468) / 146097, y, (5 * e + 2) / 153, e - (153 * ((5 * e + 2) / 153) + 2) / 5 + 1,
    hy0, hy1, by omega, by omega, by omega, by omega, ?_, by omega⟩
  simp only [ofDayNumber, fromMarch, ← hd, ← hy, ← he]

theorem dayNumber_ofDayNumber (n : ℤ) : (ofDayNumber n).dayNumber = n := by
  obtain ⟨era, y, m, d, hy, hy', hm, hm', hd, -, heq, hn⟩ := ofDayNumber_eq n
  rw [heq, dayNumber_fromMarch era hy hy' hm hm' hd, hn]

theorem month_ofDayNumber_lt (n : ℤ) : (ofDayNumber n).month < 100 := by
  obtain ⟨era, y, m, d, -, -, -, hm, -, -, heq, -⟩ := ofDayNumber_eq n
  rw [heq]
  simp only [fromMarch]
  split_ifs <;> omega

theorem day_ofDayNumber_lt (n : ℤ) : (ofDayNumber n).day < 100 := by
  obtain ⟨era, y, m, d, -, -, -, -, -, hd, heq, -⟩ := ofDayNumber_eq n
  rw [heq]
  simp only [fromMarch]
  omega

theorem eq_of_text_eq {a b : Date} (ham : a.month < 100) (had : a.day < 100) (hbm : b.month < 100)
    (hbd : b.day < 100) (h : a.text = b.text) : a = b := by
  have hl := congrArg String.toList h
  simp only [text, monthText, String.toList_append] at hl
  -- Years differ in length, but month and day have two digits: the text comes apart from its end.
  obtain ⟨hl, hd⟩ := List.append_inj' hl (by
    rw [length_paddedText (by norm_num) had, length_paddedText (by norm_num) hbd])
  obtain ⟨hl, -⟩ := List.append_inj' hl rfl
  obtain ⟨hl, hm⟩ := List.append_inj' hl (by
    rw [length_paddedText (by norm_num) ham, length_paddedText (by norm_num) hbm])
  obtain ⟨hy, -⟩ := List.append_inj' hl rfl
  have hyear := yearText_injective (String.toList_inj.mp hy)
  have hmonth := paddedText_injective (String.toList_inj.mp hm)
  have hday := paddedText_injective (String.toList_inj.mp hd)
  cases a
  cases b
  simp_all

end Date

def Zone.dayNumber (z : Zone) (t : Instant) : ℤ := (z.toLocal t).seconds / secondsPerDay

def dayText (n : ℤ) : String := (Date.ofDayNumber n).text

theorem dayText_injective {m n : ℤ} (h : dayText m = dayText n) : m = n := by
  have hdate := Date.eq_of_text_eq (Date.month_ofDayNumber_lt m) (Date.day_ofDayNumber_lt m)
    (Date.month_ofDayNumber_lt n) (Date.day_ofDayNumber_lt n) h
  rw [← Date.dayNumber_ofDayNumber m, hdate, Date.dayNumber_ofDayNumber]

end LaneQuota
