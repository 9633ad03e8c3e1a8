import LaneQuota.Ledger.Bucket
import LaneQuota.Proofs.Calendar.DayOrder

/-!
# The order of hours and of their names

The hours of a zone are counted from the first one of 1970. In years of four digits their names sort
like the hours. A clock that does not go back does not go back some hours ago either.
-/

namespace LaneQuota

def Zone.hourNumber (z : Zone) (t : Instant) : ℤ := (z.toLocal t).seconds / 3600

def hourText (n : ℤ) : String := dayText (n / 24) ++ "T" ++ paddedText 2 (n % 24).toNat

def HourInFourDigits (n : ℤ) : Prop := (Date.ofDayNumber (n / 24)).InFourDigits

instance (n : ℤ) : Decidable (HourInFourDigits n) := inferInstanceAs (Decidable (Date.InFourDigits _))

theorem Zone.hourNumber_ediv (z : Zone) (t : Instant) : z.hourNumber t / 24 = z.dayNumber t := by
  unfold hourNumber dayNumber secondsPerDay
  omega

theorem hourInFourDigits_iff {z : Zone} {t : Instant} : HourInFourDigits (z.hourNumber t) ↔
    (Date.ofDayNumber (z.dayNumber t)).InFourDigits := by
  rw [HourInFourDigits, z.hourNumber_ediv]

theorem hourName_eq_hourText (t : Instant) (z : Zone) :
    hourName t z = hourText (z.hourNumber t) := by
  have hhour : (z.hourNumber t % 24).toNat = (z.toLocal t).secondOfDay / 3600 := by
    unfold Zone.hourNumber Instant.secondOfDay secondsPerDay
    omega
  rw [hourText, z.hourNumber_ediv, hhour]
  rfl

theorem toList_hourText (n : ℤ) : (hourText n).toList =
    (dayText (n / 24)).toList ++ 'T' :: (paddedText 2 (n % 24).toNat).toList := by
  have hmark : "T".toList = ['T'] := rfl
  simp [hourText, hmark]

theorem hour_lt (n : ℤ) : (n % 24).toNat < 10 ^ 2 := by omega

theorem hourText_injective : Function.Injective hourText := by
  intro m n h
  have hl := congrArg String.toList h
  rw [toList_hourText, toList_hourText] at hl
  -- As with days, only the end has a fixed length.
  obtain ⟨hday, hhour⟩ := List.append_inj' hl (by
    rw [List.length_cons, List.length_cons, length_paddedText two_pos (hour_lt m),
      length_paddedText two_pos (hour_lt n)])
  have hday := dayText_injective (String.toList_inj.mp hday)
  have hhour := paddedText_injective (String.toList_inj.mp (List.cons.inj hhour).2)
  omega

theorem lt_of_hourText_lt {m n : ℤ} (hm : HourInFourDigits m) (hn : HourInFourDigits n)
    (h : hourText m < hourText n) : m < n := by
  have hlen : ∀ {k : ℤ}, HourInFourDigits k → (dayText (k / 24)).toList.length = 10 := fun hk =>
    Date.length_text hk (Date.month_ofDayNumber_lt _) (Date.day_ofDayNumber_lt _)
  rw [String.lt_iff, toList_hourText, toList_hourText] at h
  rcases append_lt_append ((hlen hm).trans (hlen hn).symm) h with hday | ⟨hday, h⟩
  · have hlt := (dayText_lt_iff hm hn).mp (String.lt_iff.mpr hday)
    omega
  have hday := dayText_injective (String.toList_inj.mp hday)
  rcases List.cons_lt_cons_iff.mp h with hc | ⟨-, h⟩
  · exact absurd hc (lt_irrefl _)
  have hlt := lt_of_paddedText_lt two_pos (hour_lt m) (hour_lt n) h
  omega

theorem hourText_lt_iff {m n : ℤ} (hm : HourInFourDigits m)
    (hn : (Date.ofDayNumber (n / 24)).year ≤ 9999) : hourText m < hourText n ↔ m < n := by
  by_cases hneg : (Date.ofDayNumber (n / 24)).year < 0
  · have hday : n / 24 < m / 24 := Date.year_mono.reflect_lt (hneg.trans_le hm.1)
    have hlt : hourText n < hourText m := by
      rw [hourText, hourText, String.append_assoc, String.append_assoc]
      exact Date.text_append_lt_of_negative hneg hm _ _
    exact iff_of_false hlt.asymm (by omega)
  · have hn : HourInFourDigits n := ⟨not_lt.mp hneg, hn⟩
    exact name_lt_iff (hourText_injective ·) (lt_of_hourText_lt hm hn) (lt_of_hourText_lt hn hm)

namespace Instant

instance : LE Instant :=
  ⟨fun s t => s.seconds < t.seconds ∨ s.seconds = t.seconds ∧ s.nanos ≤ t.nanos⟩

instance (s t : Instant) : Decidable (s ≤ t) := inferInstanceAs (Decidable (_ ∨ _))

variable {s t a b : Instant} {hours : ℕ}

/-- Going back from a leap second counts from the second after it. -/
theorem seconds_minusHours? (h : t.minusHours? hours = some a) (ht : t.nanos < 2 * nanosPerSecond) :
    a.seconds =
      (if 0 < hours ∧ nanosPerSecond ≤ t.nanos then t.seconds + 1 else t.seconds) - hours * 3600 := by
  have hnanos : nanosPerSecond = 1000000000 := rfl
  obtain ⟨-, h⟩ := Option.ite_none_right_eq_some.mp h
  obtain rfl := Option.some.inj h
  simp only [moved, hnanos] at ht ⊢
  split_ifs <;> dsimp only <;> omega

theorem seconds_minusHours?_le (h : t.minusHours? hours = some a)
    (ht : t.nanos < 2 * nanosPerSecond) : a.seconds ≤ t.seconds := by
  rw [seconds_minusHours? h ht]
  split_ifs <;> omega

theorem seconds_minusHours?_mono (hst : s ≤ t) (ha : s.minusHours? hours = some a)
    (hb : t.minusHours? hours = some b) (hs : s.nanos < 2 * nanosPerSecond)
    (ht : t.nanos < 2 * nanosPerSecond) : a.seconds ≤ b.seconds := by
  rw [seconds_minusHours? ha hs, seconds_minusHours? hb ht]
  rcases hst with hlt | ⟨heq, hle⟩ <;> split_ifs <;> omega

end Instant

theorem Zone.hourNumber_mono {z : Zone} (hz : z.IsFixed) {s t : Instant}
    (h : s.seconds ≤ t.seconds) : z.hourNumber s ≤ z.hourNumber t := by
  unfold hourNumber toLocal
  rw [offsetAt_of_isFixed hz, offsetAt_of_isFixed hz]
  dsimp only
  omega

end LaneQuota
