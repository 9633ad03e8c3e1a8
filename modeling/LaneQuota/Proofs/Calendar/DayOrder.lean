import LaneQuota.Proofs.Calendar.Days

namespace LaneQuota

theorem toNat_bounds_of_isDigit {c : Char} (h : c.isDigit = true) :
    '0'.toNat ≤ c.toNat ∧ c.toNat ≤ '0'.toNat + 9 := by
  simp only [Char.isDigit, Bool.and_eq_true, decide_eq_true_eq, ge_iff_le,
    UInt32.le_iff_toNat_le] at h
  exact h

theorem ofDigitChars_lt_of_init_lt {l l' : List Char} (hlen : l.length = l'.length)
    (hl : ∀ c ∈ l, c.isDigit = true) {i j : ℕ} (h : i < j) :
    Nat.ofDigitChars 10 l i < Nat.ofDigitChars 10 l' j := by
  induction l generalizing l' i j with
  | nil =>
    rw [List.length_nil, eq_comm, List.length_eq_zero_iff] at hlen
    subst hlen
    exact h
  | cons c l ih =>
    cases l' with
    | nil => contradiction
    | cons c' l' =>
      have hc := toNat_bounds_of_isDigit (hl c List.mem_cons_self)
      rw [Nat.ofDigitChars_cons, Nat.ofDigitChars_cons]
      apply ih (Nat.succ.inj hlen) (fun d hd => hl d (List.mem_cons_of_mem c hd))
      omega

theorem ofDigitChars_lt_of_lt {l l' : List Char} (hlen : l.length = l'.length)
    (hl : ∀ c ∈ l, c.isDigit = true) (h : l < l') (i : ℕ) :
    Nat.ofDigitChars 10 l i < Nat.ofDigitChars 10 l' i := by
  induction l generalizing l' i with
  | nil =>
    rw [List.length_nil, eq_comm, List.length_eq_zero_iff] at hlen
    subst hlen
    exact absurd h (List.lt_irrefl [])
  | cons c l ih =>
    cases l' with
    | nil => contradiction
    | cons c' l' =>
      have hrest := fun d hd => hl d (List.mem_cons_of_mem c hd)
      rw [Nat.ofDigitChars_cons, Nat.ofDigitChars_cons]
      rcases List.cons_lt_cons_iff.mp h with hc | ⟨rfl, hlt⟩
      · apply ofDigitChars_lt_of_init_lt (Nat.succ.inj hlen) hrest
        have hd := toNat_bounds_of_isDigit (hl c List.mem_cons_self)
        have hlt : c.toNat < c'.toNat := UInt32.lt_iff_toNat_lt.mp hc
        omega
      · exact ih (Nat.succ.inj hlen) hrest hlt _

theorem lt_of_paddedText_lt {width m n : ℕ} (hw : 0 < width) (hm : m < 10 ^ width)
    (hn : n < 10 ^ width) (h : (paddedText width m).toList < (paddedText width n).toList) :
    m < n := by
  have hlt := ofDigitChars_lt_of_lt
    ((length_paddedText hw hm).trans (length_paddedText hw hn).symm)
    (fun c hc => isDigit_of_mem_paddedText hc) h 0
  rwa [ofDigitChars_paddedText, ofDigitChars_paddedText] at hlt

theorem append_lt_append {a b x y : List Char} (hlen : a.length = b.length)
    (h : a ++ x < b ++ y) : a < b ∨ a = b ∧ x < y := by
  induction a generalizing b with
  | nil =>
    rw [List.length_nil, eq_comm, List.length_eq_zero_iff] at hlen
    subst hlen
    exact Or.inr ⟨rfl, h⟩
  | cons c a ih =>
    cases b with
    | nil => contradiction
    | cons c' b =>
      rcases List.cons_lt_cons_iff.mp h with hc | ⟨rfl, hlt⟩
      · exact Or.inl (List.cons_lt_cons_iff.mpr (Or.inl hc))
      · rcases ih (Nat.succ.inj hlen) hlt with hab | ⟨rfl, hxy⟩
        · exact Or.inl (List.cons_lt_cons_iff.mpr (Or.inr ⟨rfl, hab⟩))
        · exact Or.inr ⟨rfl, hxy⟩

namespace Date

def rank (d : Date) : ℤ := d.year * 10000 + d.month * 100 + d.day

def InFourDigits (d : Date) : Prop := 0 ≤ d.year ∧ d.year ≤ 9999

instance (d : Date) : Decidable d.InFourDigits := inferInstanceAs (Decidable (_ ∧ _))

theorem rank_lt_of_text_lt {a b : Date} (ha : a.InFourDigits) (hb : b.InFourDigits)
    (ham : a.month < 100) (had : a.day < 100) (hbm : b.month < 100) (hbd : b.day < 100)
    (h : a.text < b.text) : a.rank < b.rank := by
  obtain ⟨ha0, ha1⟩ := ha
  obtain ⟨hb0, hb1⟩ := hb
  rw [String.lt_iff] at h
  simp only [text, monthText, yearText, ha0, ha1, hb0, hb1, and_self, if_true,
    String.toList_append, List.append_assoc] at h
  have hdash : "-".toList = ['-'] := rfl
  simp only [hdash, List.singleton_append] at h
  have hyear : a.year.toNat < 10 ^ 4 ∧ b.year.toNat < 10 ^ 4 := by omega
  have hlen : ∀ {m n : ℕ}, m < 10 ^ 2 → n < 10 ^ 2 →
      (paddedText 2 m).toList.length = (paddedText 2 n).toList.length := fun hm hn =>
    (length_paddedText two_pos hm).trans (length_paddedText two_pos hn).symm
  unfold rank
  -- The first part in which the texts differ decides.
  rcases append_lt_append ((length_paddedText four_pos hyear.1).trans
    (length_paddedText four_pos hyear.2).symm) h with hy | ⟨hy, h⟩
  · have hlt := lt_of_paddedText_lt four_pos hyear.1 hyear.2 hy
    omega
  have hyeq := paddedText_injective (String.toList_inj.mp hy)
  rcases List.cons_lt_cons_iff.mp h with hc | ⟨-, h⟩
  · exact absurd hc (lt_irrefl _)
  rcases append_lt_append (hlen ham hbm) h with hm | ⟨hm, h⟩
  · have hlt := lt_of_paddedText_lt two_pos ham hbm hm
    omega
  have hmeq := paddedText_injective (String.toList_inj.mp hm)
  rcases List.cons_lt_cons_iff.mp h with hc | ⟨-, h⟩
  · exact absurd hc (lt_irrefl _)
  have hlt := lt_of_paddedText_lt two_pos had hbd h
  omega

theorem exists_toList_text_of_negative {d : Date} (h : d.year < 0) :
    ∃ rest, d.text.toList = '-' :: rest := by
  have hminus : "-".toList = ['-'] := rfl
  simp [text, monthText, yearText, not_le.mpr h, h, hminus]

theorem exists_toList_text {d : Date} (h : d.InFourDigits) :
    ∃ c rest, c.isDigit = true ∧ d.text.toList = c :: rest := by
  obtain ⟨h0, h1⟩ := h
  have hlen := length_paddedText four_pos (by omega : d.year.toNat < 10 ^ 4)
  obtain ⟨c, rest, hc⟩ := List.exists_cons_of_length_eq_add_one hlen
  have hdigit : c.isDigit = true := isDigit_of_mem_paddedText (by rw [hc]; exact List.mem_cons_self)
  simp only [text, monthText, yearText, h0, h1, and_self, if_true, String.toList_append, hc,
    List.cons_append]
  exact ⟨c, _, hdigit, rfl⟩

theorem text_append_lt_of_negative {a b : Date} (ha : a.year < 0) (hb : b.InFourDigits)
    (x y : String) : a.text ++ x < b.text ++ y := by
  obtain ⟨rest, hrest⟩ := exists_toList_text_of_negative ha
  obtain ⟨c, rest', hc, hrest'⟩ := exists_toList_text hb
  have hzero : '-'.toNat < '0'.toNat := by decide
  rw [String.lt_iff, String.toList_append, String.toList_append, hrest, hrest', List.cons_append,
    List.cons_append]
  apply List.cons_lt_cons_iff.mpr (Or.inl _)
  rw [Char.lt_def, UInt32.lt_iff_toNat_lt]
  exact hzero.trans_le (toNat_bounds_of_isDigit hc).1

theorem length_text {d : Date} (h : d.InFourDigits) (hm : d.month < 100) (hd : d.day < 100) :
    d.text.toList.length = 10 := by
  obtain ⟨h0, h1⟩ := h
  have hdash : "-".toList = ['-'] := rfl
  simp [text, monthText, yearText, h0, h1, hdash,
    length_paddedText four_pos (by omega : d.year.toNat < 10 ^ 4), length_paddedText two_pos hm,
    length_paddedText two_pos hd]

/-- What a day adds to the rank of a year that begins in March. -/
def rankFromMarch (e : ℤ) : ℤ :=
  let month := (5 * e + 2) / 153
  (if month < 10 then (month + 3) * 100 else (month - 9) * 100 + 10000) +
    (e - (153 * month + 2) / 5 + 1)

theorem rankFromMarch_lt_succ {e : ℤ} (h0 : 0 ≤ e) (h1 : e < 365) :
    rankFromMarch e < rankFromMarch (e + 1) := by
  have hm : (5 * (e + 1) + 2) / 153 = (5 * e + 2) / 153 ∨
      (5 * (e + 1) + 2) / 153 = (5 * e + 2) / 153 + 1 := by omega
  have hm0 : 0 ≤ (5 * e + 2) / 153 ∧ (5 * e + 2) / 153 ≤ 11 := by omega
  unfold rankFromMarch
  dsimp only
  rcases hm with hm | hm <;> rw [hm] <;> split_ifs <;> omega

theorem rankFromMarch_lt_next {e e' : ℤ} (h : e = 364 ∨ e = 365) (h' : e' = 0 ∨ e' = 1) :
    rankFromMarch e < 10000 + rankFromMarch e' := by
  rcases h with rfl | rfl <;> rcases h' with rfl | rfl <;> decide

theorem yearOfEra_succ {d y y' : ℤ} (h0 : 0 ≤ d) (h1 : d < 146096)
    (hy : y = (d - d / 1460 + d / 36524 - d / 146096) / 365)
    (hy' : y' = (d + 1 - (d + 1) / 1460 + (d + 1) / 36524 - (d + 1) / 146096) / 365) :
    y' = y ∨ y' = y + 1 := by
  have hup : d - d / 1460 + d / 36524 - d / 146096 ≤
      d + 1 - (d + 1) / 1460 + (d + 1) / 36524 - (d + 1) / 146096 := by omega
  have hnear : d + 1 - (d + 1) / 1460 + (d + 1) / 36524 - (d + 1) / 146096 ≤
      d - d / 1460 + d / 36524 - d / 146096 + 2 := by omega
  generalize d - d / 1460 + d / 36524 - d / 146096 = q at *
  generalize d + 1 - (d + 1) / 1460 + (d + 1) / 36524 - (d + 1) / 146096 = q' at *
  omega

theorem leapDays_succ (y : ℤ) : (y + 1) / 4 - (y + 1) / 100 - (y / 4 - y / 100) = 0 ∨
    (y + 1) / 4 - (y + 1) / 100 - (y / 4 - y / 100) = 1 := by
  by_cases h : (y + 1) % 100 = 0
  · have h4 : (y + 1) % 4 = 0 := by omega
    omega
  · omega

theorem rank_ofDayNumber (n : ℤ) : ∃ era d y e : ℤ,
    n + 719468 = era * 146097 + d ∧ 0 ≤ d ∧ d ≤ 146096 ∧
      y = (d - d / 1460 + d / 36524 - d / 146096) / 365 ∧ e = d - (365 * y + y / 4 - y / 100) ∧
      (ofDayNumber n).rank = (era * 400 + y) * 10000 + rankFromMarch e := by
  obtain ⟨d, hd⟩ : ∃ d, d = n + 719468 - (n + 719468) / 146097 * 146097 := ⟨_, rfl⟩
  obtain ⟨y, hy⟩ : ∃ y, y = (d - d / 1460 + d / 36524 - d / 146096) / 365 := ⟨_, rfl⟩
  obtain ⟨-, -, hday0, hday1⟩ := yearOfEra_bounds (by omega) (by omega) hy
  obtain ⟨e, he⟩ : ∃ e, e = d - (365 * y + y / 4 - y / 100) := ⟨_, rfl⟩
  rw [← he] at hday0 hday1
  refine ⟨(n + 719468) / 146097, d, y, e, by omega, by omega, by omega, hy, he, ?_⟩
  simp only [ofDayNumber, rank, rankFromMarch, ← hd, ← hy, ← he]
  clear hy he
  split_ifs <;> omega

theorem rank_ofDayNumber_lt_succ (n : ℤ) : (ofDayNumber n).rank < (ofDayNumber (n + 1)).rank := by
  obtain ⟨era, d, y, e, hn, hd, hd', hy, he, hrank⟩ := rank_ofDayNumber n
  obtain ⟨era', d', y', e', hn', hd0, hd0', hy', he', hrank'⟩ := rank_ofDayNumber (n + 1)
  obtain ⟨-, -, he0, he1⟩ := yearOfEra_bounds hd hd' hy
  obtain ⟨-, -, he0', he1'⟩ := yearOfEra_bounds hd0 hd0' hy'
  rw [← he] at he0 he1
  rw [← he'] at he0' he1'
  rw [hrank, hrank']
  clear hrank hrank'
  have hera : era' = era ∧ d' = d + 1 ∨ era' = era + 1 ∧ d = 146096 ∧ d' = 0 := by
    clear hy hy' he he'
    omega
  clear hn hn'
  rcases hera with ⟨rfl, rfl⟩ | ⟨rfl, rfl, rfl⟩
  · have hyears := yearOfEra_succ hd (by omega) hy hy'
    clear hy hy'
    rcases hyears with rfl | rfl
    · have hsucc : e' = e + 1 := by rw [he, he']; ring
      clear he he'
      rw [hsucc]
      have hlt := rankFromMarch_lt_succ he0 (by omega)
      omega
    · -- A year that ends is at most one day longer than the least.
      obtain ⟨k, hk, hk01⟩ : ∃ k, (y + 1) / 4 - (y + 1) / 100 - (y / 4 - y / 100) = k ∧
          (k = 0 ∨ k = 1) := ⟨_, rfl, leapDays_succ y⟩
      have hgap : e' = e - 364 - k := by
        rw [he, he', ← hk]
        ring
      clear he he' hk
      have hends : (e = 364 ∨ e = 365) ∧ (e' = 0 ∨ e' = 1) := by omega
      have hlt := rankFromMarch_lt_next hends.1 hends.2
      omega
  · have hy399 : y = 399 := by rw [hy]; decide
    have hy0' : y' = 0 := by rw [hy']; decide
    subst hy399 hy0'
    have hends : (e = 364 ∨ e = 365) ∧ (e' = 0 ∨ e' = 1) := by omega
    have hlt := rankFromMarch_lt_next hends.1 hends.2
    omega

theorem rank_strictMono : StrictMono (fun n => (ofDayNumber n).rank) :=
  strictMono_int_of_lt_succ rank_ofDayNumber_lt_succ

theorem year_mono : Monotone (fun n => (ofDayNumber n).year) := by
  intro m n h
  have hrank : (ofDayNumber m).rank ≤ (ofDayNumber n).rank := rank_strictMono.monotone h
  have hmonth := month_ofDayNumber_lt n
  have hday := day_ofDayNumber_lt n
  unfold rank at hrank
  dsimp only
  omega

end Date

theorem name_lt_iff {name : ℤ → String} {m n : ℤ} (hinj : name m = name n → m = n)
    (hlt : name m < name n → m < n) (hgt : name n < name m → n < m) :
    name m < name n ↔ m < n := by
  refine ⟨hlt, fun h => ?_⟩
  rcases lt_trichotomy (name m) (name n) with hlt | heq | hgt'
  · exact hlt
  · exact absurd (hinj heq) h.ne
  · exact absurd (hgt hgt') h.not_gt

theorem dayText_lt_iff {m n : ℤ} (hm : (Date.ofDayNumber m).InFourDigits)
    (hn : (Date.ofDayNumber n).InFourDigits) : dayText m < dayText n ↔ m < n := by
  have hof : ∀ {a b : ℤ}, (Date.ofDayNumber a).InFourDigits → (Date.ofDayNumber b).InFourDigits →
      dayText a < dayText b → a < b := by
    intro a b ha hb h
    apply Date.rank_strictMono.lt_iff_lt.mp
    exact Date.rank_lt_of_text_lt ha hb (Date.month_ofDayNumber_lt a) (Date.day_ofDayNumber_lt a)
      (Date.month_ofDayNumber_lt b) (Date.day_ofDayNumber_lt b) h
  exact name_lt_iff dayText_injective (hof hm hn) (hof hn hm)

/-- Before the year zero the texts of days no longer sort like the days, but they still come before
all later ones. -/
theorem dayText_lt_iff_of_year_le {m n : ℤ} (hm : (Date.ofDayNumber m).year ≤ 9999)
    (hn : (Date.ofDayNumber n).InFourDigits) : dayText m < dayText n ↔ m < n := by
  by_cases hneg : (Date.ofDayNumber m).year < 0
  · refine iff_of_true ?_ (Date.year_mono.reflect_lt (hneg.trans_le hn.1))
    have h := Date.text_append_lt_of_negative hneg hn "" ""
    rwa [String.append_empty, String.append_empty] at h
  · exact dayText_lt_iff ⟨not_lt.mp hneg, hm⟩ hn

end LaneQuota
