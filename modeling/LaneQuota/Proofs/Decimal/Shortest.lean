import LaneQuota.Decimal.Shortest
import Mathlib

namespace LaneQuota.Shortest

theorem fraction_neg (a j : ℕ) : Binary.fraction a (-(j : ℤ)) = (a, 2 ^ j) := by
  cases j with
  | zero => simp [Binary.fraction]
  | succ i =>
    change Binary.fraction a (.negSucc i) = _
    rw [Binary.fraction, Nat.shiftLeft_eq, Nat.one_mul]

theorem compareScaled_natCast (c k num den : ℕ) :
    compareScaled c (k : ℤ) num den = compare (c * 10 ^ k * den) num := rfl

section Whole

variable {n j c k : ℕ}

theorem interval_whole (n j : ℕ) : ∃ below, 1 ≤ below ∧ below ≤ 2 ∧ interval (n * 2 ^ j) (-(j : ℤ)) =
    ⟨n * (4 * 2 ^ j) - below, n * (4 * 2 ^ j), n * (4 * 2 ^ j) + 2, 4 * 2 ^ j,
      n * 2 ^ j % 2 = 0⟩ := by
  refine ⟨if n * 2 ^ j = Binary.leastNormal ∧ -1074 < -(j : ℤ) then 1 else 2, ?_, ?_, ?_⟩
  · split_ifs <;> omega
  · split_ifs <;> omega
  · have hmul : 4 * (n * 2 ^ j) = n * (4 * 2 ^ j) := by ring
    simp only [interval, fraction_neg, hmul]

theorem eq_of_holds (h : (interval (n * 2 ^ j) (-(j : ℤ))).holds c k = true) : c * 10 ^ k = n := by
  obtain ⟨below, hleast, hmost, hi⟩ := interval_whole n j
  have hpos : 0 < 2 ^ j := by positivity
  rw [hi] at h
  simp only [Interval.holds, compareScaled_natCast] at h
  generalize c * 10 ^ k = v at *
  have hlow : n * (4 * 2 ^ j) - 2 ≤ v * (4 * 2 ^ j) ∧ v * (4 * 2 ^ j) ≤ n * (4 * 2 ^ j) + 2 := by
    split_ifs at h
    · simp only [Bool.and_eq_true, bne_iff_ne, ne_eq, compare_lt_iff_lt, compare_gt_iff_gt] at h
      omega
    · simp only [Bool.and_eq_true, beq_iff_eq, compare_lt_iff_lt, compare_gt_iff_gt] at h
      omega
  -- Whole numbers are four units apart on this scale, and the interval reaches out by two.
  generalize 2 ^ j = p at *
  rcases lt_trichotomy v n with hlt | heq | hlt
  · have hle := Nat.mul_le_mul_right (4 * p) (Nat.succ_le_of_lt hlt)
    rw [Nat.succ_mul] at hle
    omega
  · exact heq
  · have hle := Nat.mul_le_mul_right (4 * p) (Nat.succ_le_of_lt hlt)
    rw [Nat.succ_mul] at hle
    omega

theorem holds_whole (hn : 0 < n) (j : ℕ) :
    (interval (n * 2 ^ j) (-(j : ℤ))).holds n (0 : ℕ) = true := by
  obtain ⟨below, hleast, hmost, hi⟩ := interval_whole n j
  have hpos : 0 < n * (4 * 2 ^ j) := by positivity
  rw [hi]
  simp only [Interval.holds, compareScaled_natCast, pow_zero, Nat.mul_one]
  split_ifs
  · simp only [Bool.and_eq_true, bne_iff_ne, ne_eq, compare_lt_iff_lt, compare_gt_iff_gt]
    omega
  · simp only [Bool.and_eq_true, beq_iff_eq, compare_lt_iff_lt, compare_gt_iff_gt]
    omega

theorem pow_estimate_le {b : ℕ} (h : b ≤ 52) : 10 ^ (b * 30103 / 100000) ≤ 2 ^ b := by
  have hall : ∀ b ∈ List.range 53, 10 ^ (b * 30103 / 100000) ≤ 2 ^ b := by decide
  exact hall b (List.mem_range.mpr (by omega))

theorem log2_mul_pow (hn : 0 < n) (j : ℕ) :
    (n * (4 * 2 ^ j)).log2 = n.log2 + (4 * 2 ^ j).log2 := by
  have hfour : 4 * 2 ^ j = 2 ^ (j + 2) := by
    rw [pow_add]
    ring
  rw [hfour, Nat.log2_two_pow, Nat.log2_eq_iff (by positivity)]
  have hle := Nat.log2_self_le (by omega : n ≠ 0)
  have hlt := Nat.lt_log2_self (n := n)
  rw [show n.log2 + (j + 2) + 1 = n.log2 + 1 + (j + 2) by ring, pow_add, pow_add 2 (n.log2 + 1)]
  exact ⟨Nat.mul_le_mul_right _ hle, Nat.mul_lt_mul_of_pos_right hlt (by positivity)⟩

theorem exponentOfTen_whole (hn : 0 < n) (hlt : n < 2 ^ 53) (j : ℕ) :
    ∃ e : ℕ, e ≤ 15 ∧ exponentOfTen (n * (4 * 2 ^ j)) (4 * 2 ^ j) = e := by
  have hreaches : ∀ e : ℕ, (compareScaled 1 e (n * (4 * 2 ^ j)) (4 * 2 ^ j) != .gt) = true ↔
      10 ^ e ≤ n := by
    intro e
    rw [compareScaled_natCast, bne_iff_ne, ne_eq, compare_gt_iff_gt, not_lt, Nat.one_mul,
      Nat.mul_le_mul_right_iff (by positivity)]
  have hten : ∀ e : ℕ, 10 ^ e ≤ n → e ≤ 15 := by
    intro e he
    by_contra hbig
    have hle : 10 ^ 16 ≤ 10 ^ e := Nat.pow_le_pow_right (by norm_num) (by omega)
    omega
  have hlog : n.log2 ≤ 52 := by
    have := (Nat.log2_lt (by omega)).mpr hlt
    omega
  have hbase := (hreaches (n.log2 * 30103 / 100000)).mpr
    ((pow_estimate_le hlog).trans (Nat.log2_self_le (by omega)))
  have hestimate : (((n * (4 * 2 ^ j)).log2 : ℤ) - (4 * 2 ^ j).log2) * 30103 / 100000 =
      (n.log2 * 30103 / 100000 : ℕ) := by
    rw [log2_mul_pow hn]
    push_cast
    omega
  generalize n.log2 * 30103 / 100000 = q at *
  unfold exponentOfTen
  rw [hestimate]
  dsimp only
  split_ifs with htwo hone
  · exact ⟨q + 2, hten _ ((hreaches (q + 2)).mp htwo), rfl⟩
  · exact ⟨q + 1, hten _ ((hreaches (q + 1)).mp hone), rfl⟩
  · exact ⟨q, hten _ ((hreaches q).mp hbase), rfl⟩

theorem eq_of_withDigits? {e count : ℕ} {d : Decimal} (hcount : count ≤ e + 1)
    (h : (interval (n * 2 ^ j) (-(j : ℤ))).withDigits? e count = some d) :
    ∃ c k : ℕ, d = ⟨c, k⟩ ∧ c * 10 ^ k = n := by
  obtain ⟨k, hk⟩ : ∃ k : ℕ, (e : ℤ) - count + 1 = k := ⟨e + 1 - count, by omega⟩
  unfold Interval.withDigits? at h
  rw [hk] at h
  dsimp only at h
  split at h
  · next hlow hhigh =>
    obtain rfl := Option.some.inj h
    split_ifs
    · exact ⟨_, k, rfl, eq_of_holds hhigh⟩
    · exact ⟨_, k, rfl, eq_of_holds hlow⟩
  · next hlow _ =>
    obtain rfl := Option.some.inj h
    exact ⟨_, k, rfl, eq_of_holds hlow⟩
  · next _ hhigh =>
    obtain rfl := Option.some.inj h
    exact ⟨_, k, rfl, eq_of_holds hhigh⟩
  · contradiction

theorem isSome_withDigits? (hn : 0 < n) (e : ℕ) :
    ((interval (n * 2 ^ j) (-(j : ℤ))).withDigits? e (e + 1)).isSome = true := by
  have hk : (e : ℤ) - (e + 1 : ℕ) + 1 = (0 : ℕ) := by
    push_cast
    ring
  obtain ⟨below, -, -, hi⟩ := interval_whole n j
  have hfloor : floorScaled (0 : ℕ) (interval (n * 2 ^ j) (-(j : ℤ))).value
      (interval (n * 2 ^ j) (-(j : ℤ))).den = n := by
    rw [hi]
    change n * (4 * 2 ^ j) / (4 * 2 ^ j * 10 ^ 0) = n
    rw [pow_zero, Nat.mul_one, Nat.mul_div_cancel _ (by positivity)]
  unfold Interval.withDigits?
  rw [hk]
  dsimp only
  rw [hfloor, holds_whole hn]
  split <;> simp_all

theorem exists_findSome?_eq {α : Type} {f : ℕ → Option α} {l : List ℕ} {i : ℕ}
    (hl : l.Pairwise (· < ·)) (hi : i ∈ l) (hf : (f i).isSome = true) :
    ∃ a ≤ i, ∃ d, f a = some d ∧ l.findSome? f = some d := by
  induction l with
  | nil => contradiction
  | cons a l ih =>
    obtain ⟨hlt, hrest⟩ := List.pairwise_cons.mp hl
    rw [List.findSome?_cons]
    cases ha : f a with
    | some d =>
      refine ⟨a, ?_, d, ha, rfl⟩
      rcases List.mem_cons.mp hi with rfl | hi
      · exact le_rfl
      · exact (hlt i hi).le
    | none =>
      rcases List.mem_cons.mp hi with rfl | hi
      · rw [ha] at hf
        contradiction
      · exact ih hrest hi

theorem dropZeros_natCast (fuel c k : ℕ) :
    ∃ c' k' : ℕ, dropZeros fuel ⟨c, k⟩ = ⟨c', k'⟩ ∧ c' * 10 ^ k' = c * 10 ^ k := by
  induction fuel generalizing c k with
  | zero => exact ⟨c, k, rfl, rfl⟩
  | succ fuel ih =>
    unfold dropZeros
    dsimp only
    split_ifs with h
    · obtain ⟨c', k', heq, hval⟩ := ih (c / 10) (k + 1)
      refine ⟨c', k', heq, hval.trans ?_⟩
      rw [pow_succ, Nat.mul_comm (10 ^ k), ← Nat.mul_assoc, Nat.div_mul_cancel (Nat.dvd_of_mod_eq_zero h.2)]
    · exact ⟨c, k, rfl, rfl⟩

theorem decimal_whole (hn : 0 < n) (hlt : n < 2 ^ 53) (j : ℕ) :
    ∃ c k : ℕ, decimal (n * 2 ^ j) (-(j : ℤ)) = ⟨c, k⟩ ∧ c * 10 ^ k = n := by
  obtain ⟨e, he, hexp⟩ := exponentOfTen_whole hn hlt j
  obtain ⟨below, -, -, hi⟩ := interval_whole n j
  have hvalue : exponentOfTen (interval (n * 2 ^ j) (-(j : ℤ))).value
      (interval (n * 2 ^ j) (-(j : ℤ))).den = e := by rw [hi, hexp]
  have hmem : e + 1 ∈ (List.range 17).map (· + 1) :=
    List.mem_map_of_mem (List.mem_range.mpr (by omega))
  have hsorted : ((List.range 17).map (· + 1)).Pairwise (· < ·) := by decide
  obtain ⟨count, hcount, d, hd, hfind⟩ :=
    exists_findSome?_eq hsorted hmem (isSome_withDigits? (j := j) hn e)
  obtain ⟨c, k, rfl, hval⟩ := eq_of_withDigits? hcount hd
  obtain ⟨c', k', hdrop, hval'⟩ := dropZeros_natCast 18 c k
  refine ⟨c', k', ?_, hval'.trans hval⟩
  unfold decimal
  dsimp only
  rw [hvalue, hfind]
  exact hdrop

end Whole

end LaneQuota.Shortest
