import LaneQuota.Proofs.Calendar.Days
import LaneQuota.Proofs.Ledger.Outstanding

/-!
# Buckets hold what is outstanding

A bucket is balanced on a day if what is reserved in it is the sum of the estimates that were
reserved on that day and are still outstanding. Older reservations stay outstanding, but what they
held went with the bucket of their day.
-/

namespace LaneQuota

/-- The bucket of day `n` against the reservations that count for its cell. -/
structure Balanced (q : Quantity) (b : Bucket) (rs : List Reservation) (n : ℤ) : Prop where
  day : b.day = dayText n
  past : ∀ r ∈ rs, ∃ m ≤ n, r.day = dayText m
  fits : ∀ r ∈ rs, q.Fits r.estimate
  reserved_fits : q.Fits b.reserved
  reserved : q.amount b.reserved = q.total (onDay rs b.day)

namespace Balanced

variable {q : Quantity} {b b' : Bucket} {r : Reservation} {rs rs' : List Reservation} {n : ℤ}

theorem congr (h : Balanced q b rs n) (hday : b'.day = b.day) (hres : b'.reserved = b.reserved) :
    Balanced q b' rs n := by
  obtain ⟨h1, h2, h3, h4, h5⟩ := h
  exact ⟨hday.trans h1, h2, h3, hres ▸ h4, by rw [hres, hday, h5]⟩

theorem perm (h : Balanced q b rs n) (hp : rs.Perm rs') : Balanced q b rs' n := by
  obtain ⟨h1, h2, h3, h4, h5⟩ := h
  refine ⟨h1, fun r hr => h2 r (hp.mem_iff.mpr hr), fun r hr => h3 r (hp.mem_iff.mpr hr), h4, ?_⟩
  rw [h5]
  exact q.total_perm (onDay_perm hp b.day)

theorem fresh {w : Window} (now : Instant) (hw : w.day = dayText n)
    (hpast : ∀ r ∈ rs, ∃ m < n, r.day = dayText m) (hfits : ∀ r ∈ rs, q.Fits r.estimate) :
    Balanced q (Bucket.fresh w now) rs n := by
  refine ⟨hw, ?_, hfits, q.fits_zero, ?_⟩
  · intro r hr
    obtain ⟨m, hm, hd⟩ := hpast r hr
    exact ⟨m, hm.le, hd⟩
  · have hnone : onDay rs w.day = [] := by
      rw [onDay, List.filter_eq_nil_iff]
      intro r hr
      obtain ⟨m, hm, hd⟩ := hpast r hr
      have hne : dayText m ≠ dayText n := fun h => absurd (dayText_injective h) (by omega)
      simpa [hd, hw] using hne
    change q.amount Usage.zero = q.total (onDay rs w.day)
    rw [hnone, q.amount_zero]
    rfl

theorem withHold (h : Balanced q b rs n) (now : Instant) (hday : r.day = dayText n)
    (hfits : q.Fits r.estimate)
    (hroom : q.total (onDay rs (dayText n)) + q.amount r.estimate < q.bound) :
    Balanced q (b.withHold r.estimate now) (r :: rs) n := by
  obtain ⟨h1, h2, h3, h4, h5⟩ := h
  rw [← h1, ← h5] at hroom
  refine ⟨h1, ?_, ?_, q.fits_plus h4 hfits hroom, ?_⟩
  · intro s hs
    rcases List.mem_cons.mp hs with rfl | hs
    · exact ⟨n, le_rfl, hday⟩
    · exact h2 s hs
  · intro s hs
    rcases List.mem_cons.mp hs with rfl | hs
    · exact hfits
    · exact h3 s hs
  · change q.amount (b.reserved.plus r.estimate) = q.total (onDay (r :: rs) b.day)
    rw [onDay_cons_of_eq (hday.trans h1.symm), q.total_cons, q.amount_plus h4 hfits hroom, h5,
      Nat.add_comm]

theorem amount_le (h : Balanced q b (r :: rs) n) (hd : r.day = b.day) :
    q.amount r.estimate ≤ q.amount b.reserved := by
  rw [h.reserved, onDay_cons_of_eq hd, q.total_cons]
  exact Nat.le_add_right _ _

theorem withoutHold (h : Balanced q b (r :: rs) n) (now : Instant) :
    Balanced q (b.withoutHold r now) rs n := by
  have hpast := fun s hs => h.past s (List.mem_cons_of_mem r hs)
  have hfits := fun s hs => h.fits s (List.mem_cons_of_mem r hs)
  have hsum := h.reserved
  -- The bucket holds the whole estimate if it is of the same day, and nothing of it otherwise.
  by_cases hd : r.day = b.day
  · have hle := h.amount_le hd
    have hr := h.fits r List.mem_cons_self
    have hres : (b.withoutHold r now).reserved = b.reserved.minus r.estimate := if_pos hd.symm
    rw [onDay_cons_of_eq hd, q.total_cons] at hsum
    refine ⟨h.day, hpast, hfits, ?_, ?_⟩
    · rw [hres]
      exact q.fits_minus h.reserved_fits hr hle
    · rw [hres, q.amount_minus h.reserved_fits hr hle]
      change _ = q.total (onDay rs b.day)
      omega
  · rw [onDay_cons_of_ne hd] at hsum
    have hb : Balanced q b rs n := ⟨h.day, hpast, hfits, h.reserved_fits, hsum⟩
    exact hb.congr rfl (if_neg (Ne.symm hd))

end Balanced

def Kept (q : Quantity) (c : Cell) (rs : List Reservation) (n : ℤ) : Prop :=
  match c.bucket with
  | none => rs = []
  | some b => ∃ m ≤ n, Balanced q b rs m

section Kept

variable {q : Quantity} {c : Cell} {rs rs' : List Reservation} {m n : ℤ} {w : Window}

theorem Balanced.kept {b : Bucket} (h : Balanced q b rs n) (bs : List Bucket) :
    Kept q ⟨some b, bs⟩ rs n := ⟨n, le_rfl, h⟩

theorem Kept.mono (h : Kept q c rs m) (hmn : m ≤ n) : Kept q c rs n := by
  unfold Kept at *
  cases hb : c.bucket with
  | none => simpa [hb] using h
  | some b =>
    rw [hb] at h
    obtain ⟨k, hk, hbal⟩ := h
    exact ⟨k, hk.trans hmn, hbal⟩

theorem Kept.perm (h : Kept q c rs n) (hp : rs.Perm rs') : Kept q c rs' n := by
  unfold Kept at *
  cases hb : c.bucket with
  | none =>
    rw [hb] at h
    subst h
    exact hp.nil_eq.symm
  | some b =>
    rw [hb] at h
    obtain ⟨k, hk, hbal⟩ := h
    exact ⟨k, hk, hbal.perm hp⟩

theorem Kept.seen (h : Kept q c rs m) (hmn : m ≤ n) (hw : w.day = dayText n) (now : Instant) :
    Balanced q (c.seen w now) rs n := by
  unfold Kept at h
  unfold Cell.seen
  cases hb : c.bucket with
  | none =>
    rw [hb] at h
    subst h
    exact Balanced.fresh now hw (by simp) (by simp)
  | some b =>
    rw [hb] at h
    obtain ⟨k, hk, hbal⟩ := h
    dsimp only
    split_ifs with hd
    · obtain rfl : k = n := dayText_injective (by rw [← hbal.day, hd, hw])
      exact hbal
    · -- The old bucket is of an earlier day, and so is all that was reserved until now.
      have hlt : k < n := by
        rcases (hk.trans hmn).lt_or_eq with hlt | rfl
        · exact hlt
        · exact absurd (hbal.day.trans hw.symm) hd
      refine Balanced.fresh now hw (fun r hr => ?_) hbal.fits
      obtain ⟨j, hj, hday⟩ := hbal.past r hr
      exact ⟨j, by omega, hday⟩

end Kept

end LaneQuota
