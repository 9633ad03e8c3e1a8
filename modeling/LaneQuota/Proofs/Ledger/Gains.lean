import LaneQuota.Proofs.Ledger.Charges
import LaneQuota.Proofs.Ledger.Outstanding

namespace LaneQuota

open Ledger

def Usage.counts (u : Usage) : ℕ × ℕ := (u.tokensIn.toNat, u.tokensOut.toNat)

def Fits (n : ℕ × ℕ) : Prop := n.1 < 2 ^ 64 ∧ n.2 < 2 ^ 64

instance (n : ℕ × ℕ) : Decidable (Fits n) := inferInstanceAs (Decidable (_ ∧ _))

theorem Fits.mono {m n : ℕ × ℕ} (h : Fits n) (hle : m ≤ n) : Fits m :=
  ⟨hle.1.trans_lt h.1, hle.2.trans_lt h.2⟩

theorem counts_of_isZero {u : Usage} (h : u.isZero = true) : u.counts = 0 := by
  simp only [Usage.isZero, Bool.and_eq_true, beq_iff_eq] at h
  simp [Usage.counts, h.1.1, h.1.2]

theorem counts_plus {u v : Usage} (h : Fits (u.counts + v.counts)) :
    (u.plus v).counts = u.counts + v.counts := by
  obtain ⟨hin, hout⟩ := h
  apply Prod.ext
  · exact Quantity.toNat_addTokens_of_lt hin
  · exact Quantity.toNat_addTokens_of_lt hout

def Adds (f : Bucket → Bucket) (n : ℕ × ℕ) : Prop :=
  ∀ b, (f b).day = b.day ∧ (Fits (b.used.counts + n) → (f b).used.counts = b.used.counts + n)

def Charge.counts : Charge → ℕ × ℕ
  | nothing => 0
  | spent usage => usage.counts
  | drift tokens => (0, tokens.toNat)

theorem Charge.adds (x : Charge) {f : Bucket → Bucket}
    (hf : ∀ b, (f b).day = b.day ∧ (f b).used = x.onto b.used) : Adds f x.counts := by
  intro b
  rw [(hf b).1, (hf b).2]
  refine ⟨rfl, fun h => ?_⟩
  cases x with
  | nothing => exact (add_zero _).symm
  | spent usage => exact counts_plus h
  | drift tokens => exact Prod.ext rfl (Quantity.toNat_addTokens_of_lt h.2)

namespace Cell

variable (c : Cell) (p : String → Prop) [DecidablePred p]

def buckets : List Bucket := c.history ++ c.bucket.toList

def usedOn : ℕ × ℕ := ((c.buckets.filter (fun b => p b.day)).map (fun b => b.used.counts)).sum

def recorded (day : String) : ℕ × ℕ := c.usedOn (fun d => d = day)

variable {p}

theorem usedOn_mk (b : Bucket) (bs : List Bucket) : (mk (some b) bs).usedOn p =
    (mk none bs).usedOn p + if p b.day then b.used.counts else 0 := by
  by_cases h : p b.day <;> simp [usedOn, buckets, h]

theorem usedOn_append (b : Bucket) (bs : List Bucket) : (mk none (bs ++ [b])).usedOn p =
    (mk (some b) bs).usedOn p := by
  simp [usedOn, buckets]

theorem usedOn_moved (w : Window) (now : Instant) : (c.moved w now).usedOn p = c.usedOn p := by
  have hfresh : (Bucket.fresh w now).used.counts = 0 := rfl
  obtain ⟨bucket, history⟩ := c
  cases bucket with
  | none => simp [moved, adjust, seen, archive, usedOn_mk, hfresh]
  | some b =>
    by_cases hd : b.day = w.day
    · simp [moved, adjust, seen, archive, hd]
    · by_cases hz : b.used.isZero = true
      · simp [moved, adjust, seen, archive, hd, hz, usedOn_mk, hfresh, counts_of_isZero hz]
      · simp [moved, adjust, seen, archive, hd, hz, usedOn_mk, usedOn_append, hfresh]

theorem usedOn_adjust {f : Bucket → Bucket} {n : ℕ × ℕ} (hf : Adds f n) {w : Window} (now : Instant)
    (hfit : Fits (c.usedOn p + if p w.day then n else 0)) :
    (c.adjust w now f).usedOn p = c.usedOn p + if p w.day then n else 0 := by
  obtain ⟨hday, hcount⟩ := hf (c.seen w now)
  rw [← c.usedOn_moved w now] at hfit ⊢
  simp only [moved, adjust, id_eq, usedOn_mk, hday, c.day_seen] at hfit ⊢
  split_ifs at hfit ⊢ with hp
  · rw [hcount (hfit.mono ?_), add_assoc]
    rw [add_assoc]
    exact le_add_self
  · rfl

def Gains (c : Cell) (w : Window) (now : Instant) (n : ℕ × ℕ) (c' : Cell) : Prop :=
  c' = c ∧ n = 0 ∨ ∃ f, Adds f n ∧ c' = c.adjust w now f

variable {c} {c' : Cell} {w : Window} {now : Instant} {n : ℕ × ℕ}

theorem Charged.gains {x : Charge} (h : c.Charged w now x c') : c.Gains w now x.counts c' := by
  rcases h with ⟨rfl, rfl⟩ | ⟨f, hf, rfl⟩
  · exact Or.inl ⟨rfl, rfl⟩
  · exact Or.inr ⟨f, x.adds hf, rfl⟩

theorem Gains.usedOn (h : c.Gains w now n c')
    (hfit : Fits (c.usedOn p + if p w.day then n else 0)) :
    c'.usedOn p = c.usedOn p + if p w.day then n else 0 := by
  rcases h with ⟨rfl, rfl⟩ | ⟨f, hf, rfl⟩
  · simp
  · exact c.usedOn_adjust hf now hfit

def Begun (c : Cell) : Prop := c.bucket = none → c.history = []

theorem Begun.eq_mk (h : c.Begun) (hb : c.bucket = none) : c = ⟨none, []⟩ := by
  have hh := h hb
  cases c
  simp_all

theorem Gains.begun (h : c.Gains w now n c') (hc : c.Begun) : c'.Begun := by
  rcases h with ⟨rfl, -⟩ | ⟨f, -, rfl⟩
  · exact hc
  · intro hb
    contradiction

end Cell

end LaneQuota
