import LaneQuota.Proofs.Ledger.Books
import LaneQuota.Proofs.Ledger.Costs

/-!
# Accounts of cost

The accounts of a cell compare all that was spent there, and what is reserved in the live bucket,
with a limit. What is spent in place of a reservation of an earlier day has no hold any more: it is
carried over and comes on top.
-/

namespace LaneQuota

open Double Ledger

def Covers (v : EReal) (cost : ℕ) : Prop := ((cost : ℝ) : EReal) ≤ v

theorem Covers.mono {v : EReal} {m n : ℕ} (h : Covers v n) (hmn : m ≤ n) : Covers v m := by
  have hle : ((m : ℝ) : EReal) ≤ (n : ℝ) := by exact_mod_cast hmn
  exact hle.trans h

theorem Covers.le_add {v : EReal} {m n : ℕ} (h : Covers v (m - n)) :
    ((m : ℝ) : EReal) ≤ v + ((n : ℝ) : EReal) := by
  have hreal : (m : ℝ) ≤ (m - n : ℕ) + n := by exact_mod_cast (by omega : m ≤ m - n + n)
  have hle : ((m : ℝ) : EReal) ≤ ((m - n : ℕ) : ℝ) + ((n : ℝ) : EReal) := by exact_mod_cast hreal
  exact hle.trans (add_le_add_left h _)

structure Accounted (v : EReal) (carried budget : ℕ) (bs : List Bucket) (b : Bucket)
    (rs : List Reservation) : Prop where
  archived : ∀ a ∈ bs, IsWhole a.used.cost
  live : IsWhole b.used.cost
  spent : Quantity.cost.used bs + whole b.used.cost + Quantity.cost.total rs ≤ budget
  covered : Covers v
    (Quantity.cost.used bs + whole b.used.cost + whole b.reserved.cost - carried)

def Bucket.blank : Bucket := Bucket.fresh ⟨"", ""⟩ ⟨0, 0⟩

def Cell.Accounted (c : Cell) (v : EReal) (carried budget : ℕ) (rs : List Reservation) : Prop :=
  LaneQuota.Accounted v carried budget c.history (c.bucket.getD Bucket.blank) rs

theorem isWhole_zero : IsWhole Usage.zero.cost := Quantity.cost.fits_zero

theorem whole_zero : whole Usage.zero.cost = 0 := Quantity.cost.amount_zero

theorem whole_of_isZero {u : Usage} (hu : IsWhole u.cost) (h : u.isZero = true) :
    whole u.cost = 0 := by
  have hle : u.cost ≤ 0.0 := by
    simp only [Usage.isZero, Bool.and_eq_true, decide_eq_true_iff] at h
    exact h.2
  have h0 := (hu.denotes.le_iff denotes_zero).mp hle
  have hreal : ((whole u.cost : ℕ) : ℝ) ≤ 0 := by exact_mod_cast h0
  have hnat : whole u.cost ≤ 0 := by exact_mod_cast hreal
  omega

theorem used_append (bs : List Bucket) (b : Bucket) :
    Quantity.cost.used (bs ++ [b]) = Quantity.cost.used bs + whole b.used.cost := by
  simp [Quantity.used, Quantity.cost]

namespace Cell.Accounted

variable {c : Cell} {v : EReal} {carried budget : ℕ} {rs rs' : List Reservation}

theorem mono (h : c.Accounted v carried budget rs) {carried' budget' : ℕ} (hc : carried ≤ carried')
    (hb : budget ≤ budget') : c.Accounted v carried' budget' rs :=
  ⟨h.archived, h.live, h.spent.trans hb, h.covered.mono (by omega)⟩

theorem perm (h : c.Accounted v carried budget rs) (hp : rs.Perm rs') :
    c.Accounted v carried budget rs' :=
  ⟨h.archived, h.live, by rw [← Quantity.total_perm _ hp]; exact h.spent, h.covered⟩

theorem seen (h : c.Accounted v carried budget rs) (w : Window) (now : Instant) :
    LaneQuota.Accounted v carried budget (c.archive w) (c.seen w now) rs := by
  obtain ⟨harch, hlive, hspent, hcov⟩ := h
  unfold Cell.archive Cell.seen
  cases hb : c.bucket with
  | none =>
    rw [hb] at hlive hspent hcov
    exact ⟨harch, hlive, hspent, hcov⟩
  | some b =>
    rw [hb] at hlive hspent hcov
    rw [Option.getD_some] at hlive hspent hcov
    dsimp only
    by_cases hd : b.day = w.day
    · rw [if_pos (Or.inl hd), if_pos hd]
      exact ⟨harch, hlive, hspent, hcov⟩
    · -- At midnight the used part moves to the archive and what was reserved is dropped.
      rw [if_neg hd]
      have hused : (Bucket.fresh w now).used = Usage.zero := rfl
      have hres : (Bucket.fresh w now).reserved = Usage.zero := rfl
      by_cases hz : b.used.isZero = true
      · have h0 := whole_of_isZero hlive hz
        rw [if_pos (Or.inr hz)]
        refine ⟨harch, isWhole_zero, ?_, hcov.mono ?_⟩
        · rw [hused, whole_zero]
          omega
        · rw [hused, hres, whole_zero]
          omega
      · rw [if_neg (by simp [hd, hz])]
        refine ⟨?_, isWhole_zero, ?_, hcov.mono ?_⟩
        · intro a ha
          rcases List.mem_append.mp ha with ha | ha
          · exact harch a ha
          · rwa [List.mem_singleton.mp ha]
        · rw [used_append, hused, whole_zero]
          omega
        · rw [used_append, hused, hres, whole_zero]
          omega

end Cell.Accounted

namespace Accounted

variable {v : EReal} {carried budget : ℕ} {bs : List Bucket} {b : Bucket} {r : Reservation}
  {rs : List Reservation} {n : ℤ} {now : Instant}

theorem cell (h : Accounted v carried budget bs b rs) :
    Cell.Accounted ⟨some b, bs⟩ v carried budget rs := h

theorem onDay_le (rs : List Reservation) (day : String) :
    Quantity.cost.total (onDay rs day) ≤ Quantity.cost.total rs := by
  exact (List.filter_sublist.map _).sum_le_sum (fun _ _ => Nat.zero_le _)

theorem reserved_le (h : Balanced .cost b rs n) : whole b.reserved.cost ≤ Quantity.cost.total rs := by
  have hres : whole b.reserved.cost = Quantity.cost.total (onDay rs b.day) := h.reserved
  rw [hres]
  exact onDay_le rs b.day

theorem withHold (h : Accounted v carried budget bs b rs) (hbal : Balanced .cost b rs n)
    (hr : IsWhole r.estimate.cost)
    (hcov : Covers v (Quantity.cost.used bs + whole b.used.cost + whole b.reserved.cost +
      whole r.estimate.cost))
    (hlt : budget + whole r.estimate.cost < 2 ^ 53) :
    Accounted v carried (budget + whole r.estimate.cost) bs (b.withHold r.estimate now) (r :: rs) := by
  obtain ⟨harch, hlive, hspent, -⟩ := h
  have hle := reserved_le hbal
  have hplus : whole (b.reserved.plus r.estimate).cost =
      whole b.reserved.cost + whole r.estimate.cost :=
    Quantity.cost.amount_plus hbal.reserved_fits hr (by
      change whole b.reserved.cost + whole r.estimate.cost < 2 ^ 53
      omega)
  have hcons : Quantity.cost.total (r :: rs) = whole r.estimate.cost + Quantity.cost.total rs := rfl
  refine ⟨harch, hlive, ?_, hcov.mono ?_⟩
  · rw [hcons]
    change Quantity.cost.used bs + whole b.used.cost + _ ≤ _
    omega
  · change Quantity.cost.used bs + whole b.used.cost + whole (b.reserved.plus r.estimate).cost -
      carried ≤ _
    rw [hplus]
    omega

theorem whole_withoutHold (now : Instant) (hbal : Balanced .cost b (r :: rs) n) :
    whole (b.withoutHold r now).reserved.cost =
      if r.day = b.day then whole b.reserved.cost - whole r.estimate.cost
      else whole b.reserved.cost := by
  by_cases hd : r.day = b.day
  · rw [if_pos hd, Bucket.withoutHold, if_pos hd.symm]
    exact Quantity.cost.amount_minus hbal.reserved_fits (hbal.fits r List.mem_cons_self)
      (hbal.amount_le hd)
  · rw [if_neg hd, Bucket.withoutHold, if_neg (Ne.symm hd)]

theorem withoutHold (h : Accounted v carried budget bs b (r :: rs)) (now : Instant)
    (hbal : Balanced .cost b (r :: rs) n) :
    Accounted v carried budget bs (b.withoutHold r now) rs := by
  obtain ⟨harch, hlive, hspent, hcov⟩ := h
  have hcons : Quantity.cost.total (r :: rs) = whole r.estimate.cost + Quantity.cost.total rs := rfl
  refine ⟨harch, hlive, ?_, hcov.mono ?_⟩
  · change Quantity.cost.used bs + whole b.used.cost + _ ≤ _
    omega
  · rw [whole_withoutHold now hbal]
    change Quantity.cost.used bs + whole b.used.cost + _ - _ ≤ _
    split_ifs <;> omega

theorem settle (h : Accounted v carried budget bs b (r :: rs)) (now : Instant)
    (hbal : Balanced .cost b (r :: rs) n) {actual : Usage} (hactual : IsWhole actual.cost)
    (hle : whole actual.cost ≤ whole r.estimate.cost) (hlt : budget < 2 ^ 53)
    (limits : Option Limits) (cost : Float) :
    Accounted v (carried + if r.day = b.day then 0 else whole actual.cost) budget bs
      (latchedUnder limits cost ((b.withoutHold r now).withUse actual now)) rs := by
  obtain ⟨harch, hlive, hspent, hcov⟩ := h
  have hcons : Quantity.cost.total (r :: rs) = whole r.estimate.cost + Quantity.cost.total rs := rfl
  have hres := whole_withoutHold now hbal
  have hroom : Quantity.cost.amount b.used + Quantity.cost.amount actual < Quantity.cost.bound := by
    change whole b.used.cost + whole actual.cost < 2 ^ 53
    omega
  have huse : whole (b.used.plus actual).cost = whole b.used.cost + whole actual.cost :=
    Quantity.cost.amount_plus hlive hactual hroom
  refine ⟨harch, ?_, ?_, hcov.mono ?_⟩
  · rw [used_latchedUnder]
    exact Quantity.cost.fits_plus hlive hactual hroom
  · rw [used_latchedUnder]
    change Quantity.cost.used bs + whole (b.used.plus actual).cost + _ ≤ _
    omega
  · rw [used_latchedUnder, reserved_latchedUnder]
    change Quantity.cost.used bs + whole (b.used.plus actual).cost +
      whole (b.withoutHold r now).reserved.cost - _ ≤ _
    rw [hres, huse]
    by_cases hd : r.day = b.day
    · have hheld : whole r.estimate.cost ≤ whole b.reserved.cost := hbal.amount_le hd
      rw [if_pos hd, if_pos hd]
      omega
    · rw [if_neg hd, if_neg hd]
      omega

end Accounted

/-- What is spent in a cell in place of a reservation that was made on another day. -/
noncomputable def Reservation.carried (r : Reservation) (w : Window) (usage : Usage)
    (scope : Scope) (key : String) : ℕ :=
  if r.countsFor scope key ∧ r.day ≠ w.day then whole usage.cost else 0

def LedgerState.Accounted (s : LedgerState) (rs : SortedMap Reservation) (key : String)
    (v : EReal) (carried : Scope → ℕ) (budget : ℕ) : Prop :=
  ∀ scope, (s.cell scope key).Accounted v (carried scope) budget (outstanding rs scope key)

namespace LedgerState.Accounted

variable {s s' : LedgerState} {rs : SortedMap Reservation} {key : String} {v : EReal}
  {carried : Scope → ℕ} {budget : ℕ} {m n : ℤ} {w : Window} {now : Instant} {id : String}
  {r : Reservation}

theorem looked (h : s.Accounted rs key v carried budget) (hs : Looked w now s s') :
    s'.Accounted rs key v carried budget := by
  intro scope
  rcases hs.cell scope key with hc | hc <;> rw [hc]
  · exact h scope
  · exact (h scope).seen w now

theorem hold (h : s.Accounted rs key v carried budget) (hbooks : Books .cost key s rs m)
    (hmn : m ≤ n) (hw : w.day = dayText n) (hid : rs.get? id = none)
    (hr : IsWhole r.estimate.cost) (hlt : budget + whole r.estimate.cost < 2 ^ 53)
    (hcov : r.key.text = key → ∀ scope ∈ Scope.charged r.tenant,
      Covers v (Quantity.cost.used ((s.cell scope key).archive w) +
        whole ((s.cell scope key).seen w now).used.cost +
        whole ((s.cell scope key).seen w now).reserved.cost + whole r.estimate.cost)) :
    (Ledger.hold s r.key.text r.tenant r.estimate w now).Accounted (rs.insert id r) key v carried
      (budget + whole r.estimate.cost) := by
  intro scope
  rw [cell_hold]
  split_ifs with hc
  · obtain ⟨hscope, rfl⟩ := hc
    refine Cell.Accounted.perm ?_ (outstanding_insert_of_counts hid ⟨hscope, rfl⟩).symm
    have hbal := (hbooks scope).seen hmn hw now
    exact (((h scope).seen w now).withHold hbal hr (hcov rfl scope hscope) hlt).cell
  · refine Cell.Accounted.perm ?_ (outstanding_insert_of_not hid hc).symm
    exact (h scope).mono le_rfl (Nat.le_add_right _ _)

theorem release (h : s.Accounted rs key v carried budget) (hbooks : Books .cost key s rs m)
    (hmn : m ≤ n) (hw : w.day = dayText n) (hid : rs.get? id = some r) :
    (Ledger.release s r w now).Accounted (rs.erase id) key v carried budget := by
  intro scope
  rw [cell_release]
  split_ifs with hc
  · obtain ⟨hscope, rfl⟩ := hc
    have hperm := outstanding_erase_of_counts hid ⟨hscope, rfl⟩
    have hbal := ((hbooks scope).perm hperm).seen hmn hw now
    exact ((((h scope).perm hperm).seen w now).withoutHold now hbal).cell
  · exact (h scope).perm (outstanding_erase_of_not hid hc)

theorem settle (h : s.Accounted rs key v carried budget) (now : Instant)
    (hbooks : Books .cost key s rs m) (hmn : m ≤ n) (hw : w.day = dayText n)
    (hid : rs.get? id = some r) {actual : Usage} (hactual : IsWhole actual.cost)
    (hle : whole actual.cost ≤ whole r.estimate.cost) (hlt : budget < 2 ^ 53) (p : LedgerPolicy) :
    (spend p r.key r.tenant actual w now (Ledger.release s r w now)).Accounted (rs.erase id) key v
      (fun scope => carried scope + r.carried w actual scope key) budget := by
  intro scope
  dsimp only
  rw [cell_spend, cell_release, cell_release]
  by_cases hc : r.countsFor scope key
  · obtain ⟨hscope, rfl⟩ := hc
    rw [if_pos ⟨hscope, rfl⟩, if_pos ⟨hscope, rfl⟩, Cell.spending_releasing]
    have hperm := outstanding_erase_of_counts hid ⟨hscope, rfl⟩
    have hbal := ((hbooks scope).perm hperm).seen hmn hw now
    have hset := (((h scope).perm hperm).seen w now).settle now hbal hactual hle hlt
      (p.limits.enforced? r.key) (archivedCost ((s.cell scope r.key.text).archive w))
    rw [Cell.day_seen] at hset
    have hcarry : r.carried w actual scope r.key.text =
        if r.day = w.day then 0 else whole actual.cost := by
      by_cases hd : r.day = w.day
      · simp [Reservation.carried, hd]
      · simp [Reservation.carried, hd, Reservation.countsFor, hscope]
    rw [hcarry]
    exact hset.cell
  · have hcarry : r.carried w actual scope key = 0 := if_neg (fun h => hc h.1)
    have hc' : ¬(scope ∈ Scope.charged r.tenant ∧ r.key.text = key) := hc
    rw [if_neg hc', if_neg hc', hcarry]
    exact (h scope).perm (outstanding_erase_of_not hid hc)

end LedgerState.Accounted

end LaneQuota
