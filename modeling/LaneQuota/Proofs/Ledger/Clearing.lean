import LaneQuota.Proofs.Ledger.Contents
import LaneQuota.Proofs.Ledger.Queries
import LaneQuota.Proofs.Ledger.Unsaved

namespace LaneQuota

open Ledger

namespace LedgerState

section Bucket

variable (b : Bucket)

@[simp] theorem day_clearBucket : (clearBucket b).day = b.day := by
  unfold clearBucket
  split_ifs <;> rfl

@[simp] theorem used_clearBucket : (clearBucket b).used = b.used := by
  unfold clearBucket
  split_ifs <;> rfl

@[simp] theorem hardStopped_clearBucket : (clearBucket b).hardStopped = b.hardStopped := by
  unfold clearBucket
  split_ifs <;> rfl

@[simp] theorem lastUpdate_clearBucket : (clearBucket b).lastUpdate = b.lastUpdate := by
  unfold clearBucket
  split_ifs <;> rfl

end Bucket

variable (s : LedgerState) (scope : Scope) (key : String)

theorem bucket?_clearReserved :
    s.clearReserved.bucket? scope key = (s.bucket? scope key).map clearBucket := by
  cases scope with
  | shared => exact SortedMap.get?_mapValues _ _ _
  | tenant t =>
    simp only [bucket?, clearReserved, SortedMap.get?_mapValues]
    cases s.tenantBuckets.get? t with
    | none => rfl
    | some m => exact SortedMap.get?_mapValues _ _ _

theorem history?_clearReserved : s.clearReserved.history? scope key = s.history? scope key := by
  cases scope <;> rfl

theorem hourly?_clearReserved : s.clearReserved.hourly? scope key = s.hourly? scope key := by
  cases scope <;> rfl

theorem cell_clearReserved : s.clearReserved.cell scope key =
    ⟨(s.cell scope key).bucket.map clearBucket, (s.cell scope key).history⟩ := by
  rw [cell, bucket?_clearReserved, history_eq, history?_clearReserved, ← history_eq]
  rfl

variable {s} in
theorem every_clearReserved {P : Bucket → Prop} {Q : Usage → Prop}
    (hclear : ∀ b, P b → P (clearBucket b)) (hs : s.Every P Q) : s.clearReserved.Every P Q := by
  refine ⟨fun scope key b hb => ?_, fun scope key u hu => ?_⟩
  · have hcell := hs.bucket scope key
    rw [cell_clearReserved] at hb
    rcases List.mem_append.mp hb with hb | hb
    · exact hcell b (List.mem_append_left _ hb)
    · obtain ⟨live, hlive, rfl⟩ := Option.map_eq_some_iff.mp (Option.mem_toList.mp hb)
      exact hclear live (hcell live (List.mem_append_right _ (Option.mem_toList.mpr hlive)))
  · unfold hourly at hu
    rw [hourly?_clearReserved] at hu
    exact hs.logged scope key u hu

end LedgerState

namespace Cell

def unreserved (c : Cell) (w : Window) : Account × List (String × Usage) :=
  ({ (c.accounts w).1 with reserved := Usage.zero }, (c.accounts w).2)

def Clear (c : Cell) : Prop := ∀ b, c.bucket = some b → b.reserved = Usage.zero

variable {c c' : Cell} {w : Window} {now : Instant}

theorem Clear.accounts_eq (h : c.Clear) (w : Window) : c.accounts w = c.unreserved w := by
  have hreserved : (c.accounts w).1.reserved = Usage.zero := by
    unfold accounts
    cases hb : c.bucket with
    | none => rfl
    | some b =>
      dsimp only
      split_ifs
      · exact h b hb
      · rfl
  rw [unreserved, ← hreserved]

theorem unreserved_releasing (c : Cell) (r : Reservation) :
    (c.releasing w now r).unreserved w = c.unreserved w := by
  have hadjust : (c.releasing w now r).accounts w =
      (((c.seen w now).withoutHold r now).account, (c.accounts w).2) := accounts_adjust (fun _ => rfl)
  rw [unreserved, unreserved, hadjust, ← c.account_seen w now]
  rfl

theorem unreserved_clearBucket (c : Cell) (w : Window) :
    (⟨c.bucket.map LedgerState.clearBucket, c.history⟩ : Cell).unreserved w = c.unreserved w := by
  unfold unreserved accounts archive
  cases c.bucket with
  | none => rfl
  | some b =>
    -- A bucket of another day is retired, and nothing of what was reserved there is told any more.
    by_cases hd : b.day = w.day
    · simp [hd, Bucket.account]
    · by_cases hz : b.used.isZero = true <;> simp [hd, hz, Bucket.receipt]

theorem accounts_of_unused (h : ∀ b, c.bucket = some b → b.Unused) (w : Window) :
    (⟨none, c.history⟩ : Cell).accounts w = c.accounts w := by
  have hzero : Usage.zero.isZero = true := by decide +kernel
  unfold accounts archive
  cases hb : c.bucket with
  | none => rfl
  | some b =>
    obtain ⟨hused, hreserved, hlatch⟩ := h b hb
    simp only [hused, hzero, or_true, if_true]
    split_ifs with hday
    · rw [Bucket.account, hday, hused, hreserved, hlatch]
      rfl
    · rfl

end Cell

namespace LedgerState

structure SpendsAlike (w : Window) (s s' : LedgerState) : Prop where
  exemptions : s.exemptions = s'.exemptions
  hourly : ∀ scope key, s.hourly? scope key = s'.hourly? scope key
  cell : ∀ scope key, (s.cell scope key).unreserved w = (s'.cell scope key).unreserved w

variable {w : Window} {now : Instant} {s s' s'' : LedgerState}

theorem SpendsAlike.refl (s : LedgerState) (w : Window) : s.SpendsAlike w s :=
  ⟨rfl, fun _ _ => rfl, fun _ _ => rfl⟩

theorem SpendsAlike.symm (h : s.SpendsAlike w s') : s'.SpendsAlike w s :=
  ⟨h.exemptions.symm, fun scope key => (h.hourly scope key).symm,
    fun scope key => (h.cell scope key).symm⟩

theorem SpendsAlike.trans (h : s.SpendsAlike w s') (h' : s'.SpendsAlike w s'') : s.SpendsAlike w s'' :=
  ⟨h.exemptions.trans h'.exemptions, fun scope key => (h.hourly scope key).trans (h'.hourly scope key),
    fun scope key => (h.cell scope key).trans (h'.cell scope key)⟩

theorem SpendsAlike.alike (h : s.SpendsAlike w s') (hs : ∀ scope key, (s.cell scope key).Clear)
    (hs' : ∀ scope key, (s'.cell scope key).Clear) : s.Alike w s' := by
  refine ⟨h.exemptions, h.hourly, fun scope key => ?_⟩
  rw [(hs scope key).accounts_eq, (hs' scope key).accounts_eq, h.cell]

theorem spendsAlike_release (s : LedgerState) (r : Reservation) :
    (Ledger.release s r w now).SpendsAlike w s := by
  refine ⟨exemptions_release _ _ _ _, fun scope key => hourly?_release _ _ _ _ _ _,
    fun scope key => ?_⟩
  rw [cell_release]
  split_ifs with hc
  · rw [Cell.unreserved_releasing, hc.2]
  · rfl

theorem Lacks.cell (h : s.Lacks s') (scope : Scope) (key : String) :
    s.cell scope key = s'.cell scope key ∨
      s.cell scope key = ⟨none, (s'.cell scope key).history⟩ ∧
        ∀ b, (s'.cell scope key).bucket = some b → b.Unused := by
  have hhistory : s.history scope key = s'.history scope key := by
    rw [history_eq, history_eq, h.history]
  rcases h.bucket scope key with heq | ⟨hnone, hunused⟩
  · exact Or.inl (by rw [LedgerState.cell, LedgerState.cell, heq, hhistory])
  · exact Or.inr ⟨by rw [LedgerState.cell, hnone, hhistory, LedgerState.cell], hunused⟩

theorem Lacks.spendsAlike (h : s.Lacks s') (w : Window) : s.SpendsAlike w s' := by
  refine ⟨h.exemptions, h.hourly, fun scope key => ?_⟩
  rcases h.cell scope key with heq | ⟨heq, hunused⟩
  · rw [heq]
  · rw [heq, Cell.unreserved, Cell.unreserved, Cell.accounts_of_unused hunused]

theorem spendsAlike_clearReserved (s : LedgerState) (w : Window) :
    s.clearReserved.SpendsAlike w s := by
  refine ⟨rfl, hourly?_clearReserved s, fun scope key => ?_⟩
  rw [cell_clearReserved, Cell.unreserved_clearBucket]

end LedgerState

end LaneQuota
