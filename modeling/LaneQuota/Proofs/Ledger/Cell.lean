import LaneQuota.Ledger.Operation
import Mathlib

namespace LaneQuota

structure Cell where
  bucket : Option Bucket
  history : List Bucket

namespace Cell

def seen (c : Cell) (w : Window) (now : Instant) : Bucket :=
  match c.bucket with
  | none => Bucket.fresh w now
  | some b => if b.day = w.day then b else Bucket.fresh w now

def archive (c : Cell) (w : Window) : List Bucket :=
  match c.bucket with
  | none => c.history
  | some b => if b.day = w.day ∨ b.used.isZero then c.history else c.history ++ [b]

def adjust (c : Cell) (w : Window) (now : Instant) (f : Bucket → Bucket) : Cell :=
  ⟨some (f (c.seen w now)), c.archive w⟩

def moved (c : Cell) (w : Window) (now : Instant) : Cell := c.adjust w now id

theorem day_seen (c : Cell) (w : Window) (now : Instant) : (c.seen w now).day = w.day := by
  unfold seen
  split
  · rfl
  · split_ifs with h
    · exact h
    · rfl

theorem seen_mk {b : Bucket} {h : List Bucket} {w : Window} (hb : b.day = w.day) (now : Instant) :
    (mk (some b) h).seen w now = b := by
  simp [seen, hb]

theorem archive_mk {b : Bucket} {h : List Bucket} {w : Window} (hb : b.day = w.day) :
    (mk (some b) h).archive w = h := by
  simp [archive, hb]

theorem seen_adjust (c : Cell) {w : Window} {now : Instant} {f : Bucket → Bucket}
    (hf : ∀ b, (f b).day = b.day) (later : Instant) :
    (c.adjust w now f).seen w later = f (c.seen w now) :=
  seen_mk ((hf _).trans (c.day_seen w now)) later

theorem seen_adjust_of_ne (c : Cell) {w w' : Window} (now : Instant) {f : Bucket → Bucket}
    (hf : ∀ b, (f b).day = b.day) (hne : w.day ≠ w'.day) (later : Instant) :
    (c.adjust w now f).seen w' later = Bucket.fresh w' later := by
  have hday : (f (c.seen w now)).day ≠ w'.day := by rwa [hf, day_seen]
  exact if_neg hday

theorem mem_archive {c : Cell} {w : Window} {b : Bucket} (h : b ∈ c.archive w) :
    b ∈ c.history ∨ c.bucket = some b ∧ b.day ≠ w.day := by
  unfold archive at h
  cases hb : c.bucket with
  | none =>
    rw [hb] at h
    exact Or.inl h
  | some a =>
    simp only [hb] at h
    split_ifs at h with hd
    · exact Or.inl h
    · rcases List.mem_append.mp h with h | h
      · exact Or.inl h
      · rw [List.mem_singleton.mp h]
        exact Or.inr ⟨rfl, fun hday => hd (Or.inl hday)⟩

theorem archive_adjust (c : Cell) {w : Window} {now : Instant} {f : Bucket → Bucket}
    (hf : ∀ b, (f b).day = b.day) : (c.adjust w now f).archive w = c.archive w :=
  archive_mk ((hf _).trans (c.day_seen w now))

theorem seen_moved (c : Cell) (w : Window) (now later : Instant) :
    (c.moved w now).seen w later = c.seen w now := c.seen_adjust (fun _ => rfl) later

theorem archive_moved (c : Cell) (w : Window) (now : Instant) :
    (c.moved w now).archive w = c.archive w := c.archive_adjust (fun _ => rfl)

theorem adjust_adjust (c : Cell) {w : Window} {now : Instant} {f : Bucket → Bucket}
    (hf : ∀ b, (f b).day = b.day) (g : Bucket → Bucket) :
    (c.adjust w now f).adjust w now g = c.adjust w now (fun b => g (f b)) := by
  rw [adjust, c.seen_adjust hf, c.archive_adjust hf]
  rfl

end Cell

def archivedCost (bs : List Bucket) : Float := bs.foldl (fun sum b => sum + b.used.cost) (-0.0)

namespace SortedMap

variable {α : Type} (m : SortedMap (SortedMap α)) (t t' k : String)

theorem get?_getD_empty : (m.getD t ∅).get? k = (m.get? t).bind (fun x => x.get? k) := by
  rw [getD]
  cases m.get? t <;> rfl

theorem bind_get?_adjust (f : SortedMap α → SortedMap α) :
    ((m.adjust t ∅ f).get? t').bind (fun x => x.get? k) =
      if t = t' then (f (m.getD t ∅)).get? k else (m.get? t').bind (fun x => x.get? k) := by
  rw [get?_adjust]
  split_ifs <;> rfl

theorem bind_get?_adjust_id : ((m.adjust t ∅ id).get? t').bind (fun x => x.get? k) =
    (m.get? t').bind (fun x => x.get? k) := by
  rw [bind_get?_adjust, id, get?_getD_empty]
  split_ifs with h
  · rw [h]
  · rfl

theorem bind_get?_adjust_insert (k' : String) (v : α) :
    ((m.adjust t ∅ (fun x => x.insert k v)).get? t').bind (fun x => x.get? k') =
      if t = t' ∧ k = k' then some v else (m.get? t').bind (fun x => x.get? k') := by
  rw [bind_get?_adjust, get?_insert, get?_getD_empty]
  by_cases h : t = t'
  · subst h
    simp
  · simp [h]

end SortedMap

namespace LedgerState

def cell (s : LedgerState) (scope : Scope) (key : String) : Cell :=
  ⟨s.bucket? scope key, s.history scope key⟩

def history? (s : LedgerState) (scope : Scope) (key : String) : Option (List Bucket) :=
  match scope with
  | .shared => s.sharedHistory.get? key
  | .tenant t => (s.tenantHistory.get? t).bind (fun m => m.get? key)

variable (s : LedgerState) (scope scope' : Scope) (key key' : String)

theorem history_eq : s.history scope key = (s.history? scope key).getD [] := by
  cases scope <;> rfl

theorem bucket?_makeRoom : (s.makeRoom scope).bucket? scope' key' = s.bucket? scope' key' := by
  cases scope <;> cases scope' <;> simp only [makeRoom, bucket?]
  exact SortedMap.bind_get?_adjust_id _ _ _ _

theorem history?_makeRoom : (s.makeRoom scope).history? scope' key' = s.history? scope' key' := by
  cases scope <;> cases scope' <;> simp only [makeRoom, history?]
  exact SortedMap.bind_get?_adjust_id _ _ _ _

theorem bucket?_setBucket (b : Bucket) : (s.setBucket scope key b).bucket? scope' key' =
    if scope = scope' ∧ key = key' then some b else s.bucket? scope' key' := by
  cases scope <;> cases scope' <;> simp only [setBucket, bucket?, reduceCtorEq, false_and,
    if_false, true_and, Scope.tenant.injEq]
  · exact SortedMap.get?_insert _ _ _ _
  · exact SortedMap.bind_get?_adjust_insert _ _ _ _ _ _

theorem history?_setBucket (b : Bucket) :
    (s.setBucket scope key b).history? scope' key' = s.history? scope' key' := by
  cases scope <;> cases scope' <;> rfl

theorem bucket?_retire (b : Bucket) :
    (s.retire scope key b).bucket? scope' key' = s.bucket? scope' key' := by
  cases scope <;> cases scope' <;> rfl

theorem history?_retire (b : Bucket) : (s.retire scope key b).history? scope' key' =
    if scope = scope' ∧ key = key' then some (s.history scope key ++ [b])
    else s.history? scope' key' := by
  cases scope <;> cases scope' <;> simp only [retire, history?, reduceCtorEq, false_and,
    if_false, true_and, Scope.tenant.injEq]
  · exact SortedMap.get?_insert _ _ _ _
  · rename_i t t'
    have hold : (s.tenantHistory.getD t ∅).getD key [] = s.history (.tenant t) key := by
      rw [SortedMap.getD, SortedMap.get?_getD_empty]
      rfl
    rw [SortedMap.bind_get?_adjust, SortedMap.get?_adjust, SortedMap.get?_getD_empty, hold]
    by_cases h : t = t'
    · subst h
      simp
    · simp [h]

theorem cell_makeRoom : (s.makeRoom scope).cell scope' key' = s.cell scope' key' := by
  rw [cell, cell, bucket?_makeRoom, history_eq, history?_makeRoom, ← history_eq]

theorem cell_setBucket (b : Bucket) : (s.setBucket scope key b).cell scope' key' =
    if scope = scope' ∧ key = key' then ⟨some b, (s.cell scope key).history⟩
    else s.cell scope' key' := by
  rw [cell, bucket?_setBucket, history_eq, history?_setBucket, ← history_eq]
  split_ifs with h
  · rw [h.1, h.2]
    rfl
  · rfl

theorem cell_retire (b : Bucket) : (s.retire scope key b).cell scope' key' =
    if scope = scope' ∧ key = key' then
      ⟨(s.cell scope key).bucket, (s.cell scope key).history ++ [b]⟩
    else s.cell scope' key' := by
  rw [cell, bucket?_retire, history_eq, history?_retire]
  split_ifs with h
  · rw [← h.1, ← h.2]
    rfl
  · rw [← history_eq]
    rfl

theorem bucket_current (w : Window) (now : Instant) :
    (s.current scope key w now).bucket = (s.cell scope key).seen w now := by
  simp only [current, bucket?_makeRoom, Cell.seen, cell]
  cases s.bucket? scope key with
  | none => rfl
  | some b =>
    dsimp only
    split_ifs <;> rfl

theorem cell_current (w : Window) (now : Instant) :
    (s.current scope key w now).state.cell scope' key' =
      if scope = scope' ∧ key = key' then (s.cell scope key).moved w now
      else s.cell scope' key' := by
  simp only [current, bucket?_makeRoom, Cell.moved, Cell.adjust, Cell.seen, Cell.archive]
  cases hb : s.bucket? scope key with
  | none =>
    have hc : (s.cell scope key).bucket = none := hb
    simp only [cell_setBucket, cell_makeRoom, hc, id_eq]
  | some b =>
    have hc : (s.cell scope key).bucket = some b := hb
    simp only [hc, id_eq]
    by_cases hd : b.day = w.day
    · simp only [hd, if_true, true_or, cell_makeRoom]
      split_ifs with h
      · rw [← h.1, ← h.2, ← hc]
      · rfl
    · simp only [hd, if_false, false_or, cell_setBucket]
      by_cases hz : b.used.isZero = true
      · simp only [hz, if_true, cell_makeRoom]
      · have hz' : b.used.isZero = false := by simpa using hz
        simp only [hz', Bool.false_eq_true, if_false, cell_retire, cell_makeRoom, and_self, if_true]
        split_ifs <;> rfl

theorem cell_adjustCurrent (w : Window) (now : Instant) (f : Bucket → Bucket) :
    (s.adjustCurrent scope key w now f).cell scope' key' =
      if scope = scope' ∧ key = key' then (s.cell scope key).adjust w now f
      else s.cell scope' key' := by
  simp only [adjustCurrent, cell_setBucket, cell_current, bucket_current, and_self, if_true]
  split_ifs <;> rfl

theorem cell_setHourly (log : HourlyLog) :
    (s.setHourly scope key log).cell scope' key' = s.cell scope' key' := by
  cases scope <;> cases scope' <;> rfl

theorem historyCost_eq : s.historyCost scope key = archivedCost (s.cell scope key).history := rfl

theorem historyCost_current (w : Window) (now : Instant) :
    (s.current scope key w now).state.historyCost scope key =
      archivedCost ((s.cell scope key).archive w) := by
  rw [historyCost_eq, cell_current, if_pos ⟨rfl, rfl⟩]
  rfl

def exemptions : Bool × TextSet := (s.unlimited, s.exempt)

theorem exemptions_makeRoom : (s.makeRoom scope).exemptions = s.exemptions := by
  cases scope <;> rfl

theorem exemptions_setBucket (b : Bucket) : (s.setBucket scope key b).exemptions = s.exemptions := by
  cases scope <;> rfl

theorem exemptions_retire (b : Bucket) : (s.retire scope key b).exemptions = s.exemptions := by
  cases scope <;> rfl

theorem exemptions_setHourly (log : HourlyLog) :
    (s.setHourly scope key log).exemptions = s.exemptions := by
  cases scope <;> rfl

theorem exemptions_current (w : Window) (now : Instant) :
    (s.current scope key w now).state.exemptions = s.exemptions := by
  simp only [current, bucket?_makeRoom]
  cases s.bucket? scope key with
  | none => rw [exemptions_setBucket, exemptions_makeRoom]
  | some b =>
    dsimp only
    split_ifs <;> simp only [exemptions_setBucket, exemptions_retire, exemptions_makeRoom]

theorem exemptions_adjustCurrent (w : Window) (now : Instant) (f : Bucket → Bucket) :
    (s.adjustCurrent scope key w now f).exemptions = s.exemptions := by
  rw [adjustCurrent, exemptions_setBucket, exemptions_current]

end LedgerState

end LaneQuota
