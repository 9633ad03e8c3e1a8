import LaneQuota.Proofs.Ledger.Balance
import LaneQuota.Proofs.Ledger.Steps

namespace LaneQuota

open Ledger

def Books (q : Quantity) (key : String) (s : LedgerState) (rs : SortedMap Reservation) (n : ℤ) :
    Prop :=
  ∀ scope, Kept q (s.cell scope key) (outstanding rs scope key) n

namespace Books

variable {q : Quantity} {key : String} {s s' : LedgerState} {rs : SortedMap Reservation} {m n : ℤ}
  {w : Window} {now : Instant}

theorem empty (q : Quantity) (key : String) (n : ℤ) : Books q key LedgerState.empty ∅ n := by
  intro scope
  cases scope <;> exact rfl

theorem adjusted {c : Cell} {l : List Reservation} {f : Bucket → Bucket} (h : Kept q c l m)
    (hmn : m ≤ n) (hw : w.day = dayText n) (hday : ∀ b, (f b).day = b.day)
    (hres : ∀ b, (f b).reserved = b.reserved) : Kept q (c.adjust w now f) l n :=
  ((h.seen hmn hw now).congr (hday _) (hres _)).kept _

theorem looked (h : Books q key s rs m) (hmn : m ≤ n) (hw : w.day = dayText n)
    (hl : Looked w now s s') : Books q key s' rs n := by
  intro scope
  rcases hl.cell scope key with hc | hc <;> rw [hc]
  · exact (h scope).mono hmn
  · exact adjusted (h scope) hmn hw (fun _ => rfl) (fun _ => rfl)

theorem hold {id : String} {r : Reservation} (h : Books q key s rs m) (hmn : m ≤ n)
    (hw : w.day = dayText n) (hid : rs.get? id = none) (hday : r.day = dayText n)
    (hroom : r.key.text = key → q.Fits r.estimate ∧ ∀ scope ∈ Scope.charged r.tenant,
      q.total (onDay (outstanding rs scope key) (dayText n)) + q.amount r.estimate < q.bound) :
    Books q key (Ledger.hold s r.key.text r.tenant r.estimate w now) (rs.insert id r) n := by
  intro scope
  rw [cell_hold]
  split_ifs with hc
  · obtain ⟨hscope, rfl⟩ := hc
    obtain ⟨hfits, hfit⟩ := hroom rfl
    refine Kept.perm ?_ (outstanding_insert_of_counts hid ⟨hscope, rfl⟩).symm
    exact (((h scope).seen hmn hw now).withHold now hday hfits (hfit scope hscope)).kept _
  · exact ((h scope).mono hmn).perm (outstanding_insert_of_not hid hc).symm

theorem release {id : String} {r : Reservation} (h : Books q key s rs m) (hmn : m ≤ n)
    (hw : w.day = dayText n) (hid : rs.get? id = some r) :
    Books q key (Ledger.release s r w now) (rs.erase id) n := by
  intro scope
  rw [cell_release]
  split_ifs with hc
  · obtain ⟨hscope, rfl⟩ := hc
    have hk := (h scope).perm (outstanding_erase_of_counts hid ⟨hscope, rfl⟩)
    exact ((hk.seen hmn hw now).withoutHold now).kept _
  · exact ((h scope).mono hmn).perm (outstanding_erase_of_not hid hc)

theorem spend (h : Books q key s rs m) (hmn : m ≤ n) (hw : w.day = dayText n) (p : LedgerPolicy)
    (lane : LaneKey) (tenant : Option String) (usage : Usage) :
    Books q key (Ledger.spend p lane tenant usage w now s) rs n := by
  intro scope
  rw [cell_spend]
  split_ifs with hc
  · obtain ⟨-, rfl⟩ := hc
    refine adjusted (h scope) hmn hw (fun b => ?_) (fun b => ?_)
    · rw [day_latchedUnder]
      rfl
    · rw [reserved_latchedUnder]
      rfl
  · exact (h scope).mono hmn

end Books

namespace Ledger

def HasRoom (q : Quantity) (key : String) (l : Ledger) (now : Instant) (r : Request) : Prop :=
  r.key.text = key → q.Fits r.estimate ∧ ∀ scope ∈ Scope.charged r.tenant,
    q.total (onDay (outstanding l.reservations scope key) (l.window now).day) +
      q.amount r.estimate < q.bound

variable {q : Quantity} {key : String} {l l' : Ledger} {m : ℤ} {now : Instant} {op : Operation}

theorem Effect.books (he : l.Effect now op l') (h : Books q key l.state l.reservations m)
    (hday : m ≤ l.policy.zone.dayNumber now)
    (hroom : ∀ id r, op = .reserve id r → l.reservations.get? id = none → l.HasRoom q key now r) :
    Books q key l'.state l'.reservations (l.policy.zone.dayNumber now) := by
  have hw : (l.window now).day = dayText (l.policy.zone.dayNumber now) := rfl
  cases he with
  | looked hs => exact h.looked hday hw hs
  | @held id r hid =>
    exact h.hold (r := ⟨r.key, r.tenant, r.estimate, (l.window now).day⟩) hday hw hid hw
      (hroom id r rfl hid)
  | committed hid => exact (h.release hday hw hid).spend le_rfl hw _ _ _ _
  | orphaned hid => exact h.spend hday hw _ _ _ _
  | released hid => exact h.release hday hw hid
  | kept hid => exact (h.release hday hw hid).spend le_rfl hw _ _ _ _
  | toggled =>
    intro scope
    rw [cell_toggleUnlimited]
    exact (h scope).mono hday
  | raised drift hexempt hcell =>
    intro scope
    rw [hcell]
    split_ifs with hc
    · obtain ⟨rfl, rfl⟩ := hc
      refine Books.adjusted (h .shared) hday hw (fun b => ?_) (fun b => ?_)
      · rw [day_latchedUnder]
        rfl
      · rw [reserved_latchedUnder]
        rfl
    · exact (h scope).mono hday

end Ledger

end LaneQuota
