import LaneQuota.Proofs.Ledger.Reports

namespace LaneQuota

open Ledger

namespace LedgerState

variable (s : LedgerState) (scope scope' : Scope) (key key' : String)

theorem hourly?_makeRoom : (s.makeRoom scope).hourly? scope' key' = s.hourly? scope' key' := by
  cases scope <;> cases scope' <;> rfl

theorem hourly?_setBucket (b : Bucket) :
    (s.setBucket scope key b).hourly? scope' key' = s.hourly? scope' key' := by
  cases scope <;> cases scope' <;> rfl

theorem hourly?_retire (b : Bucket) :
    (s.retire scope key b).hourly? scope' key' = s.hourly? scope' key' := by
  cases scope <;> cases scope' <;> rfl

theorem hourly?_setHourly (log : HourlyLog) : (s.setHourly scope key log).hourly? scope' key' =
    if scope = scope' ∧ key = key' then some log else s.hourly? scope' key' := by
  cases scope <;> cases scope' <;> simp only [setHourly, hourly?, reduceCtorEq, false_and,
    if_false, true_and, Scope.tenant.injEq]
  · exact SortedMap.get?_insert _ _ _ _
  · exact SortedMap.bind_get?_adjust_insert _ _ _ _ _ _

theorem hourly?_current (w : Window) (now : Instant) :
    (s.current scope key w now).state.hourly? scope' key' = s.hourly? scope' key' := by
  simp only [current, bucket?_makeRoom]
  cases s.bucket? scope key with
  | none => rw [hourly?_setBucket, hourly?_makeRoom]
  | some b =>
    dsimp only
    split_ifs <;> simp only [hourly?_setBucket, hourly?_retire, hourly?_makeRoom]

theorem hourly?_adjustCurrent (w : Window) (now : Instant) (f : Bucket → Bucket) :
    (s.adjustCurrent scope key w now f).hourly? scope' key' = s.hourly? scope' key' := by
  rw [adjustCurrent, hourly?_setBucket, hourly?_current]

end LedgerState

section Charging

variable (tenant : Option String) (s : LedgerState) (w : Window) (now : Instant) (scope : Scope)
  (key' : String)

theorem hourly?_hold (key : String) (estimate : Usage) :
    (hold s key tenant estimate w now).hourly? scope key' = s.hourly? scope key' :=
  foldl_unchanged (fun s => s.hourly? scope key')
    (fun s scope' => s.hourly?_adjustCurrent scope' scope key key' w now _) _ s

theorem hourly?_release (r : Reservation) :
    (release s r w now).hourly? scope key' = s.hourly? scope key' :=
  foldl_unchanged (fun s => s.hourly? scope key')
    (fun s scope' => s.hourly?_adjustCurrent scope' scope r.key.text key' w now _) _ s

def LedgerPolicy.logging (p : LedgerPolicy) (now : Instant) (usage : Usage)
    (log : Option HourlyLog) : Option HourlyLog :=
  some (((log.getD ∅).record now p.zone usage).prune now p.zone p.retentionHours)

variable (p : LedgerPolicy) (key : LaneKey) (usage : Usage)

theorem hourly?_spendIn (scope' : Scope) :
    (spendIn p key usage w now s scope).hourly? scope' key' =
      if scope = scope' ∧ key.text = key' then p.logging now usage (s.hourly? scope key.text)
      else s.hourly? scope' key' := by
  simp only [spendIn, LedgerState.hourly?_setHourly, LedgerState.hourly?_setBucket,
    LedgerState.hourly?_current, LedgerState.hourly]
  rfl

theorem hourly?_spend :
    (spend p key tenant usage w now s).hourly? scope key' =
      if scope ∈ Scope.charged tenant ∧ key.text = key' then
        p.logging now usage (s.hourly? scope key.text)
      else s.hourly? scope key' :=
  foldl_charged LedgerState.hourly?
    (fun s scope scope' key' => hourly?_spendIn s w now scope key' p key usage scope')
    tenant s scope key'

end Charging

namespace Ledger

variable (l : Ledger) (now : Instant) (scope : Scope) (key' : String)

theorem hourly?_toggleUnlimited (enabled : Bool) (tenant : Option String) :
    (l.toggleUnlimited enabled tenant).ledger.state.hourly? scope key' =
      l.state.hourly? scope key' := by
  unfold toggleUnlimited
  cases tenant with
  | none => cases scope <;> rfl
  | some t => cases enabled <;> cases scope <;> rfl

theorem hourly?_applyReport (key : LaneKey) (start : Date) (reported : UInt64) :
    (l.applyReport now key start reported).ledger.state.hourly? scope key' =
      l.state.hourly? scope key' := by
  have hlooked : (l.lookedAt now key).state.hourly? scope key' = l.state.hourly? scope key' :=
    l.state.hourly?_current _ _ _ _ _ _
  have h := l.reported_applyReport now key start reported
  generalize l.applyReport now key start reported = x at h ⊢
  cases h with
  | failed _ => exact hlooked
  | behind _ _ => exact hlooked
  | ahead _ _ => exact (LedgerState.hourly?_setBucket _ _ _ _ _ _).trans hlooked

end Ledger

end LaneQuota
