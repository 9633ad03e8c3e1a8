import LaneQuota.Proofs.Ledger.Effects

namespace LaneQuota

open Ledger

namespace Ledger

variable (l : Ledger) (now : Instant) (key : LaneKey) (start : Date) (reported : UInt64)

def drift? : Option UInt64 :=
  match (l.applyReport now key start reported).answer with
  | .ok ⟨true, drift⟩ => some drift
  | _ => none

theorem answer_applyReport : (l.applyReport now key start reported).answer =
    match l.known? now key start with
    | none => .error .overflow
    | some known => .ok (if reported ≤ known then ⟨false, 0⟩ else ⟨true, reported - known⟩) := by
  have h := l.reported_applyReport now key start reported
  generalize l.applyReport now key start reported = x at h ⊢
  cases h with
  | failed hknown => rw [hknown]
  | behind hknown hle =>
    rw [hknown]
    exact congrArg Except.ok (if_pos hle).symm
  | ahead hknown hlt =>
    rw [hknown]
    exact congrArg Except.ok (if_neg hlt).symm

theorem drift?_eq : l.drift? now key start reported =
    (l.known? now key start).bind
      (fun known => if reported ≤ known then none else some (reported - known)) := by
  rw [drift?, answer_applyReport]
  cases l.known? now key start with
  | none => rfl
  | some known =>
    dsimp only [Option.bind_some]
    split_ifs <;> rfl

theorem ledger_applyReport : (l.applyReport now key start reported).ledger =
    { l with state := (l.applyReport now key start reported).ledger.state } := by
  have h := l.reported_applyReport now key start reported
  generalize l.applyReport now key start reported = x at h ⊢
  cases h <;> rfl

theorem cell_applyReport (scope : Scope) (key' : String) :
    (l.applyReport now key start reported).ledger.state.cell scope key' =
      if Scope.shared = scope ∧ key.text = key' then
        match l.drift? now key start reported with
        | none => (l.state.cell .shared key.text).moved (l.window now) now
        | some drift => (l.state.cell .shared key.text).reporting (l.window now) now
            (l.policy.limits.enforced? key) drift
      else l.state.cell scope key' := by
  rw [drift?_eq]
  have h := l.reported_applyReport now key start reported
  generalize l.applyReport now key start reported = x at h ⊢
  cases h with
  | failed hknown =>
    rw [hknown, Option.bind_none]
    exact l.cell_lookedAt now key scope key'
  | behind hknown hle =>
    rw [hknown, Option.bind_some, if_pos hle]
    exact l.cell_lookedAt now key scope key'
  | ahead hknown hlt =>
    rw [hknown, Option.bind_some, if_neg hlt]
    exact l.cell_raised now key _ scope key'

theorem exemptions_applyReport :
    (l.applyReport now key start reported).ledger.state.exemptions = l.state.exemptions := by
  have h := l.reported_applyReport now key start reported
  generalize l.applyReport now key start reported = x at h ⊢
  cases h with
  | failed _ => exact (l.looked_lookedAt now key).exemptions
  | behind _ _ => exact (l.looked_lookedAt now key).exemptions
  | ahead _ _ => exact l.exemptions_raised now key _

end Ledger

end LaneQuota
