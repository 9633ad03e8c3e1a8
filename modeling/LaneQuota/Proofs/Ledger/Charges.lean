import LaneQuota.Proofs.Ledger.Hours

namespace LaneQuota

open Ledger

inductive Charge where
  | nothing
  | spent (usage : Usage)
  | drift (tokens : UInt64)
deriving DecidableEq

namespace Charge

def onto : Charge → Usage → Usage
  | nothing, u => u
  | spent usage, u => u.plus usage
  | drift tokens, u => { u with tokensOut := addTokens u.tokensOut tokens }

def logged (p : LedgerPolicy) (now : Instant) : Charge → Option HourlyLog → Option HourlyLog
  | spent usage, log => p.logging now usage log
  | _, log => log

end Charge

def Spends (lane : LaneKey) (tenant : Option String) (scope : Scope) (key : String) : Prop :=
  scope ∈ Scope.charged tenant ∧ lane.text = key

instance (lane : LaneKey) (tenant : Option String) (scope : Scope) (key : String) :
    Decidable (Spends lane tenant scope key) := inferInstanceAs (Decidable (_ ∧ _))

namespace Ledger

def charge (l : Ledger) (now : Instant) (scope : Scope) (key : String) : Operation → Charge
  | .commit _ lane tenant actual => if Spends lane tenant scope key then .spent actual else .nothing
  | .rollback id .keep =>
    match l.reservations.get? id with
    | some r => if Spends r.key r.tenant scope key then .spent r.estimate else .nothing
    | none => .nothing
  | .applyReport lane start reported =>
    match l.drift? now lane start reported with
    | some drift => if Scope.shared = scope ∧ lane.text = key then .drift drift else .nothing
    | none => .nothing
  | _ => .nothing

def charges (l : Ledger) (scope : Scope) (key : String) :
    List (Instant × Operation) → List (Instant × Charge)
  | [] => []
  | (now, op) :: rest =>
    (now, l.charge now scope key op) :: (l.step now op).ledger.charges scope key rest

end Ledger

def Cell.Charged (c : Cell) (w : Window) (now : Instant) (x : Charge) (c' : Cell) : Prop :=
  c' = c ∧ x = .nothing ∨
    ∃ f, (∀ b : Bucket, (f b).day = b.day ∧ (f b).used = x.onto b.used) ∧ c' = c.adjust w now f

structure LedgerState.Charged (p : LedgerPolicy) (w : Window) (now : Instant) (scope : Scope)
    (key : String) (x : Charge) (s s' : LedgerState) : Prop where
  cell : (s.cell scope key).Charged w now x (s'.cell scope key)
  hourly : s'.hourly? scope key = x.logged p now (s.hourly? scope key)

section Charged

variable {p : LedgerPolicy} {w : Window} {now : Instant} {scope : Scope} {key : String} {x : Charge}

theorem Cell.Charged.trans {c c' c'' : Cell} (h : c.Charged w now .nothing c')
    (h' : c'.Charged w now x c'') : c.Charged w now x c'' := by
  rcases h with ⟨rfl, -⟩ | ⟨f, hf, rfl⟩
  · exact h'
  · rcases h' with ⟨rfl, rfl⟩ | ⟨g, hg, rfl⟩
    · exact Or.inr ⟨f, hf, rfl⟩
    · rw [c.adjust_adjust (fun b => (hf b).1)]
      refine Or.inr ⟨fun b => g (f b), fun b => ?_, rfl⟩
      rw [(hg (f b)).1, (hg (f b)).2, (hf b).1, (hf b).2]
      exact ⟨rfl, rfl⟩

theorem Cell.charged_adjust {c : Cell} {f : Bucket → Bucket} (hday : ∀ b, (f b).day = b.day)
    (hused : ∀ b, (f b).used = x.onto b.used) : c.Charged w now x (c.adjust w now f) :=
  Or.inr ⟨f, fun b => ⟨hday b, hused b⟩, rfl⟩

namespace LedgerState

variable {s s' s'' : LedgerState}

theorem Charged.refl (s : LedgerState) : s.Charged p w now scope key .nothing s :=
  ⟨Or.inl ⟨rfl, rfl⟩, rfl⟩

theorem Charged.trans (h : s.Charged p w now scope key .nothing s')
    (h' : s'.Charged p w now scope key x s'') : s.Charged p w now scope key x s'' := by
  refine ⟨h.cell.trans h'.cell, ?_⟩
  rw [h'.hourly, h.hourly]
  rfl

theorem charged_current (s : LedgerState) (scope' : Scope) (key' : String) :
    s.Charged p w now scope key .nothing (s.current scope' key' w now).state := by
  refine ⟨?_, s.hourly?_current _ _ _ _ _ _⟩
  rw [s.cell_current]
  split_ifs with h
  · rw [h.1, h.2]
    exact Cell.charged_adjust (fun _ => rfl) (fun _ => rfl)
  · exact Or.inl ⟨rfl, rfl⟩

theorem charged_hold (s : LedgerState) (lane : String) (tenant : Option String) (estimate : Usage) :
    s.Charged p w now scope key .nothing (hold s lane tenant estimate w now) := by
  refine ⟨?_, hourly?_hold _ _ _ _ _ _ _ _⟩
  rw [cell_hold]
  split_ifs with h
  · rw [h.2]
    exact Cell.charged_adjust (fun _ => rfl) (fun _ => rfl)
  · exact Or.inl ⟨rfl, rfl⟩

theorem charged_release (s : LedgerState) (r : Reservation) :
    s.Charged p w now scope key .nothing (release s r w now) := by
  refine ⟨?_, hourly?_release _ _ _ _ _ _⟩
  rw [cell_release]
  split_ifs with h
  · rw [h.2]
    exact Cell.charged_adjust (fun _ => rfl) (fun _ => rfl)
  · exact Or.inl ⟨rfl, rfl⟩

theorem charged_spend (s : LedgerState) (lane : LaneKey) (tenant : Option String) (usage : Usage) :
    s.Charged p w now scope key (if Spends lane tenant scope key then .spent usage else .nothing)
      (spend p lane tenant usage w now s) := by
  constructor
  · rw [cell_spend]
    change Cell.Charged _ _ _ _ (if Spends lane tenant scope key then _ else _)
    split_ifs with h
    · rw [h.2]
      exact Cell.charged_adjust (fun _ => day_latchedUnder _ _ _) (fun _ => used_latchedUnder _ _ _)
    · exact Or.inl ⟨rfl, rfl⟩
  · rw [hourly?_spend]
    change (if Spends lane tenant scope key then _ else _) = _
    split_ifs with h
    · rw [h.2]
      rfl
    · rfl

end LedgerState

end Charged

namespace Ledger

variable (l : Ledger) (now : Instant) (scope : Scope) (key : String)

theorem charged_applyReport (lane : LaneKey) (start : Date) (reported : UInt64) :
    l.state.Charged l.policy (l.window now) now scope key
      (l.charge now scope key (.applyReport lane start reported))
      (l.applyReport now lane start reported).ledger.state := by
  have hlog := l.hourly?_applyReport now scope key lane start reported
  have hcell := l.cell_applyReport now lane start reported scope key
  rw [charge]
  cases hdrift : l.drift? now lane start reported with
  | none =>
    rw [hdrift] at hcell
    refine ⟨?_, hlog⟩
    rw [hcell]
    split_ifs with h
    · rw [← h.1, h.2]
      exact Cell.charged_adjust (fun _ => rfl) (fun _ => rfl)
    · exact Or.inl ⟨rfl, rfl⟩
  | some drift =>
    rw [hdrift] at hcell
    dsimp only
    split_ifs at hcell ⊢ with h
    · refine ⟨?_, hlog⟩
      rw [hcell, ← h.1, h.2]
      exact Cell.charged_adjust (fun _ => day_latchedUnder _ _ _) (fun _ => used_latchedUnder _ _ _)
    · exact ⟨Or.inl ⟨hcell, rfl⟩, hlog⟩

theorem charged_step (op : Operation) : l.state.Charged l.policy (l.window now) now scope key
    (l.charge now scope key op) (l.step now op).ledger.state := by
  by_cases hask : op.asks = true
  · have hnothing : l.charge now scope key op = .nothing := by
      cases op <;> first | rfl | contradiction
    rw [hnothing]
    exact keeps_step (fun s => l.state.Charged l.policy (l.window now) now scope key .nothing s)
      (fun s scope' key' h => h.trans (s.charged_current scope' key')) (.refl _) hask
  cases op with
  | reserve id r =>
    change l.state.Charged _ _ now scope key .nothing (l.reserve now id r).ledger.state
    unfold reserve
    split_ifs
    · exact .refl _
    · exact l.state.charged_hold _ _ _
  | commit id lane tenant actual =>
    change l.state.Charged _ _ now scope key _ (l.commit now id lane tenant actual).ledger.state
    unfold commit
    cases l.reservations.get? id with
    | none => exact l.state.charged_spend lane tenant actual
    | some r =>
      exact (l.state.charged_release r).trans (LedgerState.charged_spend _ lane tenant actual)
  | rollback id mode =>
    change l.state.Charged _ _ now scope key _ (l.rollback now id mode).ledger.state
    unfold rollback
    cases hid : l.reservations.get? id with
    | none =>
      have hnothing : l.charge now scope key (.rollback id mode) = .nothing := by
        cases mode <;> simp only [charge, hid]
      rw [hnothing]
      exact .refl _
    | some r =>
      cases mode with
      | release => exact l.state.charged_release r
      | keep =>
        simp only [charge, hid]
        exact (l.state.charged_release r).trans
          (LedgerState.charged_spend _ r.key r.tenant r.estimate)
  | toggleUnlimited enabled tenant =>
    refine ⟨Or.inl ⟨?_, rfl⟩, l.hourly?_toggleUnlimited scope key enabled tenant⟩
    exact l.cell_toggleUnlimited enabled tenant scope key
  | applyReport lane start reported => exact l.charged_applyReport now scope key lane start reported
  | _ => exact absurd rfl hask

end Ledger

end LaneQuota
