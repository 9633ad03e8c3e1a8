import LaneQuota.Proofs.Ledger.Queries

namespace LaneQuota

def Ledger.withOrphans (l : Ledger) (k : UInt64) : Ledger := { l with orphanedCommits := k }

def Step.withOrphans {α : Type} (x : Step α) (k : UInt64) : Step α :=
  { x with ledger := x.ledger.withOrphans k }

/-- History, snapshot and the count of orphaned commits show how a ledger was used before. -/
def Operation.showsPast : Operation → Bool
  | .orphanedCommits => true
  | op => op.showsWaiting

theorem Operation.showsWaiting_of_showsPast {op : Operation} (h : op.showsPast = false) :
    op.showsWaiting = false := by
  cases op <;> first | exact h | rfl

namespace Ledger

def outlook (l : Ledger) (ops : Schedule) : List Answer :=
  ((ops.zip (l.run ops).2).filter (fun x => !x.1.2.showsPast)).map Prod.snd

section Orphans

variable (l : Ledger) (k : UInt64) (now : Instant)

theorem canCall_withOrphans (r : Request) :
    (l.withOrphans k).canCall now r = (l.canCall now r).withOrphans k := by
  have hexempt : (l.withOrphans k).exemption? r.tenant = l.exemption? r.tenant := rfl
  have hlimits : (l.withOrphans k).policy.limits.get? r.key = l.policy.limits.get? r.key := rfl
  unfold canCall
  rw [hexempt, hlimits]
  cases l.exemption? r.tenant with
  | some reason => rfl
  | none =>
    dsimp only
    cases l.policy.limits.get? r.key with
    | none => rfl
    | some limits =>
      dsimp only
      split_ifs <;> rfl

theorem reserve_withOrphans (id : String) (r : Request) :
    (l.withOrphans k).reserve now id r = (l.reserve now id r).withOrphans k := by
  have hopen : (l.withOrphans k).reservations.contains id = l.reservations.contains id := rfl
  unfold reserve
  rw [hopen]
  split_ifs <;> rfl

theorem rollback_withOrphans (id : String) (mode : RollbackMode) :
    (l.withOrphans k).rollback now id mode = (l.rollback now id mode).withOrphans k := by
  have hopen : (l.withOrphans k).reservations.get? id = l.reservations.get? id := rfl
  unfold rollback
  rw [hopen]
  cases l.reservations.get? id <;> rfl

theorem commit_withOrphans (id : String) (key : LaneKey) (tenant : Option String) (actual : Usage) :
    ∃ k', (l.withOrphans k).commit now id key tenant actual =
      (l.commit now id key tenant actual).withOrphans k' := by
  have hopen : (l.withOrphans k).reservations.get? id = l.reservations.get? id := rfl
  unfold commit
  rw [hopen]
  cases l.reservations.get? id with
  | none => exact ⟨k + 1, rfl⟩
  | some r => exact ⟨k, rfl⟩

theorem applyReport_withOrphans (key : LaneKey) (start : Date) (reported : UInt64) :
    (l.withOrphans k).applyReport now key start reported =
      (l.applyReport now key start reported).withOrphans k := by
  have hstate : (l.withOrphans k).state = l.state := rfl
  have hwindow : (l.withOrphans k).window now = l.window now := rfl
  unfold applyReport
  rw [hstate, hwindow]
  dsimp only
  split
  · rfl
  · split_ifs <;> rfl

theorem usageRatio_withOrphans (key : LaneKey) (tenant : Option String) :
    (l.withOrphans k).usageRatio now key tenant = (l.usageRatio now key tenant).withOrphans k := by
  have hlimits : (l.withOrphans k).policy.limits.get? key = l.policy.limits.get? key := rfl
  unfold usageRatio
  rw [hlimits]
  cases l.policy.limits.get? key <;> rfl

theorem step_withOrphans (op : Operation) : ∃ k',
    ((l.withOrphans k).step now op).ledger = (l.step now op).ledger.withOrphans k' ∧
    (op ≠ .orphanedCommits → ((l.withOrphans k).step now op).answer = (l.step now op).answer) := by
  have hmap : ∀ {α : Type} {x x' : Step α} {k' : UInt64} (f : α → Answer), x' = x.withOrphans k' →
      (x'.map f).ledger = (x.map f).ledger.withOrphans k' ∧
        (op ≠ .orphanedCommits → (x'.map f).answer = (x.map f).answer) := by
    rintro α x x' k' f rfl
    exact ⟨rfl, fun _ => rfl⟩
  cases op with
  | canCall r => exact ⟨k, hmap _ (l.canCall_withOrphans k now r)⟩
  | reserve id r => exact ⟨k, hmap _ (l.reserve_withOrphans k now id r)⟩
  | commit id key tenant actual =>
    obtain ⟨k', hcommit⟩ := l.commit_withOrphans k now id key tenant actual
    exact ⟨k', hmap _ hcommit⟩
  | rollback id mode => exact ⟨k, hmap _ (l.rollback_withOrphans k now id mode)⟩
  | applyReport key start reported =>
    exact ⟨k, hmap _ (l.applyReport_withOrphans k now key start reported)⟩
  | usageRatio key tenant => exact ⟨k, hmap _ (l.usageRatio_withOrphans k now key tenant)⟩
  | orphanedCommits => exact ⟨k, rfl, fun h => absurd rfl h⟩
  | _ => exact ⟨k, rfl, fun _ => rfl⟩

theorem outlook_cons (now : Instant) (op : Operation) (rest : Schedule) :
    l.outlook ((now, op) :: rest) =
      (if op.showsPast then [] else [(l.step now op).answer]) ++
        (l.step now op).ledger.outlook rest := by
  simp only [outlook, run, List.zip_cons_cons, List.filter_cons]
  cases op.showsPast <;> rfl

theorem outlook_withOrphans (ops : Schedule) : (l.withOrphans k).outlook ops = l.outlook ops := by
  induction ops generalizing l k with
  | nil => rfl
  | cons x rest ih =>
    obtain ⟨now, op⟩ := x
    obtain ⟨k', hstep, hanswer⟩ := l.step_withOrphans k now op
    rw [outlook_cons, outlook_cons, hstep, ih]
    cases hshow : op.showsPast with
    | true => rfl
    | false =>
      have hop : op ≠ .orphanedCommits := by
        rintro rfl
        contradiction
      rw [hanswer hop]

end Orphans

end Ledger

end LaneQuota
