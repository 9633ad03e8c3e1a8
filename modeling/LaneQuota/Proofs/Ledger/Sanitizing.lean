import LaneQuota.Proofs.Ledger.Runs
import LaneQuota.Proofs.Ledger.Turns

namespace LaneQuota

open Ledger Double

theorem soundCost_of_pos {c : Float} (hfinite : c.isFinite = true) (hpos : 0.0 < c) :
    soundCost c = c := by
  simp [soundCost, hfinite, hpos]

theorem soundCost_soundCost (c : Float) : soundCost (soundCost c) = soundCost c := by
  by_cases h : c.isFinite = true ∧ 0.0 < c
  · rw [soundCost_of_pos h.1 h.2, soundCost_of_pos h.1 h.2]
  · have hzero : soundCost c = 0.0 := by
      simpa [soundCost] using fun hfinite hpos => absurd ⟨hfinite, hpos⟩ h
    rw [hzero]
    decide

namespace Usage

def sound (u : Usage) : Usage := reported u.tokensIn u.tokensOut u.cost

def ValidCost (u : Usage) : Prop := u.cost.isFinite = true ∧ 0.0 ≤ u.cost

instance : DecidablePred ValidCost := fun _ => inferInstanceAs (Decidable (_ ∧ _))

theorem ValidCost.cases {u : Usage} (h : u.ValidCost) :
    u.sound.cost = u.cost ∨ (u.cost == 0.0) = true ∧ u.sound.cost = 0.0 := by
  obtain ⟨v, hv⟩ := (isFinite_iff u.cost).mp h.1
  by_cases hpos : 0.0 < u.cost
  · exact Or.inl (soundCost_of_pos h.1 hpos)
  · have hnone : v = 0 := by
      rw [denotes_zero.lt_iff hv, not_lt] at hpos
      exact_mod_cast hpos.antisymm ((denotes_zero.le_iff hv).mp h.2)
    have hzero : (u.cost == 0.0) = true := beq_zero_of_denotes (by rw [hnone] at hv; exact hv)
    exact Or.inr ⟨hzero, soundCost_of_beq_zero hzero⟩

def sanitized (P : Usage → Bool) (u : Usage) : Usage := if P u then u.sound else u

variable {P : Usage → Bool} (u v : Usage)

theorem sanitized_cases : v.sanitized P = v ∨ P v = true ∧ v.sanitized P = v.sound := by
  unfold sanitized
  split_ifs with h
  · exact Or.inr ⟨h, rfl⟩
  · exact Or.inl rfl

theorem totalTokens_sanitized : (v.sanitized P).totalTokens = v.totalTokens := by
  rcases v.sanitized_cases (P := P) with h | ⟨-, h⟩ <;> rw [h]
  rfl

theorem plus_sanitized : u.plus (v.sanitized P) = u.plus v := by
  rcases v.sanitized_cases (P := P) with h | ⟨-, h⟩ <;> rw [h]
  simp only [plus, sound, reported, soundCost_soundCost]

variable {v}

theorem minus_sanitized (hv : P v = true → v.ValidCost) : u.minus (v.sanitized P) = u.minus v := by
  rcases v.sanitized_cases (P := P) with h | ⟨hP, h⟩ <;> rw [h]
  have hcost : aboveZero (u.cost - v.sound.cost) = aboveZero (u.cost - v.cost) := by
    rcases (hv hP).cases with heq | ⟨hzero, heq⟩ <;> rw [heq]
    rcases sub_zero_cases u.cost hzero with hsub | ⟨hsub, hplain⟩
    · rw [hsub]
    · have hnone : ∀ x, Denotes x 0 → aboveZero x = 0.0 := by
        intro x hx
        apply if_neg
        rw [denotes_zero.lt_iff hx]
        exact lt_irrefl 0
      rw [hnone _ hsub, hnone _ hplain]
  rw [minus, minus, hcost]
  rfl

theorem lt_add_sanitized_iff (hv : P v = true → v.ValidCost) (cap x : Float) :
    cap < x + (v.sanitized P).cost ↔ cap < x + v.cost := by
  rcases v.sanitized_cases (P := P) with h | ⟨hP, h⟩ <;> rw [h]
  rcases (hv hP).cases with heq | ⟨hzero, heq⟩ <;> rw [heq]
  rcases add_zero_cases x hzero with hadd | ⟨hadd, hplain⟩
  · rw [hadd]
  · exact hplain.lt_congr hadd

end Usage

section Sanitized

variable (P : Usage → Bool)

def Request.sanitized (r : Request) : Request := { r with estimate := r.estimate.sanitized P }

def Reservation.sanitized (r : Reservation) : Reservation :=
  { r with estimate := r.estimate.sanitized P }

def Operation.sanitized : Operation → Operation
  | canCall r => canCall (r.sanitized P)
  | reserve id r => reserve id (r.sanitized P)
  | commit id key tenant actual => commit id key tenant (actual.sanitized P)
  | op => op

def Schedule.sanitized (ops : Schedule) : Schedule := ops.map (fun x => (x.1, x.2.sanitized P))

def Ledger.sanitized (l : Ledger) : Ledger :=
  { l with reservations := l.reservations.mapValues (Reservation.sanitized P) }

def Step.sanitized {α : Type} (s : Step α) : Step α := ⟨s.answer, s.ledger.sanitized P, s.saves⟩

end Sanitized

namespace SortedMap

variable {α β : Type} (f : α → β) (m : SortedMap α) (k : String)

theorem mapValues_insert (v : α) : (m.insert k v).mapValues f = (m.mapValues f).insert k (f v) := by
  apply eq_of_get?_eq
  intro k'
  rw [get?_mapValues, get?_insert, get?_insert, get?_mapValues]
  split_ifs <;> rfl

theorem mapValues_erase : (m.erase k).mapValues f = (m.mapValues f).erase k := by
  apply eq_of_get?_eq
  intro k'
  rw [get?_mapValues, get?_erase, get?_erase, get?_mapValues]
  split_ifs <;> rfl

theorem contains_mapValues : (m.mapValues f).contains k = m.contains k := by
  rw [contains, get?_mapValues, Option.isSome_map]
  rfl

end SortedMap

section States

variable {P : Usage → Bool} {p : LedgerPolicy} {w : Window} {now : Instant}

theorem adjustCurrent_congr {f g : Bucket → Bucket} (h : ∀ b : Bucket, b.day = w.day → f b = g b)
    (s : LedgerState) (scope : Scope) (key : String) :
    s.adjustCurrent scope key w now f = s.adjustCurrent scope key w now g := by
  have hday : (s.current scope key w now).bucket.day = w.day := by
    rw [LedgerState.bucket_current, Cell.day_seen]
  rw [LedgerState.adjustCurrent, LedgerState.adjustCurrent, h _ hday]

theorem hold_sanitized (s : LedgerState) (key : String) (tenant : Option String) (u : Usage) :
    hold s key tenant (u.sanitized P) w now = hold s key tenant u w now := by
  simp only [hold, Usage.plus_sanitized]

theorem spend_sanitized (s : LedgerState) (key : LaneKey) (tenant : Option String) (u : Usage) :
    spend p key tenant (u.sanitized P) w now s = spend p key tenant u w now s := by
  have hspend : spendIn p key (u.sanitized P) w now = spendIn p key u w now := by
    funext s scope
    simp only [spendIn, HourlyLog.record, Usage.plus_sanitized]
  rw [spend, spend, hspend]

theorem release_sanitized {r : Reservation} (s : LedgerState)
    (h : (P r.estimate = true → r.estimate.ValidCost) ∨ r.day ≠ w.day) :
    release s (r.sanitized P) w now = release s r w now := by
  unfold release
  apply List.foldl_ext
  intro s scope _
  refine adjustCurrent_congr (fun b hb => ?_) s scope _
  rcases h with h | h
  · simp only [Reservation.sanitized, Usage.minus_sanitized _ h]
  · have hne : b.day ≠ r.day := fun heq => h (heq.symm.trans hb)
    simp only [Reservation.sanitized, hne, if_false]

theorem check_sanitized {r : Request} {limits : Limits} (s : LedgerState)
    (h : (P r.estimate = true → r.estimate.ValidCost) ∨ limits.lifetimeCost = none) :
    (r.sanitized P).check p w now limits s = r.check p w now limits s := by
  have hlatch : (r.sanitized P).checkLatch w now = r.checkLatch w now := rfl
  have hover : ∀ b d, p.exceedsDaily b (r.sanitized P).estimate d = p.exceedsDaily b r.estimate d := by
    intro b d
    simp only [LedgerPolicy.exceedsDaily, Request.sanitized, Usage.totalTokens_sanitized]
  have hown : (r.sanitized P).checkOwnDaily p w now = r.checkOwnDaily p w now := by
    funext d s
    simp only [Request.checkOwnDaily, hover]
    rfl
  have hshared : (r.sanitized P).checkSharedDaily p w now = r.checkSharedDaily p w now := by
    funext d s
    simp only [Request.checkSharedDaily, hover]
    rfl
  have hdaily : (r.sanitized P).checkDaily p w now = r.checkDaily p w now := by
    funext d s
    simp only [Request.checkDaily, hown, hshared]
    rfl
  unfold Request.check
  rw [hdaily, hlatch]
  cases hcap : limits.lifetimeCost with
  | none => rfl
  | some cap =>
    have hvalid := h.resolve_right (by simp [hcap])
    have hcost : (r.sanitized P).checkCost w now cap = r.checkCost w now cap := by
      funext scope s
      simp only [Request.checkCost, Request.sanitized, Usage.lt_add_sanitized_iff hvalid]
    have hlifetime : (r.sanitized P).checkLifetime w now cap = r.checkLifetime w now cap := by
      funext s
      simp only [Request.checkLifetime, hcost]
      rfl
    simp only [hlifetime]

end States

namespace Ledger

variable (P : Usage → Bool)

def ReleasesUnread (l : Ledger) (now : Instant) (id : String) : Prop :=
  ∀ r, l.reservations.get? id = some r →
    (P r.estimate = true → r.estimate.ValidCost) ∨ r.day ≠ (l.window now).day

/-- No invalid cost of a usage that is replaced is compared with a limit or taken away from what is
reserved. -/
def unread : Rule := fun l _ now op =>
  match op with
  | .canCall r => (P r.estimate = true → r.estimate.ValidCost) ∨
      (l.exemption? r.tenant = none →
        ∀ limits ∈ l.policy.limits.enforced? r.key, limits.lifetimeCost = none)
  | .commit id _ _ _ => l.ReleasesUnread P now id
  | .rollback id _ => l.ReleasesUnread P now id
  | _ => True

variable {P} (l : Ledger) (now : Instant)

theorem canCall_sanitized {r : Request} {last : Option (Instant × Request)}
    (h : unread P l last now (.canCall r)) :
    (l.sanitized P).canCall now (r.sanitized P) = (l.canCall now r).sanitized P := by
  have hexempt : (l.sanitized P).exemption? (r.sanitized P).tenant = l.exemption? r.tenant := rfl
  have hget : (l.sanitized P).policy.limits.get? (r.sanitized P).key =
    l.policy.limits.get? r.key := rfl
  unfold canCall
  rw [hexempt, hget]
  cases he : l.exemption? r.tenant with
  | some reason => rfl
  | none =>
    cases hl : l.policy.limits.get? r.key with
    | none => rfl
    | some limits =>
      dsimp only
      split_ifs with hstop
      · have hread := h.imp_right (fun h => h he limits (by
          simp [LimitsTable.enforced?, hl, hstop]))
        have hcheck : (r.sanitized P).check (l.sanitized P).policy ((l.sanitized P).window now) now
            limits (l.sanitized P).state = r.check l.policy (l.window now) now limits l.state :=
          check_sanitized l.state hread
        rw [hcheck]
        rfl
      · rfl

theorem reserve_sanitized (id : String) (r : Request) :
    (l.sanitized P).reserve now id (r.sanitized P) = (l.reserve now id r).sanitized P := by
  have hopen : (l.sanitized P).reservations.contains id = l.reservations.contains id :=
    SortedMap.contains_mapValues _ _ _
  unfold reserve
  rw [hopen]
  split_ifs
  · rfl
  · simp only [Step.sanitized, Ledger.sanitized, SortedMap.mapValues_insert]
    simp only [Request.sanitized, hold_sanitized]
    rfl

theorem release_sanitized_of_get? {id : String} {r : Reservation}
    (h : l.ReleasesUnread P now id) (hid : l.reservations.get? id = some r) :
    release l.state (r.sanitized P) (Window.at now l.policy.zone) now =
      release l.state r (Window.at now l.policy.zone) now := release_sanitized l.state (h r hid)

theorem commit_sanitized {id : String} (key : LaneKey) (tenant : Option String) (actual : Usage)
    (h : l.ReleasesUnread P now id) :
    (l.sanitized P).commit now id key tenant (actual.sanitized P) =
      (l.commit now id key tenant actual).sanitized P := by
  unfold commit
  simp only [Step.sanitized, Ledger.sanitized, SortedMap.get?_mapValues, SortedMap.mapValues_erase]
  cases hid : l.reservations.get? id with
  | none =>
    simp only [Option.map_none, spend_sanitized]
    rfl
  | some r =>
    simp only [Option.map_some, spend_sanitized, window, l.release_sanitized_of_get? now h hid]

theorem rollback_sanitized {id : String} (mode : RollbackMode) (h : l.ReleasesUnread P now id) :
    (l.sanitized P).rollback now id mode = (l.rollback now id mode).sanitized P := by
  have hget : (l.sanitized P).reservations.get? id =
      (l.reservations.get? id).map (Reservation.sanitized P) := SortedMap.get?_mapValues _ _ _
  unfold rollback
  rw [hget]
  cases hid : l.reservations.get? id with
  | none => rfl
  | some r =>
    have hrelease := l.release_sanitized_of_get? now h hid
    simp only [Option.map_some, Step.sanitized, Ledger.sanitized, SortedMap.mapValues_erase, window,
      hrelease]
    cases mode with
    | release => rfl
    | keep =>
      simp only [Reservation.sanitized, spend_sanitized]

theorem applyReport_sanitized (key : LaneKey) (start : Date) (reported : UInt64) :
    (l.sanitized P).applyReport now key start reported =
      (l.applyReport now key start reported).sanitized P := by
  have hstate : (l.sanitized P).state = l.state := rfl
  have hwindow : (l.sanitized P).window now = l.window now := rfl
  unfold applyReport
  rw [hstate, hwindow]
  dsimp only
  split
  · rfl
  · split_ifs <;> rfl

theorem usageRatio_sanitized (key : LaneKey) (tenant : Option String) :
    (l.sanitized P).usageRatio now key tenant = (l.usageRatio now key tenant).sanitized P := by
  have hget : (l.sanitized P).policy.limits.get? key = l.policy.limits.get? key := rfl
  unfold usageRatio
  rw [hget]
  cases l.policy.limits.get? key <;> rfl

theorem step_sanitized {op : Operation} {last : Option (Instant × Request)}
    (h : unread P l last now op) :
    (l.sanitized P).step now (op.sanitized P) = (l.step now op).sanitized P := by
  cases op with
  | canCall r => exact congrArg (Step.map Answer.decision) (l.canCall_sanitized now h)
  | reserve id r => exact congrArg (Step.map (fun _ => Answer.done)) (l.reserve_sanitized now id r)
  | commit id key tenant actual =>
    exact congrArg (Step.map Answer.cost) (l.commit_sanitized now key tenant actual h)
  | rollback id mode => exact congrArg (Step.map (fun _ => Answer.done)) (l.rollback_sanitized now mode h)
  | toggleUnlimited enabled tenant => rfl
  | applyReport key start reported =>
    exact congrArg (Step.map Answer.ofReport) (l.applyReport_sanitized now key start reported)
  | usageRatio key tenant =>
    exact congrArg (Step.map Answer.ratio) (l.usageRatio_sanitized now key tenant)
  | _ => rfl

theorem run_sanitized {l : Ledger} {ops : Schedule} {last : Option (Instant × Request)}
    (h : (unread P).Holds l last ops) :
    (l.sanitized P).run (ops.sanitized P) = ((l.run ops).1.sanitized P, (l.run ops).2) := by
  induction ops generalizing l last with
  | nil => rfl
  | cons x rest ih =>
    obtain ⟨now, op⟩ := x
    obtain ⟨hop, hrest⟩ := h
    have hcons : ∀ l : Ledger, ∀ op rest, l.run ((now, op) :: rest) =
        (((l.step now op).ledger.run rest).1,
          (l.step now op).answer :: ((l.step now op).ledger.run rest).2) := fun _ _ _ => rfl
    have hops : Schedule.sanitized P ((now, op) :: rest) =
        (now, op.sanitized P) :: Schedule.sanitized P rest := rfl
    have hstep : ((l.step now op).sanitized P).ledger = (l.step now op).ledger.sanitized P := rfl
    rw [hops, hcons, hcons, l.step_sanitized now hop, hstep, ih hrest]
    rfl

end Ledger

end LaneQuota
