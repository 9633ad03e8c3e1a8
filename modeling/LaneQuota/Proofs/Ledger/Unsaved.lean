import LaneQuota.Proofs.Ledger.Rooms

namespace LaneQuota

open Ledger

structure Bucket.Unused (b : Bucket) : Prop where
  used : b.used = Usage.zero
  reserved : b.reserved = Usage.zero
  latch : b.hardStopped = false

theorem Bucket.unused_fresh (w : Window) (now : Instant) : (Bucket.fresh w now).Unused :=
  ⟨rfl, rfl, rfl⟩

namespace LedgerState

structure Lacks (stored s : LedgerState) : Prop where
  bucket : ∀ scope key, stored.bucket? scope key = s.bucket? scope key ∨
    stored.bucket? scope key = none ∧ ∀ b, s.bucket? scope key = some b → b.Unused
  history : ∀ scope key, stored.history? scope key = s.history? scope key
  hourly : ∀ scope key, stored.hourly? scope key = s.hourly? scope key
  exemptions : stored.exemptions = s.exemptions
  rooms : ∀ t, stored.rooms t ≤ s.rooms t
  logged : ∀ t, (stored.rooms t).2.2 = (s.rooms t).2.2

namespace Lacks

variable {s s' s'' : LedgerState}

theorem refl (s : LedgerState) : s.Lacks s :=
  ⟨fun _ _ => Or.inl rfl, fun _ _ => rfl, fun _ _ => rfl, rfl, fun _ => le_rfl, fun _ => rfl⟩

theorem trans (h : s.Lacks s') (h' : s'.Lacks s'') : s.Lacks s'' := by
  refine ⟨fun scope key => ?_, fun scope key => (h.history scope key).trans (h'.history scope key),
    fun scope key => (h.hourly scope key).trans (h'.hourly scope key),
    h.exemptions.trans h'.exemptions, fun t => (h.rooms t).trans (h'.rooms t),
    fun t => (h.logged t).trans (h'.logged t)⟩
  rcases h'.bucket scope key with heq | ⟨hnone, hunused⟩
  · rw [← heq]
    exact h.bucket scope key
  · rcases h.bucket scope key with heq | ⟨hnone', -⟩
    · exact Or.inr ⟨heq.trans hnone, hunused⟩
    · exact Or.inr ⟨hnone', hunused⟩

end Lacks

variable (s : LedgerState) (scope : Scope) (key : String) (w : Window) (now : Instant)

theorem lacks_makeRoom : s.Lacks (s.makeRoom scope) := by
  refine ⟨fun scope' key' => Or.inl (s.bucket?_makeRoom scope scope' key').symm,
    fun scope' key' => (s.history?_makeRoom scope scope' key').symm,
    fun scope' key' => (s.hourly?_makeRoom scope scope' key').symm,
    (s.exemptions_makeRoom scope).symm, fun t => ?_, fun t => ?_⟩
  · rw [rooms_makeRoom]
    split_ifs
    · exact ⟨Bool.le_true _, Bool.le_true _, le_rfl⟩
    · exact le_rfl
  · rw [rooms_makeRoom]
    split_ifs <;> rfl

theorem lacks_setBucket (hnone : s.bucket? scope key = none) {b : Bucket} (hb : b.Unused) :
    s.Lacks (s.setBucket scope key b) := by
  refine ⟨fun scope' key' => ?_, fun scope' key' => (s.history?_setBucket scope scope' key key' b).symm,
    fun scope' key' => (s.hourly?_setBucket scope scope' key key' b).symm,
    (s.exemptions_setBucket scope key b).symm, fun t => ?_, fun t => ?_⟩
  · rw [bucket?_setBucket]
    split_ifs with hc
    · obtain ⟨rfl, rfl⟩ := hc
      exact Or.inr ⟨hnone, fun b' hb' => Option.some.inj hb' ▸ hb⟩
    · exact Or.inl rfl
  · rw [rooms_setBucket]
    split_ifs
    · exact ⟨Bool.le_true _, le_rfl⟩
    · exact le_rfl
  · rw [rooms_setBucket]
    split_ifs <;> rfl

theorem lacks_current (h : (s.current scope key w now).rolled = false) :
    s.Lacks (s.current scope key w now).state := by
  have hroom := s.lacks_makeRoom scope
  unfold current at h ⊢
  dsimp only at h ⊢
  cases hb : (s.makeRoom scope).bucket? scope key with
  | none => exact hroom.trans (lacks_setBucket _ _ _ hb (Bucket.unused_fresh w now))
  | some b =>
    rw [hb] at h
    dsimp only at h ⊢
    split_ifs at h ⊢
    exact hroom

end LedgerState

namespace Check

def Unsaved (s : LedgerState) (c : Check) : Prop := c.rolled = false → s.Lacks c.state

variable {s : LedgerState}

theorem unsaved_denyIf (s : LedgerState) (scope : Scope) (key : String) (w : Window) (now : Instant)
    (condition : Bool) (budget : ExhaustedBudget) (reason : String) :
    (denyIf (s.current scope key w now) condition budget reason).Unsaved s :=
  s.lacks_current scope key w now

theorem Unsaved.andThen {c : Check} {next : LedgerState → Check} (hc : c.Unsaved s)
    (hn : ∀ s', (next s').Unsaved s') : (c.andThen next).Unsaved s := by
  unfold Unsaved Check.andThen at *
  cases c.denial with
  | some d => exact hc
  | none =>
    intro h
    rw [Bool.or_eq_false_iff] at h
    exact (hc h.1).trans (hn _ h.2)

end Check

namespace Request

variable (r : Request) (p : LedgerPolicy) (w : Window) (now : Instant) (s : LedgerState)

theorem unsaved_checkDaily (daily : UInt64) : (r.checkDaily p w now daily s).Unsaved s := by
  have hown : (r.checkOwnDaily p w now daily s).Unsaved s := Check.unsaved_denyIf s _ _ _ _ _ _ _
  unfold checkDaily
  split_ifs
  · exact hown.andThen (fun s => Check.unsaved_denyIf s _ _ _ _ _ _ _)
  · exact hown

theorem unsaved_checkLifetime (cap : Float) : (r.checkLifetime w now cap s).Unsaved s := by
  have hcost : ∀ scope s, (r.checkCost w now cap scope s).Unsaved s :=
    fun _ s => Check.unsaved_denyIf s _ _ _ _ _ _ _
  unfold checkLifetime
  split_ifs
  · exact (hcost _ s).andThen (hcost .shared)
  · exact hcost _ s

theorem unsaved_check (limits : Limits) : (r.check p w now limits s).Unsaved s := by
  have hlatch : (r.checkLatch w now s).Unsaved s := Check.unsaved_denyIf s _ _ _ _ _ _ _
  have hdaily := fun d => hlatch.andThen (fun s => r.unsaved_checkDaily p w now s d)
  unfold check
  cases limits.dailyTokens with
  | none =>
    cases limits.lifetimeCost with
    | none => exact hlatch
    | some cap => exact hlatch.andThen (fun s => r.unsaved_checkLifetime w now s cap)
  | some d =>
    cases limits.lifetimeCost with
    | none => exact hdaily d
    | some cap => exact (hdaily d).andThen (fun s => r.unsaved_checkLifetime w now s cap)

end Request

namespace Ledger

variable (l : Ledger) (now : Instant)

theorem lacks_canCall (r : Request) (h : (l.canCall now r).saves = false) :
    l.state.Lacks (l.canCall now r).ledger.state := by
  unfold canCall at h ⊢
  split at h
  · exact .refl _
  · split at h
    · exact .refl _
    · split_ifs at h ⊢
      · exact r.unsaved_check l.policy _ now l.state _ h
      · exact .refl _

theorem lacks_applyReport (key : LaneKey) (start : Date) (reported : UInt64)
    (hdone : (Answer.ofReport (l.applyReport now key start reported).answer).isFailure = false)
    (h : (l.applyReport now key start reported).saves = false) :
    l.state.Lacks (l.applyReport now key start reported).ledger.state := by
  have hx := l.reported_applyReport now key start reported
  generalize l.applyReport now key start reported = x at hdone h hx ⊢
  cases hx with
  | failed _ => contradiction
  | behind _ _ => exact l.state.lacks_current _ _ _ _ h
  | ahead _ _ => contradiction

theorem lacks_step (op : Operation) (hdone : (l.step now op).answer.isFailure = false)
    (h : (l.step now op).saves = false) : l.state.Lacks (l.step now op).ledger.state := by
  cases op with
  | canCall r => exact l.lacks_canCall now r h
  | reserve id r =>
    change (l.reserve now id r).saves = false at h
    change l.state.Lacks (l.reserve now id r).ledger.state
    unfold reserve at h ⊢
    split_ifs at h ⊢
    exact .refl _
  | commit id key tenant actual => contradiction
  | rollback id mode =>
    change (l.rollback now id mode).saves = false at h
    change l.state.Lacks (l.rollback now id mode).ledger.state
    unfold rollback at h ⊢
    cases hid : l.reservations.get? id with
    | none => exact .refl _
    | some r => simp [hid] at h
  | toggleUnlimited enabled tenant => contradiction
  | applyReport key start reported => exact l.lacks_applyReport now key start reported hdone h
  | currentUsage key tenant => exact l.state.lacks_current _ _ _ _ h
  | reservedUsage key tenant => exact l.state.lacks_current _ _ _ _ h
  | usageRatio key tenant =>
    change (l.usageRatio now key tenant).saves = false at h
    change l.state.Lacks (l.usageRatio now key tenant).ledger.state
    unfold usageRatio at h ⊢
    split at h
    · exact .refl _
    · exact l.state.lacks_current _ _ _ _ h
  | remainingBudget key tenant => exact l.state.lacks_current _ _ _ _ h
  | _ => exact .refl _

theorem looksTo_of_isFailure {op : Operation} (h : (l.step now op).answer.isFailure = true) :
    (l.step now op).saves = false ∧ l.LooksTo now (l.step now op).ledger := by
  cases op with
  | applyReport key start reported =>
    change (Answer.ofReport (l.applyReport now key start reported).answer).isFailure = true at h
    change (l.applyReport now key start reported).saves = false ∧
      l.LooksTo now (l.applyReport now key start reported).ledger
    have hx := l.reported_applyReport now key start reported
    generalize l.applyReport now key start reported = x at h hx ⊢
    cases hx with
    | failed _ => exact ⟨rfl, _, l.looked_lookedAt now key, rfl⟩
    | behind _ _ => contradiction
    | ahead _ _ => contradiction
  | _ => contradiction

end Ledger

end LaneQuota
