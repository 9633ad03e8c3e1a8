import LaneQuota.Proofs.Ledger.Looking

namespace LaneQuota

open Ledger

theorem foldl_charged {α : Type} (view : LedgerState → Scope → String → α)
    {step : LedgerState → Scope → LedgerState} {key : String} {f : α → α}
    (h : ∀ s scope scope' key', view (step s scope) scope' key' =
      if scope = scope' ∧ key = key' then f (view s scope key) else view s scope' key')
    (tenant : Option String) (s : LedgerState) (scope : Scope) (key' : String) :
    view ((Scope.charged tenant).foldl step s) scope key' =
      if scope ∈ Scope.charged tenant ∧ key = key' then f (view s scope key)
      else view s scope key' := by
  cases tenant with
  | none =>
    rw [Scope.charged, List.foldl_cons, List.foldl_nil, h]
    by_cases hs : Scope.shared = scope
    · subst hs
      simp
    · simp [hs, Ne.symm hs]
  | some t =>
    rw [Scope.charged, List.foldl_cons, List.foldl_cons, List.foldl_nil, h, h, h]
    by_cases hs : Scope.shared = scope
    · subst hs
      simp
    · by_cases ht : Scope.tenant t = scope
      · subst ht
        simp
      · simp [hs, ht, Ne.symm hs, Ne.symm ht]

theorem foldl_unchanged {α : Type} (view : LedgerState → α)
    {step : LedgerState → Scope → LedgerState} (h : ∀ s scope, view (step s scope) = view s)
    (scopes : List Scope) (s : LedgerState) : view (scopes.foldl step s) = view s := by
  induction scopes generalizing s with
  | nil => rfl
  | cons scope rest ih => rw [List.foldl_cons, ih, h]

namespace Bucket

def withHold (b : Bucket) (estimate : Usage) (now : Instant) : Bucket :=
  { b with reserved := b.reserved.plus estimate, lastUpdate := now }

def withoutHold (b : Bucket) (r : Reservation) (now : Instant) : Bucket :=
  { b with
    reserved := if b.day = r.day then b.reserved.minus r.estimate else b.reserved
    lastUpdate := now }

def withUse (b : Bucket) (usage : Usage) (now : Instant) : Bucket :=
  { b with used := b.used.plus usage, lastUpdate := now }

def withReport (b : Bucket) (drift : UInt64) (now : Instant) : Bucket :=
  { b with
    used := { b.used with tokensOut := addTokens b.used.tokensOut drift }
    lastUpdate := now }

end Bucket

section Latch

variable (limits : Option Limits) (cost : Float) (b : Bucket)

theorem latchedUnder_eq : latchedUnder limits cost b = b ∨
    latchedUnder limits cost b = { b with hardStopped := true } := by
  cases limits with
  | none => exact Or.inl rfl
  | some limits =>
    unfold latchedUnder latched
    dsimp only
    split_ifs
    · exact Or.inr rfl
    · exact Or.inl rfl

@[simp] theorem day_latchedUnder : (latchedUnder limits cost b).day = b.day := by
  rcases latchedUnder_eq limits cost b with h | h <;> rw [h]

@[simp] theorem used_latchedUnder : (latchedUnder limits cost b).used = b.used := by
  rcases latchedUnder_eq limits cost b with h | h <;> rw [h]

@[simp] theorem reserved_latchedUnder : (latchedUnder limits cost b).reserved = b.reserved := by
  rcases latchedUnder_eq limits cost b with h | h <;> rw [h]

end Latch

namespace Cell

variable (c : Cell) (w : Window) (now : Instant)

def holding (estimate : Usage) : Cell := c.adjust w now (fun b => b.withHold estimate now)

def releasing (r : Reservation) : Cell := c.adjust w now (fun b => b.withoutHold r now)

def spending (limits : Option Limits) (usage : Usage) : Cell :=
  c.adjust w now (fun b =>
    latchedUnder limits (archivedCost (c.archive w)) (b.withUse usage now))

def reporting (limits : Option Limits) (drift : UInt64) : Cell :=
  c.adjust w now (fun b =>
    latchedUnder limits (archivedCost (c.archive w)) (b.withReport drift now))

def known? (start : String) : Option UInt64 :=
  (archivedTokens? (c.archive w) start).map
    (fun archived => addTokens archived (c.seen w now).used.totalTokens)

theorem spending_releasing (r : Reservation) (limits : Option Limits) (usage : Usage) :
    (c.releasing w now r).spending w now limits usage = c.adjust w now (fun b =>
      latchedUnder limits (archivedCost (c.archive w)) ((b.withoutHold r now).withUse usage now)) := by
  have hday : ∀ b : Bucket, (b.withoutHold r now).day = b.day := fun _ => rfl
  rw [spending, releasing, c.archive_adjust hday, c.adjust_adjust hday]

end Cell

theorem LedgerState.history_current (s : LedgerState) (scope : Scope) (key : String) (w : Window)
    (now : Instant) :
    (s.current scope key w now).state.history scope key = (s.cell scope key).archive w := by
  have h := s.cell_current scope scope key key w now
  rw [if_pos ⟨rfl, rfl⟩] at h
  exact congrArg Cell.history h

section Charging

variable (tenant : Option String) (s : LedgerState) (w : Window) (now : Instant) (scope : Scope)

theorem cell_hold (key : String) (estimate : Usage) (key' : String) :
    (hold s key tenant estimate w now).cell scope key' =
      if scope ∈ Scope.charged tenant ∧ key = key' then (s.cell scope key).holding w now estimate
      else s.cell scope key' :=
  foldl_charged LedgerState.cell (f := fun c => c.holding w now estimate)
    (fun s scope scope' key' => s.cell_adjustCurrent scope scope' key key' w now _)
    tenant s scope key'

theorem exemptions_hold (key : String) (estimate : Usage) :
    (hold s key tenant estimate w now).exemptions = s.exemptions :=
  foldl_unchanged LedgerState.exemptions
    (fun s scope => s.exemptions_adjustCurrent scope key w now _) _ s

theorem cell_release (r : Reservation) (key' : String) :
    (release s r w now).cell scope key' =
      if scope ∈ Scope.charged r.tenant ∧ r.key.text = key' then
        (s.cell scope r.key.text).releasing w now r
      else s.cell scope key' :=
  foldl_charged LedgerState.cell (f := fun c => c.releasing w now r)
    (fun s scope scope' key' => s.cell_adjustCurrent scope scope' r.key.text key' w now _)
    r.tenant s scope key'

theorem exemptions_release (r : Reservation) :
    (release s r w now).exemptions = s.exemptions :=
  foldl_unchanged LedgerState.exemptions
    (fun s scope => s.exemptions_adjustCurrent scope r.key.text w now _) _ s

variable (p : LedgerPolicy) (key : LaneKey) (usage : Usage)

theorem cell_spendIn (scope' : Scope) (key' : String) :
    (spendIn p key usage w now s scope).cell scope' key' =
      if scope = scope' ∧ key.text = key' then
        (s.cell scope key.text).spending w now (p.limits.enforced? key) usage
      else s.cell scope' key' := by
  simp only [spendIn, LedgerState.cell_setHourly, LedgerState.cell_setBucket,
    LedgerState.cell_current, LedgerState.bucket_current, LedgerState.historyCost_current, and_self,
    if_true]
  split_ifs <;> rfl

theorem exemptions_spendIn :
    (spendIn p key usage w now s scope).exemptions = s.exemptions := by
  simp only [spendIn, LedgerState.exemptions_setHourly, LedgerState.exemptions_setBucket,
    LedgerState.exemptions_current]

theorem cell_spend (key' : String) :
    (spend p key tenant usage w now s).cell scope key' =
      if scope ∈ Scope.charged tenant ∧ key.text = key' then
        (s.cell scope key.text).spending w now (p.limits.enforced? key) usage
      else s.cell scope key' :=
  foldl_charged LedgerState.cell (f := fun c => c.spending w now (p.limits.enforced? key) usage)
    (fun s scope scope' key' => cell_spendIn s w now scope p key usage scope' key')
    tenant s scope key'

theorem exemptions_spend : (spend p key tenant usage w now s).exemptions = s.exemptions :=
  foldl_unchanged LedgerState.exemptions
    (fun s scope => exemptions_spendIn s w now scope p key usage) _ s

end Charging

namespace Ledger

variable (l : Ledger) (now : Instant)

theorem cell_toggleUnlimited (enabled : Bool) (tenant : Option String) (scope : Scope)
    (key : String) :
    (l.toggleUnlimited enabled tenant).ledger.state.cell scope key = l.state.cell scope key := by
  unfold toggleUnlimited
  cases tenant with
  | none => cases scope <;> rfl
  | some t => cases enabled <;> cases scope <;> rfl

section Reports

variable (key : LaneKey) (start : Date) (reported : UInt64)

def known? : Option UInt64 :=
  (l.state.cell .shared key.text).known? (l.window now) now start.text

def lookedAt : Ledger :=
  { l with state := (l.state.current .shared key.text (l.window now) now).state }

def raised (drift : UInt64) : Ledger :=
  let c := l.state.cell .shared key.text
  { l with
    state := (l.lookedAt now key).state.setBucket .shared key.text
      (latchedUnder (l.policy.limits.enforced? key) (archivedCost (c.archive (l.window now)))
        ((c.seen (l.window now) now).withReport drift now)) }

inductive Reported : Step (Except Fault SyncOutcome) → Prop
  | failed (hknown : l.known? now key start = none) :
      Reported ⟨.error .overflow, l.lookedAt now key, false⟩
  | behind {known : UInt64} (hknown : l.known? now key start = some known)
      (hle : reported ≤ known) :
      Reported ⟨.ok ⟨false, 0⟩, l.lookedAt now key,
        (l.state.current .shared key.text (l.window now) now).rolled⟩
  | ahead {known : UInt64} (hknown : l.known? now key start = some known)
      (hlt : ¬reported ≤ known) :
      Reported ⟨.ok ⟨true, reported - known⟩, l.raised now key (reported - known), true⟩

theorem reported_applyReport :
    l.Reported now key start reported (l.applyReport now key start reported) := by
  simp only [applyReport, LedgerState.history_current, LedgerState.bucket_current,
    LedgerState.historyCost_current]
  cases h : archivedTokens? ((l.state.cell .shared key.text).archive (l.window now)) start.text with
  | none => exact .failed (by rw [known?, Cell.known?, h, Option.map_none])
  | some archived =>
    dsimp only
    split_ifs with hle
    · exact .behind (by rw [known?, Cell.known?, h, Option.map_some]) hle
    · exact .ahead (by rw [known?, Cell.known?, h, Option.map_some]) hle

theorem looked_lookedAt : Looked (l.window now) now l.state (l.lookedAt now key).state :=
  Looked.current _ _ _ _ _

theorem cell_lookedAt (scope : Scope) (key' : String) :
    (l.lookedAt now key).state.cell scope key' =
      if Scope.shared = scope ∧ key.text = key' then
        (l.state.cell .shared key.text).moved (l.window now) now
      else l.state.cell scope key' := l.state.cell_current _ _ _ _ _ _

theorem cell_raised (drift : UInt64) (scope : Scope) (key' : String) :
    (l.raised now key drift).state.cell scope key' =
      if Scope.shared = scope ∧ key.text = key' then
        (l.state.cell .shared key.text).reporting (l.window now) now
          (l.policy.limits.enforced? key) drift
      else l.state.cell scope key' := by
  simp only [raised, LedgerState.cell_setBucket, cell_lookedAt, and_self, if_true]
  split_ifs <;> rfl

theorem exemptions_raised (drift : UInt64) :
    (l.raised now key drift).state.exemptions = l.state.exemptions :=
  (LedgerState.exemptions_setBucket _ _ _ _).trans (l.looked_lookedAt now key).exemptions

end Reports

end Ledger

end LaneQuota
