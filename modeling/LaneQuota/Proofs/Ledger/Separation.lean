import LaneQuota.Proofs.Ledger.Queries
import LaneQuota.Proofs.Ledger.Callers

/-!
# Lanes do not interfere

States agree on a lane if they hold and have logged the same for it. Operations on other lanes leave
a state in agreement with itself, and those on the lane itself give the same answers in states that
agree. So a lane is answered as if the others were not there.
-/

namespace LaneQuota

open Ledger

/-! ## States that agree on a lane -/

namespace LedgerState

structure Agree (key : String) (s s' : LedgerState) : Prop where
  exemptions : s.exemptions = s'.exemptions
  cell : ∀ scope, s.cell scope key = s'.cell scope key
  hourly : ∀ scope, s.hourly? scope key = s'.hourly? scope key

namespace Agree

variable {key : String} {s s' s'' : LedgerState} {w : Window} {now : Instant}

theorem refl (key : String) (s : LedgerState) : s.Agree key s := ⟨rfl, fun _ => rfl, fun _ => rfl⟩

theorem trans (h : s.Agree key s') (h' : s'.Agree key s'') : s.Agree key s'' :=
  ⟨h.exemptions.trans h'.exemptions, fun scope => (h.cell scope).trans (h'.cell scope),
    fun scope => (h.hourly scope).trans (h'.hourly scope)⟩

theorem symm (h : s.Agree key s') : s'.Agree key s :=
  ⟨h.exemptions.symm, fun scope => (h.cell scope).symm, fun scope => (h.hourly scope).symm⟩

/-! ### Other lanes -/

section Other

variable {other : String} (hne : other ≠ key)

include hne

theorem current_other (s : LedgerState) (scope : Scope) :
    s.Agree key (s.current scope other w now).state := by
  refine ⟨(s.exemptions_current scope other w now).symm, fun scope' => ?_, fun scope' => ?_⟩
  · rw [s.cell_current, if_neg (fun h => hne h.2)]
  · rw [s.hourly?_current]

theorem hold_other (s : LedgerState) (tenant : Option String) (estimate : Usage) :
    s.Agree key (hold s other tenant estimate w now) := by
  refine ⟨(exemptions_hold tenant s w now other estimate).symm, fun scope => ?_, fun scope => ?_⟩
  · rw [cell_hold, if_neg (fun h => hne h.2)]
  · rw [hourly?_hold]

end Other

theorem release_other {r : Reservation} (hne : r.key.text ≠ key) (s : LedgerState) :
    s.Agree key (release s r w now) := by
  refine ⟨(exemptions_release s w now r).symm, fun scope => ?_, fun scope => ?_⟩
  · rw [cell_release, if_neg (fun h => hne h.2)]
  · rw [hourly?_release]

theorem spend_other {lane : LaneKey} (hne : lane.text ≠ key) (s : LedgerState) (p : LedgerPolicy)
    (tenant : Option String) (usage : Usage) :
    s.Agree key (spend p lane tenant usage w now s) := by
  refine ⟨(exemptions_spend tenant s w now p lane usage).symm, fun scope => ?_, fun scope => ?_⟩
  · rw [cell_spend, if_neg (fun h => hne h.2)]
  · rw [hourly?_spend, if_neg (fun h => hne h.2)]

/-! ### The lane itself -/

theorem current (h : s.Agree key s') (scope : Scope) :
    (s.current scope key w now).state.Agree key (s'.current scope key w now).state := by
  refine ⟨?_, fun scope' => ?_, fun scope' => ?_⟩
  · rw [s.exemptions_current, s'.exemptions_current, h.exemptions]
  · rw [s.cell_current, s'.cell_current, h.cell, h.cell]
  · rw [s.hourly?_current, s'.hourly?_current, h.hourly]

theorem tellAlike (key : String) (w : Window) (now : Instant) :
    TellAlike (Agree key) key w now where
  current scope h := h.current scope
  account {s s'} scope h := by rw [s.bucket_current, s'.bucket_current, h.cell]
  historyCost {s s'} scope h := by rw [s.historyCost_current, s'.historyCost_current, h.cell]

theorem hold (h : s.Agree key s') (tenant : Option String) (estimate : Usage) :
    (Ledger.hold s key tenant estimate w now).Agree key
      (Ledger.hold s' key tenant estimate w now) := by
  refine ⟨?_, fun scope => ?_, fun scope => ?_⟩
  · rw [exemptions_hold, exemptions_hold, h.exemptions]
  · rw [cell_hold, cell_hold, h.cell]
  · rw [hourly?_hold, hourly?_hold, h.hourly]

theorem release (h : s.Agree key s') (r : Reservation) (w : Window) (now : Instant) :
    (Ledger.release s r w now).Agree key (Ledger.release s' r w now) := by
  refine ⟨?_, fun scope => ?_, fun scope => ?_⟩
  · rw [exemptions_release, exemptions_release, h.exemptions]
  · rw [cell_release, cell_release, h.cell]
    split_ifs with hkey
    · rw [hkey.2, h.cell]
    · rfl
  · rw [hourly?_release, hourly?_release, h.hourly]

theorem spend {lane : LaneKey} (h : s.Agree lane.text s') (p : LedgerPolicy)
    (tenant : Option String) (usage : Usage) (w : Window) (now : Instant) :
    (Ledger.spend p lane tenant usage w now s).Agree lane.text
      (Ledger.spend p lane tenant usage w now s') := by
  refine ⟨?_, fun scope => ?_, fun scope => ?_⟩
  · rw [exemptions_spend, exemptions_spend, h.exemptions]
  · rw [cell_spend, cell_spend, h.cell]
  · rw [hourly?_spend, hourly?_spend, h.hourly]

theorem committedCost (h : s.Agree key s') (scope : Scope) :
    Ledger.committedCost s scope key = Ledger.committedCost s' scope key := by
  have hbucket : s.bucket? scope key = s'.bucket? scope key := congrArg Cell.bucket (h.cell scope)
  rw [Ledger.committedCost, Ledger.committedCost, hbucket]

end Agree

end LedgerState

/-! ## Operations on lanes -/

def Operation.target? (lanes : String → LaneKey) : Operation → Option LaneKey
  | canCall r => some r.key
  | reserve _ r => some r.key
  | commit _ key _ _ => some key
  | rollback id _ => some (lanes id)
  | applyReport key _ _ => some key
  | currentUsage key _ => some key
  | reservedUsage key _ => some key
  | usageRatio key _ => some key
  | remainingBudget key _ => some key
  | history key _ => some key
  | hourly key _ => some key
  | _ => none

def Operation.Matches (lanes : String → LaneKey) : Operation → Prop
  | reserve id r => r.key = lanes id
  | commit id key _ _ => key = lanes id
  | _ => True

instance (lanes : String → LaneKey) : (op : Operation) → Decidable (op.Matches lanes)
  | .reserve id r => inferInstanceAs (Decidable (r.key = lanes id))
  | .commit id key _ _ => inferInstanceAs (Decidable (key = lanes id))
  | .canCall _ | .rollback _ _ | .toggleUnlimited _ _ | .applyReport _ _ _ | .currentUsage _ _
  | .reservedUsage _ _ | .usageRatio _ _ | .remainingBudget _ _ | .history _ _ | .hourly _ _
  | .snapshot | .isUnlimited _ | .unlimitedTenants | .reportRange _
  | .orphanedCommits => inferInstanceAs (Decidable True)

namespace Ledger

variable {lanes : String → LaneKey} {l l' l'' : Ledger} {now : Instant} {op : Operation}
  {lane k : LaneKey}

def Matches (lanes : String → LaneKey) (l : Ledger) : Prop :=
  ∀ id r, l.reservations.get? id = some r → r.key = lanes id

theorem Matches.step (h : l.Matches lanes) (hop : op.Matches lanes) :
    (l.step now op).ledger.Matches lanes := by
  intro id r hr
  rcases (l.effect_step now op).reservation hr with hr | ⟨q, rfl, rfl⟩
  · exact h id r hr
  · exact hop

structure Agree (lanes : String → LaneKey) (k : LaneKey) (l l' : Ledger) : Prop where
  policy : l.policy = l'.policy
  state : l.state.Agree k.text l'.state
  reservations : ∀ id, lanes id = k → l.reservations.get? id = l'.reservations.get? id

namespace Agree

theorem refl (lanes : String → LaneKey) (k : LaneKey) (l : Ledger) : l.Agree lanes k l :=
  ⟨rfl, .refl _ _, fun _ _ => rfl⟩

theorem symm (h : l.Agree lanes k l') : l'.Agree lanes k l :=
  ⟨h.policy.symm, h.state.symm, fun id hid => (h.reservations id hid).symm⟩

theorem trans (h : l.Agree lanes k l') (h' : l'.Agree lanes k l'') : l.Agree lanes k l'' :=
  ⟨h.policy.trans h'.policy, h.state.trans h'.state,
    fun id hid => (h.reservations id hid).trans (h'.reservations id hid)⟩

theorem window (h : l.Agree lanes k l') (now : Instant) : l.window now = l'.window now := by
  rw [Ledger.window, Ledger.window, h.policy]

end Agree

/-! ### Operations on other lanes -/

section Other

theorem agree_of_looksTo (h : l.LooksTo now l') (hstate : l.state.Agree k.text l'.state) :
    l.Agree lanes k l' := by
  obtain ⟨s, -, rfl⟩ := h
  exact ⟨rfl, hstate, fun _ _ => rfl⟩

theorem agree_canCall_other {r : Request} (hne : r.key.text ≠ k.text) :
    l.state.Agree k.text (l.canCall now r).ledger.state :=
  keeps_canCall (fun s => l.state.Agree k.text s) r
    (fun s scope h => h.trans (.current_other hne s scope)) (.refl _ _)

theorem agree_usageRatio_other (hne : lane.text ≠ k.text) (tenant : Option String) :
    l.state.Agree k.text (l.usageRatio now lane tenant).ledger.state := by
  unfold usageRatio
  split
  · exact .refl _ _
  · exact .current_other hne _ _

theorem agree_asked_other (hne : lane.text ≠ k.text) (htarget : op.target? lanes = some lane)
    (hask : op.asks = true) : l.Agree lanes k (l.step now op).ledger := by
  refine agree_of_looksTo (l.looksTo_step now hask) ?_
  cases op with
  | canCall r =>
    obtain rfl := Option.some.inj htarget
    exact agree_canCall_other hne
  | currentUsage key tenant =>
    obtain rfl := Option.some.inj htarget
    exact .current_other hne _ _
  | reservedUsage key tenant =>
    obtain rfl := Option.some.inj htarget
    exact .current_other hne _ _
  | usageRatio key tenant =>
    obtain rfl := Option.some.inj htarget
    exact agree_usageRatio_other hne tenant
  | remainingBudget key tenant =>
    obtain rfl := Option.some.inj htarget
    exact .current_other hne _ _
  | history _ _ => exact .refl _ _
  | hourly _ _ => exact .refl _ _
  | _ => contradiction

theorem agree_reserve_other {id : String} {r : Request} (hne : r.key.text ≠ k.text)
    (hid : lanes id ≠ k) : l.Agree lanes k (l.reserve now id r).ledger := by
  unfold reserve
  split_ifs
  · exact .refl _ _ _
  · refine ⟨rfl, .hold_other hne _ _ _, fun id' hid' => ?_⟩
    rw [SortedMap.get?_insert_of_ne]
    rintro rfl
    exact hid hid'

theorem get?_erase_other (rs : SortedMap Reservation) {id : String} (hid : lanes id ≠ k) :
    ∀ id', lanes id' = k → rs.get? id' = (rs.erase id).get? id' := by
  intro id' hid'
  rw [SortedMap.get?_erase, if_neg]
  rintro rfl
  exact hid hid'

theorem agree_commit_other (hl : l.Matches lanes) {id : String} (hne : lane.text ≠ k.text)
    (hid : lanes id ≠ k) (hlane : lane = lanes id) (tenant : Option String) (actual : Usage) :
    l.Agree lanes k (l.commit now id lane tenant actual).ledger := by
  unfold commit
  refine ⟨rfl, ?_, get?_erase_other _ hid⟩
  cases hr : l.reservations.get? id with
  | none => exact .spend_other hne _ _ _ _
  | some r =>
    have hrelease : r.key.text ≠ k.text := by rwa [hl id r hr, ← hlane]
    exact (LedgerState.Agree.release_other hrelease _).trans (.spend_other hne _ _ _ _)

theorem agree_rollback_other (hl : l.Matches lanes) {id : String} (hne : (lanes id).text ≠ k.text)
    (hid : lanes id ≠ k) (mode : RollbackMode) :
    l.Agree lanes k (l.rollback now id mode).ledger := by
  unfold rollback
  cases hr : l.reservations.get? id with
  | none => exact .refl _ _ _
  | some r =>
    rw [← hl id r hr] at hne
    refine ⟨rfl, ?_, get?_erase_other _ hid⟩
    cases mode with
    | release => exact .release_other hne _
    | keep => exact (LedgerState.Agree.release_other hne _).trans (.spend_other hne _ _ _ _)

theorem agree_applyReport_other (hne : lane.text ≠ k.text) (start : Date) (reported : UInt64) :
    l.Agree lanes k (l.applyReport now lane start reported).ledger := by
  rw [ledger_applyReport]
  refine ⟨rfl, ⟨?_, fun scope => ?_, fun scope => ?_⟩, fun _ _ => rfl⟩
  · rw [exemptions_applyReport]
  · rw [cell_applyReport, if_neg (fun h => hne h.2)]
  · rw [hourly?_applyReport]

theorem agree_step_other (hk : k.Plain) (hlane : lane.Plain) (hne : lane ≠ k)
    (htarget : op.target? lanes = some lane) (hop : op.Matches lanes) (hl : l.Matches lanes) :
    l.Agree lanes k (l.step now op).ledger := by
  have htext : lane.text ≠ k.text := fun h => hne (LaneKey.text_injective hlane hk h)
  by_cases hask : op.asks = true
  · exact agree_asked_other htext htarget hask
  cases op with
  | reserve id r =>
    obtain rfl := Option.some.inj htarget
    exact agree_reserve_other htext (by rwa [← hop])
  | commit id key tenant actual =>
    obtain rfl := Option.some.inj htarget
    exact agree_commit_other hl htext (by rwa [← hop]) hop tenant actual
  | rollback id mode =>
    obtain rfl := Option.some.inj htarget
    exact agree_rollback_other hl htext hne mode
  | applyReport key start reported =>
    obtain rfl := Option.some.inj htarget
    exact agree_applyReport_other htext start reported
  | toggleUnlimited _ _ => contradiction
  | _ => exact absurd rfl hask

end Other

end Ledger

/-! ### Operations on the lane itself -/

structure Step.Agree {α : Type} (lanes : String → LaneKey) (k : LaneKey) (x x' : Step α) : Prop where
  answer : x.answer = x'.answer
  ledger : x.ledger.Agree lanes k x'.ledger

theorem Step.Agree.map {α β : Type} {lanes : String → LaneKey} {k : LaneKey} {x x' : Step α}
    (h : x.Agree lanes k x') (f : α → β) : (x.map f).Agree lanes k (x'.map f) :=
  ⟨congrArg f h.answer, h.ledger⟩

namespace Ledger.Agree

variable {lanes : String → LaneKey} {l l' : Ledger} {op : Operation} {k : LaneKey}
  (h : l.Agree lanes k l') (now : Instant)

include h

theorem looks {m m' : Ledger} (hm : l.LooksTo now m) (hm' : l'.LooksTo now m')
    (hstate : m.state.Agree k.text m'.state) : m.Agree lanes k m' := by
  obtain ⟨s, -, rfl⟩ := hm
  obtain ⟨s', -, rfl⟩ := hm'
  exact ⟨h.policy, hstate, h.reservations⟩

theorem canCall {r : Request} (hr : r.key = k) :
    (l.canCall now r).Agree lanes k (l'.canCall now r) := by
  subst hr
  have hR := LedgerState.Agree.tellAlike r.key.text (l.window now) now
  obtain ⟨hanswer, hstate⟩ := related_canCall r hR h.policy h.state.exemptions h.state
  exact ⟨hanswer, h.looks now (l.looksTo_canCall now r) (l'.looksTo_canCall now r) hstate⟩

theorem ask {α : Type} (tenant : Option String) (f : Bucket → Float → α) :
    (l.ask now k tenant f).Agree lanes k (l'.ask now k tenant f) := by
  unfold Ledger.ask
  rw [← h.window]
  refine ⟨?_, ⟨h.policy, h.state.current _, h.reservations⟩⟩
  dsimp only
  rw [LedgerState.bucket_current, LedgerState.bucket_current, LedgerState.historyCost_current,
    LedgerState.historyCost_current, h.state.cell]

theorem usageRatio (tenant : Option String) :
    (l.usageRatio now k tenant).Agree lanes k (l'.usageRatio now k tenant) := by
  unfold Ledger.usageRatio
  rw [← h.policy]
  cases l.policy.limits.get? k with
  | none => exact ⟨rfl, h⟩
  | some limits => exact h.ask now tenant _

theorem remainingBudget (tenant : Option String) :
    (l.remainingBudget now k tenant).Agree lanes k (l'.remainingBudget now k tenant) := by
  unfold Ledger.remainingBudget
  rw [← h.policy]
  exact h.ask now tenant _

theorem history (tenant : Option String) : l.history k tenant = l'.history k tenant :=
  congrArg Cell.history (h.state.cell _)

theorem hourly (tenant : Option String) : l.hourly k tenant = l'.hourly k tenant := by
  rw [Ledger.hourly, Ledger.hourly, LedgerState.hourly, LedgerState.hourly, h.state.hourly]

theorem reserve {id : String} {r : Request} (hr : r.key = k) (hid : lanes id = k) :
    (l.reserve now id r).Agree lanes k (l'.reserve now id r) := by
  subst hr
  have hopen : l.reservations.contains id = l'.reservations.contains id := by
    rw [SortedMap.contains, SortedMap.contains, h.reservations id hid]
  unfold Ledger.reserve
  rw [← hopen, ← h.window]
  split_ifs
  · exact ⟨rfl, h⟩
  · refine ⟨rfl, h.policy, h.state.hold _ _, fun id' hid' => ?_⟩
    rw [SortedMap.get?_insert, SortedMap.get?_insert, h.reservations id' hid']

theorem erase (id : String) : ∀ id', lanes id' = k →
    (l.reservations.erase id).get? id' = (l'.reservations.erase id).get? id' := by
  intro id' hid'
  rw [SortedMap.get?_erase, SortedMap.get?_erase, h.reservations id' hid']

theorem commit {id : String} (hid : lanes id = k) (tenant : Option String) (actual : Usage) :
    (l.commit now id k tenant actual).Agree lanes k (l'.commit now id k tenant actual) := by
  unfold Ledger.commit
  rw [← h.reservations id hid, ← h.window, ← h.policy]
  cases l.reservations.get? id with
  | none =>
    have hspend := h.state.spend l.policy tenant actual (l.window now) now
    exact ⟨hspend.committedCost _, rfl, hspend, h.erase id⟩
  | some r =>
    have hspend := (h.state.release r (l.window now) now).spend l.policy tenant actual
      (l.window now) now
    exact ⟨hspend.committedCost _, rfl, hspend, h.erase id⟩

theorem rollback (hl : l.Matches lanes) {id : String} (hid : lanes id = k) (mode : RollbackMode) :
    (l.rollback now id mode).Agree lanes k (l'.rollback now id mode) := by
  unfold Ledger.rollback
  rw [← h.reservations id hid, ← h.window, ← h.policy]
  cases hr : l.reservations.get? id with
  | none => exact ⟨rfl, h⟩
  | some r =>
    obtain rfl : r.key = k := (hl id r hr).trans hid
    have hrelease := h.state.release r (l.window now) now
    cases mode with
    | release => exact ⟨rfl, rfl, hrelease, h.erase id⟩
    | keep => exact ⟨rfl, rfl, hrelease.spend _ _ _ _ _, h.erase id⟩

theorem applyReport (start : Date) (reported : UInt64) :
    (l.applyReport now k start reported).Agree lanes k (l'.applyReport now k start reported) := by
  have hknown : l.known? now k start = l'.known? now k start := by
    rw [known?, known?, h.state.cell, h.window]
  refine ⟨?_, ?_⟩
  · rw [answer_applyReport, answer_applyReport, hknown]
  rw [ledger_applyReport l, ledger_applyReport l']
  refine ⟨h.policy, ⟨?_, fun scope => ?_, fun scope => ?_⟩, h.reservations⟩
  · rw [exemptions_applyReport, exemptions_applyReport, h.state.exemptions]
  · rw [cell_applyReport, cell_applyReport, drift?_eq, drift?_eq, hknown, h.state.cell,
      h.state.cell, h.window, h.policy]
  · rw [hourly?_applyReport, hourly?_applyReport, h.state.hourly]

theorem toggleUnlimited (enabled : Bool) (tenant : Option String) :
    (l.toggleUnlimited enabled tenant).ledger.Agree lanes k
      (l'.toggleUnlimited enabled tenant).ledger := by
  obtain ⟨h1, h2⟩ := Prod.mk.inj h.state.exemptions
  refine ⟨h.policy, ⟨?_, fun scope => ?_, fun scope => ?_⟩, h.reservations⟩
  · cases tenant with
    | none => exact Prod.ext rfl h2
    | some t => cases enabled <;> simp [Ledger.toggleUnlimited, LedgerState.exemptions, h1, h2]
  · rw [cell_toggleUnlimited, cell_toggleUnlimited, h.state.cell]
  · rw [hourly?_toggleUnlimited, hourly?_toggleUnlimited, h.state.hourly]

theorem step_on (hl : l.Matches lanes) (hop : op.Matches lanes)
    (htarget : op.target? lanes = some k) :
    (l.step now op).Agree lanes k (l'.step now op) := by
  cases op with
  | canCall r => exact (h.canCall now (Option.some.inj htarget)).map _
  | reserve id r =>
    have hr : r.key = k := Option.some.inj htarget
    exact (h.reserve now hr (hop.symm.trans hr)).map (fun _ => Answer.done)
  | commit id key tenant actual =>
    obtain rfl : key = k := Option.some.inj htarget
    exact (h.commit now hop.symm tenant actual).map _
  | rollback id mode =>
    exact (h.rollback now hl (Option.some.inj htarget) mode).map (fun _ => Answer.done)
  | applyReport key start reported =>
    obtain rfl : key = k := Option.some.inj htarget
    exact (h.applyReport now start reported).map _
  | currentUsage key tenant =>
    obtain rfl : key = k := Option.some.inj htarget
    exact (h.ask now tenant _).map _
  | reservedUsage key tenant =>
    obtain rfl : key = k := Option.some.inj htarget
    exact (h.ask now tenant _).map _
  | usageRatio key tenant =>
    obtain rfl : key = k := Option.some.inj htarget
    exact (h.usageRatio now tenant).map _
  | remainingBudget key tenant =>
    obtain rfl : key = k := Option.some.inj htarget
    exact (h.remainingBudget now tenant).map _
  | history key tenant =>
    obtain rfl : key = k := Option.some.inj htarget
    exact ⟨congrArg Answer.buckets (h.history tenant), h⟩
  | hourly key tenant =>
    obtain rfl : key = k := Option.some.inj htarget
    exact ⟨congrArg Answer.log (h.hourly tenant), h⟩
  | _ => contradiction

theorem step_untargeted (htarget : op.target? lanes = none) :
    (l.step now op).ledger.Agree lanes k (l'.step now op).ledger := by
  cases op with
  | toggleUnlimited enabled tenant => exact h.toggleUnlimited enabled tenant
  | snapshot => exact h
  | isUnlimited tenant => exact h
  | unlimitedTenants => exact h
  | reportRange days => exact h
  | orphanedCommits => exact h
  | _ => contradiction

end Ledger.Agree

/-! ## Runs without the other lanes -/

def Schedule.about (lanes : String → LaneKey) (k : LaneKey) (ops : Schedule) : Schedule :=
  ops.filter (fun x => (x.2.target? lanes).all (fun lane => lane = k))

theorem Schedule.about_cons (lanes : String → LaneKey) (k : LaneKey) (now : Instant)
    (op : Operation) (ops : Schedule) : Schedule.about lanes k ((now, op) :: ops) =
      if (op.target? lanes).all (fun lane => lane = k) then
        (now, op) :: Schedule.about lanes k ops
      else Schedule.about lanes k ops := List.filter_cons

namespace Ledger

def answersOn (l : Ledger) (lanes : String → LaneKey) (k : LaneKey) (ops : Schedule) :
    List Answer :=
  ((ops.zip (l.run ops).2).filter (fun x => x.1.2.target? lanes = some k)).map Prod.snd

variable {lanes : String → LaneKey} {l l' : Ledger} {k : LaneKey}

theorem answersOn_cons (l : Ledger) (now : Instant) (op : Operation) (ops : Schedule) :
    l.answersOn lanes k ((now, op) :: ops) =
      (if op.target? lanes = some k then [(l.step now op).answer] else []) ++
        (l.step now op).ledger.answersOn lanes k ops := by
  simp only [answersOn, run, List.zip_cons_cons, List.filter_cons, decide_eq_true_eq]
  split_ifs <;> rfl

theorem answersOn_eq_nil {ops : Schedule} (h : ∀ x ∈ ops, x.2.target? lanes ≠ some k) :
    l.answersOn lanes k ops = [] := by
  rw [answersOn, List.map_eq_nil_iff, List.filter_eq_nil_iff]
  rintro ⟨x, a⟩ hx
  simpa using h x (List.of_mem_zip hx).1

theorem Agree.answersOn {ops : Schedule} (h : l.Agree lanes k l') (hk : k.Plain)
    (hl : l.Matches lanes) (hplain : ∀ x ∈ ops, ∀ lane ∈ x.2.target? lanes, lane.Plain)
    (hids : ∀ x ∈ ops, x.2.Matches lanes) :
    l.answersOn lanes k ops = l'.answersOn lanes k (ops.about lanes k) := by
  induction ops generalizing l l' with
  | nil => rfl
  | cons x rest ih =>
    obtain ⟨now, op⟩ := x
    have hid := hids _ List.mem_cons_self
    have hrest : ∀ m', (l.step now op).ledger.Agree lanes k m' →
        (l.step now op).ledger.answersOn lanes k rest =
          m'.answersOn lanes k (Schedule.about lanes k rest) := fun m' hm =>
      ih hm (hl.step hid) (fun y hy => hplain y (List.mem_cons_of_mem _ hy))
        (fun y hy => hids y (List.mem_cons_of_mem _ hy))
    rw [answersOn_cons, Schedule.about_cons]
    cases htarget : op.target? lanes with
    | none =>
      simpa [htarget, answersOn_cons] using hrest _ (h.step_untargeted now htarget)
    | some lane =>
      by_cases hlane : lane = k
      · subst hlane
        obtain ⟨hanswer, hledger⟩ := h.step_on now hl hid htarget
        simpa [htarget, answersOn_cons, hanswer] using hrest _ hledger
      · have hother : l.Agree lanes k (l.step now op).ledger :=
          agree_step_other hk (hplain _ List.mem_cons_self lane htarget) hlane htarget hid hl
        simpa [htarget, hlane] using hrest _ (hother.symm.trans h)

theorem answers_without_other_lanes (p : LedgerPolicy) (lanes : String → LaneKey) (ops : Schedule)
    (hplain : ∀ x ∈ ops, ∀ lane ∈ x.2.target? lanes, lane.Plain)
    (hids : ∀ x ∈ ops, x.2.Matches lanes) (k : LaneKey) :
    (start p).answersOn lanes k (ops.about lanes k) = (start p).answersOn lanes k ops := by
  by_cases hk : k.Plain
  · have hstart : (start p).Matches lanes := by
      intro id r h
      contradiction
    exact ((Agree.refl lanes k (start p)).answersOn hk hstart hplain hids).symm
  · have hnone : ∀ x ∈ ops, x.2.target? lanes ≠ some k := fun x hx h => hk (hplain x hx k h)
    have habout : ∀ x ∈ ops.about lanes k, x.2.target? lanes ≠ some k := fun x hx =>
      hnone x (List.mem_of_mem_filter hx)
    rw [answersOn_eq_nil hnone, answersOn_eq_nil habout]

def otherLane : LaneKey := ⟨"burn", "openai"⟩

def laneOfId (id : String) : LaneKey := if id = "a" then sampleLane else otherLane

def sideBySide : Schedule := [
  (noon 1, .reserve "a" ⟨sampleLane, some "ann", .ofTokens 40 0⟩),
  (noon 1, .reserve "b" ⟨otherLane, some "ann", .ofTokens 60 0⟩),
  (noon 1, .commit "b" otherLane (some "ann") (.ofTokens 90 20)),
  (noon 1, .canCall ⟨sampleLane, some "ann", .ofTokens 40 0⟩),
  (noon 2, .currentUsage otherLane (some "ann")),
  (noon 2, .rollback "b" .keep),
  (noon 2, .commit "a" sampleLane (some "ann") (.ofTokens 70 0)),
  (noon 2, .toggleUnlimited true (some "ann")),
  (noon 2, .applyReport otherLane (Date.ofDayNumber 1) 900),
  (noon 2, .canCall ⟨sampleLane, some "bob", .ofTokens 40 0⟩),
  (noon 3, .applyReport sampleLane (Date.ofDayNumber 1) 100)]

theorem answers_without_other_lanes_sideBySide :
    (start (samplePolicy ⟨some 100, none, true⟩)).answersOn laneOfId sampleLane sideBySide = [
      .done, .decision (.allow "within quota"), .cost 0.0,
      .decision (.deny .sharedDailyTokens "shared daily token limit reached for burn:anthropic"
        LedgerSettings.standard.fallbackKey),
      .outcome ⟨true, 30⟩] := by
  rw [← answers_without_other_lanes _ laneOfId sideBySide (by decide +kernel) (by decide +kernel)]
  decide +kernel

end Ledger

end LaneQuota
