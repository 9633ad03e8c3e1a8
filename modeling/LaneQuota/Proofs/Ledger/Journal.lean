import LaneQuota.Proofs.Ledger.Gains
import LaneQuota.Proofs.Ledger.Reports
import LaneQuota.Proofs.Ledger.Runs

/-!
# The journal

The journal of a run lists what was spent and what reports have added, each with its day. It is read
off the operations and their answers, and the buckets of every cell agree with it.
-/

namespace LaneQuota

open Ledger

/-- Who is behind a posting: a caller, of a tenant or not, or a usage report. -/
inductive Source where
  | caller (tenant : Option String)
  | report
deriving DecidableEq

structure Posting where
  day : String
  key : String
  source : Source
  counts : ℕ × ℕ

def Source.tenant? : Source → Option String
  | caller tenant => tenant
  | report => none

def Source.reaches : Source → Scope → Prop
  | caller tenant, scope => scope ∈ Scope.charged tenant
  | report, scope => scope = .shared

instance (source : Source) (scope : Scope) : Decidable (source.reaches scope) := by
  cases source <;> unfold Source.reaches <;> infer_instance

namespace Posting

def amount (x : Posting) (scope : Scope) (key : String) : ℕ × ℕ :=
  if x.source.reaches scope ∧ x.key = key then x.counts else 0

end Posting

namespace Ledger

def posting? (l : Ledger) (now : Instant) : Operation → Option Posting
  | .commit _ key tenant actual =>
    some ⟨(l.window now).day, key.text, .caller tenant, actual.counts⟩
  | .rollback id .keep => (l.reservations.get? id).map (fun r =>
    ⟨(l.window now).day, r.key.text, .caller r.tenant, r.estimate.counts⟩)
  | .applyReport key start reported => (l.drift? now key start reported).map (fun drift =>
    ⟨(l.window now).day, key.text, .report, (0, drift.toNat)⟩)
  | _ => none

def posted (l : Ledger) (now : Instant) (op : Operation) (scope : Scope) (key : String) : ℕ × ℕ :=
  ((l.posting? now op).map (fun x => x.amount scope key)).getD 0

theorem counts_charge (l : Ledger) (now : Instant) (op : Operation) (scope : Scope) (key : String) :
    (l.charge now scope key op).counts = l.posted now op scope key := by
  have hspend : ∀ (day : String) (lane : LaneKey) (tenant : Option String) (usage : Usage),
      (if Spends lane tenant scope key then Charge.spent usage else .nothing).counts =
        Posting.amount ⟨day, lane.text, .caller tenant, usage.counts⟩ scope key := fun _ _ _ _ =>
    apply_ite Charge.counts _ _ _
  cases op with
  | commit id lane tenant actual => exact hspend (l.window now).day lane tenant actual
  | rollback id mode =>
    cases mode with
    | release => rfl
    | keep =>
      cases hid : l.reservations.get? id with
      | none => simp only [charge, posted, posting?, hid, Option.map_none, Option.getD_none,
        Charge.counts]
      | some r =>
        simp only [charge, posted, posting?, hid, Option.map_some, Option.getD_some]
        exact hspend (l.window now).day r.key r.tenant r.estimate
  | applyReport lane start reported =>
    cases hdrift : l.drift? now lane start reported with
    | none => simp only [charge, posted, posting?, hdrift, Option.map_none, Option.getD_none,
        Charge.counts]
    | some drift =>
      simp only [charge, posted, posting?, hdrift, Option.map_some, Option.getD_some,
        Posting.amount, Source.reaches, eq_comm (a := scope)]
      exact apply_ite Charge.counts _ _ _
  | _ => rfl

theorem gains_step (l : Ledger) (now : Instant) (op : Operation) (scope : Scope) (key : String) :
    (l.state.cell scope key).Gains (l.window now) now (l.posted now op scope key)
      ((l.step now op).ledger.state.cell scope key) := by
  rw [← l.counts_charge]
  exact (l.charged_step now scope key op).cell.gains

theorem day_posting {l : Ledger} {now : Instant} {op : Operation} {x : Posting}
    (h : l.posting? now op = some x) : x.day = (l.window now).day := by
  cases op with
  | commit id lane tenant actual => simp [posting?] at h; simp [← h]
  | rollback id mode =>
    cases mode with
    | release => contradiction
    | keep =>
      obtain ⟨r, -, rfl⟩ := Option.map_eq_some_iff.mp h
      rfl
  | applyReport lane start reported =>
    obtain ⟨drift, -, rfl⟩ := Option.map_eq_some_iff.mp h
    rfl
  | _ => contradiction

def journal (l : Ledger) : Schedule → List Posting
  | [] => []
  | (now, op) :: rest => (l.posting? now op).toList ++ (l.step now op).ledger.journal rest

end Ledger

namespace Posting

variable (p : String → Prop) [DecidablePred p]

def enteredOn (js : List Posting) (scope : Scope) (key : String) : ℕ × ℕ :=
  ((js.filter (fun x => p x.day)).map (fun x => x.amount scope key)).sum

def paidOn (js : List Posting) (source : Source) (key : String) : ℕ × ℕ :=
  ((js.filter (fun x => p x.day ∧ x.source = source ∧ x.key = key)).map Posting.counts).sum

def entered (js : List Posting) (scope : Scope) (key day : String) : ℕ × ℕ :=
  enteredOn (fun d => d = day) js scope key

def paid (js : List Posting) (source : Source) (key day : String) : ℕ × ℕ :=
  paidOn (fun d => d = day) js source key

variable {p} {scope : Scope} {source : Source} {key : String}

theorem enteredOn_cons (x : Posting) (js : List Posting) : enteredOn p (x :: js) scope key =
    (if p x.day then x.amount scope key else 0) + enteredOn p js scope key := by
  by_cases h : p x.day <;> simp [enteredOn, h]

theorem enteredOn_append (js js' : List Posting) : enteredOn p (js ++ js') scope key =
    enteredOn p js scope key + enteredOn p js' scope key := by
  simp [enteredOn]

theorem paidOn_cons (x : Posting) (js : List Posting) : paidOn p (x :: js) source key =
    (if p x.day ∧ x.source = source ∧ x.key = key then x.counts else 0) +
      paidOn p js source key := by
  by_cases h : p x.day ∧ x.source = source ∧ x.key = key <;> simp [paidOn, h]

theorem enteredOn_posting {l : Ledger} {now : Instant} {op : Operation} :
    enteredOn p (l.posting? now op).toList scope key =
      if p (l.window now).day then l.posted now op scope key else 0 := by
  unfold Ledger.posted
  cases hx : l.posting? now op with
  | none => simp [enteredOn]
  | some x =>
    rw [Option.toList_some, enteredOn_cons, Ledger.day_posting hx]
    simp [enteredOn]

theorem reaches_tenant {tenant : Option String} {t : String} :
    (Source.caller tenant).reaches (.tenant t) ↔ tenant = some t := by
  cases tenant <;> simp [Source.reaches, Scope.charged, eq_comm]

theorem reaches_shared (source : Source) : source.reaches .shared := by
  cases source with
  | report => rfl
  | caller tenant => cases tenant <;> simp [Source.reaches, Scope.charged]

theorem amount_shared (x : Posting) {ts : Finset String}
    (h : ∀ t, x.source.tenant? = some t → t ∈ ts) :
    (if p x.day then x.amount .shared key else 0) =
      (∑ t ∈ ts, if p x.day then x.amount (.tenant t) key else 0) +
        (if p x.day ∧ x.source = .caller none ∧ x.key = key then x.counts else 0) +
        (if p x.day ∧ x.source = .report ∧ x.key = key then x.counts else 0) := by
  obtain ⟨day, lane, source, counts⟩ := x
  by_cases hp : p day ∧ lane = key
  · obtain ⟨hp, rfl⟩ := hp
    rcases source with (_ | t) | _
    · simp [amount, hp, reaches_shared, reaches_tenant]
    · have ht := h t rfl
      simp [amount, hp, reaches_shared, reaches_tenant, ht]
    · simp [amount, hp, Source.reaches]
  · have hno : ∀ q : Prop, ¬(p day ∧ q ∧ lane = key) := fun q hq => hp ⟨hq.1, hq.2.2⟩
    have hamount : ∀ scope, (if p day then amount ⟨day, lane, source, counts⟩ scope key
        else 0) = 0 := by
      intro scope
      by_cases hd : p day
      · have hl : lane ≠ key := fun hl => hp ⟨hd, hl⟩
        simp [amount, hl]
      · simp [hd]
    simp [hamount, hno]

/-- All that is posted is posted to the shared pool: by tenants, by callers without one, by
reports. -/
theorem enteredOn_shared_of_covers {js : List Posting} {ts : Finset String}
    (h : ∀ x ∈ js, ∀ t, x.source.tenant? = some t → t ∈ ts) :
    enteredOn p js .shared key = ∑ t ∈ ts, enteredOn p js (.tenant t) key +
      paidOn p js (.caller none) key + paidOn p js .report key := by
  induction js with
  | nil => simp [enteredOn, paidOn]
  | cons x js ih =>
    have hrest := ih (fun y hy => h y (List.mem_cons_of_mem x hy))
    simp only [enteredOn_cons, paidOn_cons, Finset.sum_add_distrib, hrest,
      amount_shared x (h x List.mem_cons_self)]
    abel

theorem enteredOn_shared {js : List Posting} {ts : Finset String}
    (h : ∀ t ∉ ts, enteredOn p js (.tenant t) key = 0) :
    enteredOn p js .shared key = ∑ t ∈ ts, enteredOn p js (.tenant t) key +
      paidOn p js (.caller none) key + paidOn p js .report key := by
  have hcovers : ∀ x ∈ js, ∀ t, x.source.tenant? = some t →
      t ∈ ts ∪ (js.filterMap (fun x => x.source.tenant?)).toFinset := by
    intro x hx t ht
    apply Finset.mem_union_right
    rw [List.mem_toFinset, List.mem_filterMap]
    exact ⟨x, hx, ht⟩
  rw [enteredOn_shared_of_covers hcovers,
    Finset.sum_subset Finset.subset_union_left (fun t _ ht => h t ht)]

end Posting

namespace Ledger

theorem usedOn_after (p : String → Prop) [DecidablePred p] (scope : Scope) (key : String)
    (l : Ledger) (ops : Schedule)
    (hfit : Fits ((l.state.cell scope key).usedOn p +
      Posting.enteredOn p (l.journal ops) scope key)) :
    ((l.after ops).state.cell scope key).usedOn p = (l.state.cell scope key).usedOn p +
      Posting.enteredOn p (l.journal ops) scope key := by
  induction ops generalizing l with
  | nil => simp [journal, Posting.enteredOn, after, run]
  | cons x rest ih =>
    obtain ⟨now, op⟩ := x
    rw [journal, Posting.enteredOn_append, Posting.enteredOn_posting, ← add_assoc] at hfit ⊢
    have hstep := (l.gains_step now op scope key).usedOn (hfit.mono le_self_add)
    rw [after_cons]
    rw [← hstep] at hfit ⊢
    exact ih _ hfit

theorem usedOn_start (q : String → Prop) [DecidablePred q] (p : LedgerPolicy) (scope : Scope)
    (key : String) : ((start p).state.cell scope key).usedOn q = 0 := by
  cases scope <;> rfl

theorem begun_after (l : Ledger) (h : ∀ scope key, (l.state.cell scope key).Begun) (ops : Schedule)
    (scope : Scope) (key : String) : ((l.after ops).state.cell scope key).Begun := by
  induction ops generalizing l with
  | nil => exact h scope key
  | cons x rest ih =>
    obtain ⟨now, op⟩ := x
    rw [after_cons]
    apply ih
    intro scope key
    exact (l.gains_step now op scope key).begun (h scope key)

theorem begun_start (p : LedgerPolicy) (scope : Scope) (key : String) :
    ((start p).state.cell scope key).Begun := by
  intro _
  cases scope <;> rfl

end Ledger

def LedgerState.tenants (s : LedgerState) : Finset String := s.tenantBuckets.keys.toFinset

theorem LedgerState.bucket?_of_not_mem_tenants {s : LedgerState} {t : String} (h : t ∉ s.tenants)
    (key : String) : s.bucket? (.tenant t) key = none := by
  have hnone : s.tenantBuckets.get? t = none := by
    rw [Option.eq_none_iff_forall_ne_some]
    intro m hm
    apply h
    rw [tenants, List.mem_toFinset]
    exact List.mem_map_of_mem (f := Prod.fst) (SortedMap.mem_of_findEntry hm)
  rw [bucket?, hnone]
  rfl

theorem Posting.enteredOn_le_shared (p : String → Prop) [DecidablePred p] (js : List Posting)
    (scope : Scope) (key : String) : enteredOn p js scope key ≤ enteredOn p js .shared key := by
  apply List.sum_le_sum
  intro x _
  unfold amount
  by_cases hk : x.source.reaches scope ∧ x.key = key
  · rw [if_pos hk, if_pos ⟨reaches_shared _, hk.2⟩]
  · rw [if_neg hk]
    exact zero_le

namespace Ledger

/-- What the buckets of a day have recorded is what was posted on that day, in every scope. For the
shared pool that is what tenants have recorded, what was spent without a tenant, and what reports
have added. -/
theorem recorded_eq_entered (p : LedgerPolicy) (ops : Schedule) (key day : String)
    (hfit : Fits (Posting.entered ((start p).journal ops) .shared key day)) :
    (∀ scope, (((start p).after ops).state.cell scope key).recorded day =
      Posting.entered ((start p).journal ops) scope key day) ∧
    (((start p).after ops).state.cell .shared key).recorded day =
      ∑ t ∈ ((start p).after ops).state.tenants,
        (((start p).after ops).state.cell (.tenant t) key).recorded day +
      Posting.paid ((start p).journal ops) (.caller none) key day +
      Posting.paid ((start p).journal ops) .report key day := by
  have hrecorded : ∀ scope, (((start p).after ops).state.cell scope key).recorded day =
      Posting.entered ((start p).journal ops) scope key day := by
    intro scope
    have hle := Posting.enteredOn_le_shared (fun d => d = day) ((start p).journal ops) scope key
    have h := usedOn_after (fun d => d = day) scope key (start p) ops
    rw [usedOn_start, zero_add] at h
    exact h (hfit.mono hle)
  refine ⟨hrecorded, ?_⟩
  rw [hrecorded .shared, Finset.sum_congr rfl (fun t _ => hrecorded (.tenant t))]
  apply Posting.enteredOn_shared
  intro t ht
  -- A tenant without buckets has no history either, so nothing was posted for it.
  have hbegun := begun_after (start p) (begun_start p) ops (.tenant t) key
  have hcell := hbegun.eq_mk (LedgerState.bucket?_of_not_mem_tenants ht key)
  change Posting.entered _ (.tenant t) key day = 0
  rw [← hrecorded, hcell]
  rfl

def backAndForth : Schedule := [
  (noon 2, .reserve "a" ⟨sampleLane, some "ann", .ofTokens 8 2⟩),
  (noon 2, .commit "x" sampleLane (some "bob") (.ofTokens 30 5)),
  (noon 3, .commit "y" sampleLane none (.ofTokens 4 4)),
  (noon 2, .rollback "a" .keep),
  (noon 3, .currentUsage sampleLane (some "ann")),
  (noon 2, .applyReport sampleLane (Date.ofDayNumber 1) 100)]

theorem recorded_eq_entered_backAndForth :
    Fits (Posting.entered ((start (samplePolicy ⟨none, none, true⟩)).journal backAndForth) .shared
      sampleLane.text (dayText 2)) ∧
    (((start (samplePolicy ⟨none, none, true⟩)).after backAndForth).state.cell .shared
      sampleLane.text).recorded (dayText 2) = (38, 54) := by
  have hfit : Fits (Posting.entered ((start (samplePolicy ⟨none, none, true⟩)).journal backAndForth)
      .shared sampleLane.text (dayText 2)) := by decide +kernel
  refine ⟨hfit, ?_⟩
  rw [(recorded_eq_entered _ backAndForth sampleLane.text (dayText 2) hfit).1 .shared]
  decide +kernel

end Ledger

end LaneQuota
