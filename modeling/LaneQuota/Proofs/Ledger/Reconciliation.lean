import LaneQuota.Proofs.Ledger.Contents
import LaneQuota.Proofs.Ledger.Revisits
import LaneQuota.Proofs.Ledger.Tracking

namespace LaneQuota

open Ledger

theorem Cell.days_of_gains {D : String → Prop} {c c' : Cell} {w : Window} {now : Instant}
    {n : ℕ × ℕ} (hc : ∀ b ∈ c.buckets, D b.day) (hw : D w.day) (hgain : c.Gains w now n c') :
    ∀ b ∈ c'.buckets, D b.day := by
  intro b hb
  rcases hgain.day hb with hday | hb
  · rwa [hday]
  · exact hc b hb

namespace Ledger

theorem days_after {D : String → Prop} {l : Ledger} {ops : Schedule} {scope : Scope} {key : String}
    (h : ∀ b ∈ (l.state.cell scope key).buckets, D b.day)
    (hops : ∀ x ∈ ops, D (l.window x.1).day) :
    ∀ b ∈ ((l.after ops).state.cell scope key).buckets, D b.day := by
  induction ops generalizing l with
  | nil => exact h
  | cons x rest ih =>
    obtain ⟨now, op⟩ := x
    have hstep := Cell.days_of_gains h (hops _ List.mem_cons_self) (l.gains_step now op scope key)
    rw [after_cons]
    refine ih hstep (fun y hy => ?_)
    rw [window, (l.effect_step now op).policy]
    exact hops y (List.mem_cons_of_mem _ hy)

section Days

variable (l : Ledger) (now : Instant) (key : LaneKey) (first : ℤ)

def retired (scope : Scope) (key : String) : List Bucket :=
  (l.state.current scope key (l.window now) now).state.history scope key

theorem retired_eq (scope : Scope) (key : String) :
    l.retired now scope key = (l.state.cell scope key).archive (l.window now) :=
  LedgerState.history_current _ _ _ _ _

open Classical in
noncomputable def retiredSince : List Bucket :=
  (l.retired now .shared key.text).filter (fun b => ∃ n, first ≤ n ∧ b.day = dayText n)

variable {l key first} in
theorem retiredSince_eq (hfirst : (Date.ofDayNumber first).InFourDigits)
    (hdays : ∀ b ∈ (l.state.cell .shared key.text).buckets,
      ∃ n, (Date.ofDayNumber n).year ≤ 9999 ∧ b.day = dayText n) :
    l.retiredSince now key first = (l.retired now .shared key.text).filter
      (fun b => !(b.day < (Date.ofDayNumber first).text)) := by
  apply List.filter_congr
  intro b hb
  rw [retired_eq] at hb
  obtain ⟨n, hn, hday⟩ := hdays b (Cell.mem_buckets_of_mem_archive hb)
  have hlt : b.day < (Date.ofDayNumber first).text ↔ n < first := by
    rw [hday]
    exact dayText_lt_iff_of_year_le hn hfirst
  have hsince : (∃ m, first ≤ m ∧ b.day = dayText m) ↔ first ≤ n := by
    constructor
    · rintro ⟨m, hm, hday'⟩
      rwa [dayText_injective (hday.symm.trans hday')]
    · exact fun h => ⟨n, h, hday⟩
  rw [Bool.eq_iff_iff]
  simp only [decide_eq_true_eq, Bool.not_eq_true', decide_eq_false_iff_not]
  rw [hsince, hlt, not_lt]

end Days

theorem days_start (p : LedgerPolicy) {ops : Schedule}
    (hclock : ∀ x ∈ ops, (Date.ofDayNumber (p.zone.dayNumber x.1)).year ≤ 9999) (scope : Scope)
    (key : String) : ∀ b ∈ (((start p).after ops).state.cell scope key).buckets,
      ∃ n, (Date.ofDayNumber n).year ≤ 9999 ∧ b.day = dayText n := by
  apply days_after (D := fun day => ∃ n, (Date.ofDayNumber n).year ≤ 9999 ∧ day = dayText n)
  · intro b hb
    cases scope <;> contradiction
  · exact fun x hx => ⟨_, hclock x hx, rfl⟩

end Ledger

def SyncOutcome.Exact (o : SyncOutcome) (count : ℕ) (reported : UInt64) : Prop :=
  (o.updated = true ↔ count < reported.toNat) ∧ o.driftAdded.toNat = reported.toNat - count

instance (o : SyncOutcome) (count : ℕ) (reported : UInt64) : Decidable (o.Exact count reported) :=
  inferInstanceAs (Decidable (_ ∧ _))

namespace Ledger

variable (l : Ledger) (now : Instant) (key : LaneKey) (start : Date) (reported : UInt64)

def retiredFrom : List Bucket :=
  (l.retired now .shared key.text).filter (fun b => !(b.day < start.text))

theorem known?_eq : l.known? now key start =
    (archivedTokens? (l.retired now .shared key.text) start.text).map
      (fun archived => addTokens archived (l.usedToday now .shared key.text).totalTokens) := by
  rw [retired_eq, usedToday_eq]
  rfl

theorem known?_eq_none (h : 2 ^ 64 ≤ totalsOf (l.retiredFrom now key start)) :
    l.known? now key start = none := by
  rw [known?_eq, Option.map_eq_none_iff, Option.eq_none_iff_forall_ne_some]
  intro n hn
  have hcount := archivedTokens?_eq_some_iff.mp hn
  have hword := n.toNat_lt
  change n.toNat = totalsOf (l.retiredFrom now key start) at hcount
  omega

variable {l now key start} in
theorem toNat_of_known? {known : UInt64} (h : l.known? now key start = some known) :
    totalsOf (l.retiredFrom now key start) < 2 ^ 64 ∧
      known.toNat = min (totalsOf (l.retiredFrom now key start) +
        (l.usedToday now .shared key.text).tokens) (2 ^ 64 - 1) := by
  rw [known?_eq] at h
  obtain ⟨n, hn, rfl⟩ := Option.map_eq_some_iff.mp h
  have hcount : n.toNat = totalsOf (l.retiredFrom now key start) :=
    archivedTokens?_eq_some_iff.mp hn
  have hsum := toNat_addTokens n (l.usedToday now .shared key.text).totalTokens
  have hmax : Word.maxUnsigned64 = 2 ^ 64 - 1 := rfl
  have hword := n.toNat_lt
  rw [toNat_totalTokens_eq_min] at hsum
  omega

theorem exact_applyReport (h : totalsOf (l.retiredFrom now key start) < 2 ^ 64) :
    ∃ o, (l.applyReport now key start reported).answer = .ok o ∧
      o.Exact (totalsOf (l.retiredFrom now key start) +
        (l.usedToday now .shared key.text).tokens) reported := by
  obtain ⟨n, hn, -⟩ := exists_archivedTokens _ _ h
  have hsome : l.known? now key start = some _ := (l.known?_eq now key start).trans
    (congrArg (Option.map _) hn)
  obtain ⟨-, hknown⟩ := toNat_of_known? hsome
  have hword := reported.toNat_lt
  refine ⟨_, by rw [answer_applyReport, hsome], ?_⟩
  split_ifs with hle
  · rw [UInt64.le_iff_toNat_le] at hle
    refine ⟨iff_of_false Bool.false_ne_true (by omega), ?_⟩
    rw [UInt64.toNat_zero]
    omega
  · have hlt := UInt64.le_iff_toNat_le.not.mp hle
    refine ⟨iff_of_true rfl (by omega), ?_⟩
    rw [UInt64.toNat_sub_of_le _ _ (UInt64.le_iff_toNat_le.mpr (by omega))]
    omega

theorem tokensOut_add_drift_lt :
    (l.usedToday now .shared key.text).tokensOut.toNat +
      ((l.drift? now key start reported).getD 0).toNat < 2 ^ 64 := by
  have hout := (l.usedToday now .shared key.text).tokensOut.toNat_lt
  rw [drift?_eq]
  cases hknown : l.known? now key start with
  | none => exact hout
  | some known =>
    obtain ⟨-, hcount⟩ := toNat_of_known? hknown
    have hword := reported.toNat_lt
    rw [Option.bind_some]
    unfold Usage.tokens at hcount
    split_ifs with hle
    · exact hout
    · have hlt := UInt64.le_iff_toNat_le.not.mp hle
      rw [Option.getD_some, UInt64.toNat_sub_of_le _ _ (UInt64.le_iff_toNat_le.mpr (by omega))]
      omega

theorem window_applyReport :
    (l.applyReport now key start reported).ledger.window now = l.window now := by
  rw [ledger_applyReport]
  rfl

theorem retired_applyReport (scope : Scope) (key' : String) :
    (l.applyReport now key start reported).ledger.retired now scope key' =
      l.retired now scope key' := by
  rw [retired_eq, retired_eq, window_applyReport, cell_applyReport]
  split_ifs with hc
  · obtain ⟨rfl, rfl⟩ := hc
    split
    · exact Cell.archive_moved _ _ _
    · exact Cell.archive_adjust _ (fun b => day_latchedUnder _ _ _)
  · rfl

theorem usedToday_applyReport (scope : Scope) (key' : String) :
    (l.applyReport now key start reported).ledger.usedToday now scope key' =
      if Scope.shared = scope ∧ key.text = key' then
        { l.usedToday now scope key' with
          tokensOut := addTokens (l.usedToday now scope key').tokensOut
            ((l.drift? now key start reported).getD 0) }
      else l.usedToday now scope key' := by
  have hnone : ∀ u : Usage, { u with tokensOut := addTokens u.tokensOut 0 } = u := by
    intro u
    have hout : addTokens u.tokensOut 0 = u.tokensOut := by
      apply UInt64.toNat_inj.mp
      have hword := u.tokensOut.toNat_lt
      rw [toNat_addTokens_of_le (by rw [UInt64.toNat_zero]; exact Nat.le_of_lt_succ hword),
        UInt64.toNat_zero, Nat.add_zero]
    rw [hout]
  rw [usedToday_eq, usedToday_eq, window_applyReport, cell_applyReport]
  by_cases hc : Scope.shared = scope ∧ key.text = key'
  · obtain ⟨rfl, rfl⟩ := hc
    simp only [and_self, if_true]
    cases l.drift? now key start reported with
    | none =>
      dsimp only [Option.getD_none]
      rw [Cell.seen_moved, hnone]
    | some drift =>
      have hday : ∀ b : Bucket, (latchedUnder (l.policy.limits.enforced? key)
          (archivedCost ((l.state.cell .shared key.text).archive (l.window now)))
          (b.withReport drift now)).day = b.day := fun b => day_latchedUnder _ _ _
      dsimp only [Option.getD_some]
      rw [Cell.reporting, Cell.seen_adjust _ hday, used_latchedUnder]
      rfl
  · rw [if_neg hc, if_neg hc]

structure RaisedBy (l : Ledger) (now : Instant) (key : LaneKey) (drift : ℕ) (l' : Ledger) :
    Prop where
  tokensIn : ∀ scope key', (l'.usedToday now scope key').tokensIn =
    (l.usedToday now scope key').tokensIn
  cost : ∀ scope key', (l'.usedToday now scope key').cost = (l.usedToday now scope key').cost
  tokensOut : ∀ scope key', (l'.usedToday now scope key').tokensOut.toNat =
    (l.usedToday now scope key').tokensOut.toNat +
      if scope = .shared ∧ key' = key.text then drift else 0
  retired : ∀ scope key', l'.retired now scope key' = l.retired now scope key'
  hourly : ∀ scope key', l'.state.hourly? scope key' = l.state.hourly? scope key'
  reservations : l'.reservations = l.reservations

theorem raisedBy_applyReport : l.RaisedBy now key
    ((l.drift? now key start reported).getD 0).toNat
    (l.applyReport now key start reported).ledger where
  tokensIn scope key' := by
    rw [usedToday_applyReport]
    split_ifs <;> rfl
  cost scope key' := by
    rw [usedToday_applyReport]
    split_ifs <;> rfl
  tokensOut scope key' := by
    rw [usedToday_applyReport]
    by_cases hc : Scope.shared = scope ∧ key.text = key'
    · obtain ⟨rfl, rfl⟩ := hc
      have hfit := l.tokensOut_add_drift_lt now key start reported
      simp only [and_self, if_true]
      exact toNat_addTokens_of_le (Nat.le_of_lt_succ hfit)
    · rw [if_neg hc, if_neg (fun h => hc ⟨h.1.symm, h.2.symm⟩), Nat.add_zero]
  retired := l.retired_applyReport now key start reported
  hourly scope key' := hourly?_applyReport _ _ _ _ _ _ _
  reservations := by rw [ledger_applyReport]

theorem getD_drift?_of_exact {o : SyncOutcome} {count : ℕ} (h : o.Exact count reported)
    (ho : (l.applyReport now key start reported).answer = .ok o) :
    (l.drift? now key start reported).getD 0 = o.driftAdded := by
  obtain ⟨updated, drift⟩ := o
  rw [drift?, ho]
  cases updated with
  | true => rfl
  | false =>
    have hle := h.1.not.mp Bool.false_ne_true
    have hdrift := h.2
    apply UInt64.toNat_inj.mp
    rw [Option.getD_none, UInt64.toNat_zero]
    omega

/-- A report is answered exactly, whatever it says, and adds just what it is ahead by, if and only
if the totals of the retired buckets of its days fit into a word. Otherwise it fails and adds
nothing. -/
theorem report_exact_iff (p : LedgerPolicy) (ops : Schedule) (now : Instant) (key : LaneKey)
    (first : ℤ) (reported : UInt64) (hfirst : (Date.ofDayNumber first).InFourDigits)
    (hclock : ∀ x ∈ ops, (Date.ofDayNumber (p.zone.dayNumber x.1)).year ≤ 9999) :
    let l := (Ledger.start p).after ops
    let archived := l.retiredSince now key first
    let live := l.usedToday now .shared key.text
    let step := l.applyReport now key (Date.ofDayNumber first) reported
    ((∃ o, step.answer = .ok o ∧ o.Exact (tokensOf archived + live.tokens) reported ∧
        l.RaisedBy now key o.driftAdded.toNat step.ledger) ↔ totalsOf archived < 2 ^ 64) ∧
      (2 ^ 64 ≤ totalsOf archived →
        step.answer = .error .overflow ∧ l.RaisedBy now key 0 step.ledger) := by
  intro l archived live step
  have hfrom : archived = l.retiredFrom now key (Date.ofDayNumber first) :=
    retiredSince_eq now hfirst (days_start p hclock .shared key.text)
  have hraised := l.raisedBy_applyReport now key (Date.ofDayNumber first) reported
  have hfails : 2 ^ 64 ≤ totalsOf archived → step.answer = .error .overflow := by
    intro hfull
    rw [hfrom] at hfull
    change (l.applyReport _ _ _ _).answer = _
    rw [answer_applyReport, known?_eq_none _ _ _ _ hfull]
  refine ⟨⟨fun ⟨o, ho, _⟩ => ?_, fun hfit => ?_⟩, fun hfull => ⟨hfails hfull, ?_⟩⟩
  · by_contra hfull
    rw [hfails (not_lt.mp hfull)] at ho
    contradiction
  · obtain ⟨o, ho, hexact⟩ := l.exact_applyReport now key (Date.ofDayNumber first) reported
      (hfrom ▸ hfit)
    rw [getD_drift?_of_exact l now key _ reported hexact ho] at hraised
    refine ⟨o, ho, ?_, hraised⟩
    -- a bucket whose total stops makes both counts greater than every report
    have hle := totalsOf_le_tokensOf archived
    have hfull := tokensOf_eq_or_full archived
    have hword := reported.toNat_lt
    rw [← hfrom] at hexact
    refine ⟨hexact.1.trans ?_, hexact.2.trans ?_⟩
    · change totalsOf archived + live.tokens < _ ↔ _
      omega
    · change _ - (totalsOf archived + live.tokens) = _
      omega
  · rw [drift?, hfails hfull] at hraised
    exact hraised

def nearlyFull : Schedule := [
  (noon 1, .commit "a" sampleLane (some "ann") (.ofTokens 18446744073709551000 0)),
  (noon 2, .commit "b" sampleLane none (.ofTokens 100 400)),
  (noon 3, .commit "c" sampleLane (some "bob") (.ofTokens 5 10))]

theorem report_exact_nearlyFull :
    let l := (Ledger.start (samplePolicy ⟨none, none, true⟩)).after nearlyFull
    let step := l.applyReport (noon 3) sampleLane (Date.ofDayNumber 1) 18446744073709551615
    step.answer = .ok ⟨true, 100⟩ ∧ l.RaisedBy (noon 3) sampleLane 100 step.ledger := by
  intro l step
  have hfirst : (Date.ofDayNumber 1).InFourDigits := by decide
  have hclock : ∀ x ∈ nearlyFull, (Date.ofDayNumber
      ((samplePolicy ⟨none, none, true⟩).zone.dayNumber x.1)).year ≤ 9999 := by decide +kernel
  have harchived := retiredSince_eq (noon 3) hfirst (days_start _ hclock .shared sampleLane.text)
  have hcounts : tokensOf (l.retiredSince (noon 3) sampleLane 1) = 18446744073709551500 ∧
      totalsOf (l.retiredSince (noon 3) sampleLane 1) = 18446744073709551500 ∧
      (l.usedToday (noon 3) .shared sampleLane.text).tokens = 15 := by
    rw [harchived]
    decide +kernel
  obtain ⟨hiff, -⟩ := report_exact_iff (samplePolicy ⟨none, none, true⟩) nearlyFull (noon 3)
    sampleLane 1 18446744073709551615 hfirst hclock
  obtain ⟨⟨updated, drift⟩, ho, hexact, hraised⟩ := hiff.mpr (by rw [hcounts.2.1]; decide)
  rw [hcounts.1, hcounts.2.2] at hexact
  obtain rfl : updated = true := hexact.1.mpr (by decide)
  obtain rfl : drift = 100 := UInt64.toNat_inj.mp hexact.2
  exact ⟨ho, hraised⟩

def overfull : Schedule := [
  (noon 1, .commit "a" sampleLane none (.ofTokens 18446744073709551615 0)),
  (noon 2, .commit "b" sampleLane none (.ofTokens 1 0))]

/-- With more than a word of tokens in the archive a report that is far behind fails. -/
theorem report_fails_overfull :
    let l := (Ledger.start (samplePolicy ⟨none, none, true⟩)).after overfull
    tokensOf (l.retiredSince (noon 3) sampleLane 1) +
        (l.usedToday (noon 3) .shared sampleLane.text).tokens = 2 ^ 64 ∧
      (l.applyReport (noon 3) sampleLane (Date.ofDayNumber 1) 5).answer = .error .overflow := by
  intro l
  have hclock : ∀ x ∈ overfull, (Date.ofDayNumber
      ((samplePolicy ⟨none, none, true⟩).zone.dayNumber x.1)).year ≤ 9999 := by decide +kernel
  have harchived : l.retiredSince (noon 3) sampleLane 1 = _ :=
    retiredSince_eq (noon 3) (by decide) (days_start _ hclock .shared sampleLane.text)
  rw [harchived]
  decide +kernel

end Ledger

end LaneQuota
