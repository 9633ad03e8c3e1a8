import LaneQuota.Proofs.Ledger.Accounts
import LaneQuota.Proofs.Ledger.Callers

namespace LaneQuota

open Double Ledger

namespace Ledger

noncomputable def carriedBy (l : Ledger) (now : Instant) (scope : Scope) (key : String) :
    Operation → ℕ
  | .commit id _ _ actual =>
    ((l.reservations.get? id).map (fun r => r.carried (l.window now) actual scope key)).getD 0
  | .rollback id .keep =>
    ((l.reservations.get? id).map (fun r => r.carried (l.window now) r.estimate scope key)).getD 0
  | _ => 0

noncomputable def carried (l : Ledger) (scope : Scope) (key : String) : Schedule → ℕ
  | [] => 0
  | (now, op) :: rest =>
    l.carriedBy now scope key op + (l.step now op).ledger.carried scope key rest

end Ledger

noncomputable def Operation.promise : Operation → ℕ
  | reserve _ r => whole r.estimate.cost
  | _ => 0

def Operation.WholeCost : Operation → Prop
  | reserve _ r => IsWhole r.estimate.cost
  | commit _ _ _ actual => IsWhole actual.cost
  | _ => True

namespace Ledger

def spendsReserved : Rule := fun l last now op =>
  orderly l last now op ∧
    match op with
    | .commit id _ _ actual => ∀ r, l.reservations.get? id = some r →
      actual.cost ≤ r.estimate.cost
    | _ => True

structure LifetimeBound (p : LedgerPolicy) (key : LaneKey) (limits : Limits) (v : EReal)
    (carried : Scope → ℕ) (budget : ℕ) (l : Ledger) (last : Option (Instant × Request)) (n : ℤ) :
    Prop where
  policy : l.policy = p
  strict : l.Strict
  books : Books .cost key.text l.state l.reservations n
  accounts : l.state.Accounted l.reservations key.text v carried budget
  estimates : ∀ id r, l.reservations.get? id = some r → IsWhole r.estimate.cost
  admitted : ∀ now r, last = some (now, r) → r.key = key →
    r.Admitted p (Window.at now p.zone) now limits l.state

variable {p : LedgerPolicy} {key : LaneKey} {limits : Limits} {cap : Float} {v : EReal}

theorem not_cap_lt_of_admitted {w : Window} {now : Instant} {r : Request} {s : LedgerState}
    (hcap : limits.lifetimeCost = some cap) (h : r.Admitted p w now limits s) :
    ∀ scope ∈ Scope.charged r.tenant,
      ¬cap < (s.cell scope r.key.text).spent w now + r.estimate.cost := by
  intro scope hscope
  obtain ⟨hown, hshared⟩ := h.lifetime cap hcap
  rcases scope_cases hscope with rfl | ⟨ht, rfl⟩
  · exact hown
  · exact hshared ht

theorem covers_of_admitted {w : Window} {now : Instant} {c : Cell} {estimate : Usage}
    {rs : List Reservation} {carried budget : ℕ} {n : ℤ} (hv : Denotes cap v)
    (h : c.Accounted v carried budget rs) (hbal : Balanced .cost (c.seen w now) rs n)
    (hwhole : IsWhole estimate.cost) (hlt : budget + whole estimate.cost < 2 ^ 53)
    (hle : ¬cap < c.spent w now + estimate.cost) :
    Covers v (Quantity.cost.used (c.archive w) + whole (c.seen w now).used.cost +
      whole (c.seen w now).reserved.cost + whole estimate.cost) := by
  obtain ⟨harch, hlive, hspent, -⟩ := h.seen w now
  have hres := Accounted.reserved_le hbal
  have hreserved : IsWhole (c.seen w now).reserved.cost := hbal.reserved_fits
  -- All sums stay below `2 ^ 53`, so the doubles that are compared are exact.
  have harchive := denotes_archivedCost harch (by omega)
  have hheld := hlive.denotes.add_nat hreserved.denotes (by omega)
  have hsum := (harchive.add_nat hheld (by omega)).add_nat hwhole.denotes (by omega)
  rw [Cell.spent, Bucket.heldCost, hv.lt_iff hsum, not_lt, ← Nat.add_assoc] at hle
  exact hle

theorem Effect.accounted {l l' : Ledger} {last : Option (Instant × Request)} {now : Instant}
    {op : Operation} {m : ℤ} {lane : String} {carried : Scope → ℕ} {budget : ℕ}
    (he : l.Effect now op l') (hbooks : Books .cost lane l.state l.reservations m)
    (h : l.state.Accounted l.reservations lane v carried budget)
    (hwhole : ∀ id r, l.reservations.get? id = some r → IsWhole r.estimate.cost)
    (hday : m ≤ l.policy.zone.dayNumber now) (hop : spendsReserved l last now op)
    (hcost : op.WholeCost) (hlt : budget + op.promise < 2 ^ 53)
    (hcov : ∀ id r, op = .reserve id r → r.key.text = lane → ∀ scope ∈ Scope.charged r.tenant,
      Covers v (Quantity.cost.used ((l.state.cell scope lane).archive (l.window now)) +
        whole ((l.state.cell scope lane).seen (l.window now) now).used.cost +
        whole ((l.state.cell scope lane).seen (l.window now) now).reserved.cost +
        whole r.estimate.cost)) :
    l'.state.Accounted l'.reservations lane v
      (fun scope => carried scope + l.carriedBy now scope lane op) (budget + op.promise) := by
  have hw : (l.window now).day = dayText (l.policy.zone.dayNumber now) := rfl
  obtain ⟨hord, hspend⟩ := hop
  cases he with
  | looked hs =>
    intro scope
    exact (h.looked hs scope).mono (Nat.le_add_right _ _) (Nat.le_add_right _ _)
  | @held id r hid =>
    exact h.hold (r := ⟨r.key, r.tenant, r.estimate, (l.window now).day⟩) hbooks hday hw hid hcost
      hlt (hcov id r rfl)
  | committed hid =>
    obtain ⟨r, hid', rfl, rfl⟩ := hord
    obtain rfl := Option.some.inj (hid.symm.trans hid')
    have hle := (hcost.denotes.le_iff (hwhole _ _ hid).denotes).mp (hspend _ hid)
    have hset := h.settle now hbooks hday hw hid hcost (by exact_mod_cast hle) hlt l.policy
    simp only [carriedBy, hid, Option.map_some, Option.getD_some]
    exact hset
  | orphaned hid =>
    obtain ⟨r, hid', -⟩ := hord
    exact absurd (hid.symm.trans hid') (by simp)
  | released hid => exact h.release hbooks hday hw hid
  | kept hid =>
    simp only [carriedBy, hid, Option.map_some, Option.getD_some]
    exact h.settle now hbooks hday hw hid (hwhole _ _ hid) le_rfl hlt l.policy
  | toggled =>
    intro scope
    rw [cell_toggleUnlimited]
    exact h scope
  | raised drift hexempt hcell => exact hord.elim

theorem Effect.estimates {l l' : Ledger} {now : Instant} {op : Operation} (he : l.Effect now op l')
    (hcost : op.WholeCost) (h : ∀ id r, l.reservations.get? id = some r → IsWhole r.estimate.cost) :
    ∀ id r, l'.reservations.get? id = some r → IsWhole r.estimate.cost := by
  intro id r hr
  rcases he.reservation hr with hr | ⟨q, rfl, rfl⟩
  · exact h id r hr
  · exact hcost

theorem lifetimeBound_step (hlane : ':' ∉ key.lane.toList)
    (hlimits : p.limits.enforced? key = some limits) (hcap : limits.lifetimeCost = some cap)
    (hv : Denotes cap v) {l : Ledger} {last : Option (Instant × Request)} {n : ℤ} {now : Instant}
    {op : Operation} {carried : Scope → ℕ} {budget : ℕ}
    (h : LifetimeBound p key limits v carried budget l last n)
    (hday : n ≤ p.zone.dayNumber now) (hop : spendsReserved l last now op) (hcost : op.WholeCost)
    (hlt : budget + op.promise < 2 ^ 53) :
    LifetimeBound p key limits v (fun scope => carried scope + l.carriedBy now scope key.text op)
      (budget + op.promise) (l.step now op).ledger (l.admission now op) (p.zone.dayNumber now) := by
  obtain ⟨rfl, hstrict, hbooks, haccounts, hest, hadm⟩ := h
  have heff := l.effect_step now op
  refine ⟨heff.policy, heff.strict hstrict hop.1, ?_, ?_, heff.estimates hcost hest, ?_⟩
  · refine heff.books hbooks hday ?_
    rintro id r rfl - hkey
    refine ⟨hcost, fun scope hscope => ?_⟩
    have hspent := (haccounts scope).spent
    have hle := Accounted.onDay_le (outstanding l.reservations scope key.text) (l.window now).day
    change _ + whole r.estimate.cost < 2 ^ 53
    change budget + whole r.estimate.cost < 2 ^ 53 at hlt
    omega
  · refine heff.accounted hbooks haccounts hest hday hop hcost hlt ?_
    rintro id r rfl htext scope hscope
    obtain ⟨hlast, hcolon⟩ := hop.1
    have hkey := LaneKey.text_injective hcolon hlane htext
    have hnot := not_cap_lt_of_admitted hcap (hadm now r hlast hkey) scope hscope
    rw [htext] at hnot
    exact covers_of_admitted hv (haccounts scope) ((hbooks scope).seen hday rfl now) hcost hlt hnot
  · rintro later r hlast rfl
    exact admitted_of_admission hstrict hlimits hlast

theorem lifetimeBound_after (hlane : ':' ∉ key.lane.toList)
    (hlimits : p.limits.enforced? key = some limits) (hcap : limits.lifetimeCost = some cap)
    (hv : Denotes cap v) {ops : Schedule} {l : Ledger} {last : Option (Instant × Request)} {n : ℤ}
    {carried : Scope → ℕ} {budget : ℕ} (h : LifetimeBound p key limits v carried budget l last n)
    (hn : ∀ x ∈ ops, n ≤ p.zone.dayNumber x.1) (hasc : ops.Ascending p.zone)
    (hrule : spendsReserved.Holds l last ops) (hcost : ∀ x ∈ ops, x.2.WholeCost)
    (hlt : budget + (ops.map (fun x => x.2.promise)).sum < 2 ^ 53) :
    ∃ last' n', LifetimeBound p key limits v (fun scope => carried scope + l.carried scope key.text ops)
      (budget + (ops.map (fun x => x.2.promise)).sum) (l.after ops) last' n' := by
  induction ops generalizing l last n carried budget with
  | nil => exact ⟨last, n, h⟩
  | cons x rest ih =>
    obtain ⟨now, op⟩ := x
    obtain ⟨hop, hrest⟩ := hrule
    obtain ⟨hle, hasc'⟩ := List.pairwise_cons.mp hasc
    rw [List.map_cons, List.sum_cons] at hlt
    dsimp only at hlt
    have hstep := lifetimeBound_step hlane hlimits hcap hv h (hn _ List.mem_cons_self) hop
      (hcost _ List.mem_cons_self) (by omega)
    have hafter := ih hstep (fun x hx => hle _ (List.mem_map_of_mem hx)) hasc' hrest
      (fun x hx => hcost x (List.mem_cons_of_mem _ hx)) (by omega)
    simpa only [List.map_cons, List.sum_cons, Ledger.carried, after_cons, Nat.add_assoc] using hafter

theorem committedCost_eq (s : LedgerState) (scope : Scope) (key : String) :
    committedCost s scope key = ((s.cell scope key).bucket.getD Bucket.blank).used.cost := by
  change ((s.bucket? scope key).map (fun b => b.used.cost)).getD 0.0 =
    ((s.bucket? scope key).getD Bucket.blank).used.cost
  cases s.bucket? scope key <;> rfl

/-- Over any days and for any callers of this kind, the cost that was committed in a scope is at most
the limit and what was carried over midnight. With nothing carried over it is never above the
limit. -/
theorem committed_le_lifetimeLimit (p : LedgerPolicy) (key : LaneKey) (limits : Limits)
    (cap : Float) (ops : Schedule) (hlane : ':' ∉ key.lane.toList)
    (hlimits : p.limits.enforced? key = some limits) (hcap : limits.lifetimeCost = some cap)
    (hpos : 0.0 ≤ cap) (hclock : ops.Ascending p.zone)
    (hcallers : spendsReserved.Holds (start p) none ops) (hcost : ∀ x ∈ ops, x.2.WholeCost)
    (hsum : (ops.map (fun x => x.2.promise)).sum < 2 ^ 53) (scope : Scope) :
    ∃ (v : EReal) (committed : ℕ), Denotes cap v ∧
      Denotes (((start p).after ops).state.historyCost scope key.text +
        committedCost ((start p).after ops).state scope key.text) (committed : ℝ) ∧
      ((committed : ℝ) : EReal) ≤ v + (((start p).carried scope key.text ops : ℝ) : EReal) ∧
      ((start p).carried scope key.text ops = 0 →
        ((start p).after ops).state.historyCost scope key.text +
          committedCost ((start p).after ops).state scope key.text ≤ cap) := by
  obtain ⟨-, v, hv⟩ := exists_denotes_of_le hpos
  have h0 : 0 ≤ v := (denotes_zero.le_iff hv).mp hpos
  obtain ⟨n, hn⟩ := hclock.exists_le
  have hstart : LifetimeBound p key limits v (fun _ => 0) 0 (start p) none n := by
    refine ⟨rfl, rfl, Books.empty _ _ n, fun scope => ?_, by simp [start, ofState], by simp⟩
    have hblank : LaneQuota.Accounted v 0 0 [] Bucket.blank [] := by
      refine ⟨by simp, isWhole_zero, ?_, ?_⟩
      · change 0 + whole Usage.zero.cost + 0 ≤ 0
        rw [whole_zero]
      · change Covers v (0 + whole Usage.zero.cost + whole Usage.zero.cost - 0)
        rw [whole_zero]
        simpa [Covers] using h0
    cases scope <;> exact hblank
  obtain ⟨last', n', hbound⟩ := lifetimeBound_after hlane hlimits hcap hv hstart hn hclock hcallers
    hcost (by omega)
  obtain ⟨harch, hlive, hspent, hcov⟩ := hbound.accounts scope
  have hcommitted := (denotes_archivedCost harch (by omega)).add_nat hlive.denotes (by omega)
  rw [committedCost_eq, LedgerState.historyCost_eq]
  refine ⟨v, _, hv, hcommitted, Covers.le_add (hcov.mono (by dsimp only; omega)), fun hzero => ?_⟩
  rw [hcommitted.le_iff hv]
  exact hcov.mono (by dsimp only; omega)

def ten : Usage := ⟨0, 0, 10.0⟩

def overMidnight : Schedule := [
  (noon 1, .canCall ⟨sampleLane, none, ten⟩), (noon 1, .reserve "a" ⟨sampleLane, none, ten⟩),
  (noon 2, .canCall ⟨sampleLane, none, ten⟩), (noon 2, .reserve "b" ⟨sampleLane, none, ten⟩),
  (noon 2, .commit "a" sampleLane none ten), (noon 2, .commit "b" sampleLane none ten)]

theorem overMidnight_spendsReserved :
    spendsReserved.Holds (start (samplePolicy ⟨none, some 10.0, true⟩)) none overMidnight := by
  refine ⟨⟨trivial, trivial⟩, ⟨⟨?_, ?_⟩, trivial⟩, ⟨trivial, trivial⟩, ⟨⟨?_, ?_⟩, trivial⟩,
    ⟨⟨_, rfl, rfl, rfl⟩, ?_⟩, ⟨⟨_, rfl, rfl, rfl⟩, ?_⟩, trivial⟩
  · decide +kernel
  · decide +kernel
  · decide +kernel
  · decide +kernel
  · intro r hr
    obtain rfl := Option.some.inj hr
    decide +kernel
  · intro r hr
    obtain rfl := Option.some.inj hr
    decide +kernel

theorem denotes_ten : Denotes ten.cost ((10 : ℕ) : ℝ) := by
  have hword : ten.cost = (10 : UInt64).toFloat := by decide
  rw [hword]
  exact denotes_toFloat_nat (by decide)

theorem overMidnight_wholeCost : ∀ x ∈ overMidnight, x.2.WholeCost := by
  have hten : IsWhole ten.cost := ⟨10, by norm_num, denotes_ten⟩
  intro x hx
  simp only [overMidnight, List.mem_cons, List.not_mem_nil, or_false] at hx
  rcases hx with rfl | rfl | rfl | rfl | rfl | rfl <;> first | exact hten | trivial

theorem overMidnight_promise : (overMidnight.map (fun x => x.2.promise)).sum = 20 := by
  simp [overMidnight, Operation.promise, denotes_ten.whole_eq]

theorem committed_le_lifetimeLimit_overMidnight :
    ∃ (v : EReal) (committed : ℕ), Denotes 10.0 v ∧
      Denotes (((start (samplePolicy ⟨none, some 10.0, true⟩)).after overMidnight).state.historyCost
          .shared sampleLane.text +
        committedCost ((start (samplePolicy ⟨none, some 10.0, true⟩)).after overMidnight).state
          .shared sampleLane.text) (committed : ℝ) ∧
      ((committed : ℝ) : EReal) ≤ v + (((start (samplePolicy ⟨none, some 10.0, true⟩)).carried
        .shared sampleLane.text overMidnight : ℝ) : EReal) := by
  obtain ⟨v, n, hv, hn, hle, -⟩ := committed_le_lifetimeLimit _ sampleLane ⟨none, some 10.0, true⟩
    10.0 overMidnight (by decide) (by decide +kernel) rfl (by decide) (by decide +kernel)
    overMidnight_spendsReserved overMidnight_wholeCost
    (by rw [overMidnight_promise]; norm_num) .shared
  exact ⟨v, n, hv, hn, hle⟩

/-- What is carried over does pass the limit: callers of this kind commit twenty where ten is the
limit. -/
theorem lifetimeLimit_passed_overMidnight :
    (samplePolicy ⟨none, some 10.0, true⟩).limits.enforced? sampleLane =
        some ⟨none, some 10.0, true⟩ ∧
      ':' ∉ sampleLane.lane.toList ∧
      overMidnight.Ascending (samplePolicy ⟨none, some 10.0, true⟩).zone ∧
      spendsReserved.Holds (start (samplePolicy ⟨none, some 10.0, true⟩)) none overMidnight ∧
      (∀ x ∈ overMidnight, x.2.WholeCost) ∧
      (overMidnight.map (fun x => x.2.promise)).sum < 2 ^ 53 ∧
      (10.0 : Float) <
        ((start (samplePolicy ⟨none, some 10.0, true⟩)).after overMidnight).state.historyCost .shared
          sampleLane.text +
        committedCost ((start (samplePolicy ⟨none, some 10.0, true⟩)).after overMidnight).state
          .shared sampleLane.text :=
  ⟨by decide +kernel, by decide, by decide +kernel, overMidnight_spendsReserved,
    overMidnight_wholeCost, by rw [overMidnight_promise]; norm_num, by decide +kernel⟩

end Ledger

end LaneQuota
