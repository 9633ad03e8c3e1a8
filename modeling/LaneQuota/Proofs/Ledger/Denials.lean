import LaneQuota.Proofs.Ledger.Exhaustion
import LaneQuota.Proofs.Ledger.Latch

/-!
# What a denial names

The latch of the shared bucket is a ground for denial that names the daily tokens. Where costs have
set it, a tenant is told of tokens that are still there.
-/

namespace LaneQuota

open Ledger

theorem Ledger.exhausted_canCall_iff (l : Ledger) (now : Instant) (r : Request)
    (b : ExhaustedBudget) : (l.canCall now r).answer.exhausted = some b ↔
      l.exemption? r.tenant = none ∧ ∃ limits ∈ l.policy.limits.enforced? r.key,
        (r.grounds l.policy (l.window now) now limits l.state).first = some b := by
  unfold canCall
  cases hexempt : l.exemption? r.tenant with
  | some reason => simp [CallDecision.allow]
  | none =>
    cases hget : l.policy.limits.get? r.key with
    | none => simp [LimitsTable.enforced?, hget, CallDecision.allow]
    | some limits =>
      have hweighs := (r.weighs_check l.policy (l.window now) now limits l.state).2
      simp only [LimitsTable.enforced?, hget, Option.filter_some]
      split_ifs with hstop
      · simp only [true_and, Option.mem_some_iff, exists_eq_left', ← hweighs]
        cases (r.check l.policy (l.window now) now limits l.state).denial <;>
          simp [CallDecision.allow, CallDecision.deny]
      · simp [CallDecision.allow]

theorem Grounds.mem_of_first {gs : Grounds} {b : ExhaustedBudget} (h : gs.first = some b) :
    (true, b) ∈ gs := by
  obtain ⟨⟨found, b'⟩, hfind, rfl⟩ := Option.map_eq_some_iff.mp h
  have hfound : found = true := List.find?_some hfind
  rw [← hfound]
  exact List.mem_of_find?_eq_some hfind

namespace Request

variable (r : Request) (p : LedgerPolicy) (w : Window) (now : Instant)

def Exhausted (limits : Limits) (s : LedgerState) : ExhaustedBudget → Prop
  | .hardStopped => ((s.cell r.ownScope r.key.text).seen w now).hardStopped = true
  | .dailyTokens => r.tenant.isSome = true ∧ ∃ d ∈ limits.dailyTokens,
      p.exceedsDaily ((s.cell r.ownScope r.key.text).seen w now) r.estimate d = true
  | .sharedDailyTokens => ∃ d ∈ limits.dailyTokens,
      p.exceedsDaily ((s.cell .shared r.key.text).seen w now) r.estimate d = true ∨
        d ≤ ((s.cell .shared r.key.text).seen w now).used.totalTokens
  | .lifetimeCost => ∃ cap ∈ limits.lifetimeCost, ∃ scope ∈ Scope.charged r.tenant,
      cap < (s.cell scope r.key.text).spent w now + r.estimate.cost

instance decidableExhausted (limits : Limits) (s : LedgerState) (b : ExhaustedBudget) :
    Decidable (r.Exhausted p w now limits s b) :=
  match b with
  | .hardStopped => inferInstanceAs (Decidable (_ = _))
  | .dailyTokens => inferInstanceAs (Decidable (_ ∧ _))
  | .sharedDailyTokens => inferInstanceAs (Decidable (∃ d ∈ limits.dailyTokens, _))
  | .lifetimeCost => inferInstanceAs (Decidable (∃ cap ∈ limits.lifetimeCost, _))

structure Misled (d : UInt64) (s : LedgerState) : Prop where
  tenant : r.tenant.isSome = true
  unlatched : ((s.cell r.ownScope r.key.text).seen w now).hardStopped = false
  room : p.exceedsDaily ((s.cell r.ownScope r.key.text).seen w now) r.estimate d = false
  latched : ((s.cell .shared r.key.text).seen w now).hardStopped = true
  sharedRoom : p.exceedsDaily ((s.cell .shared r.key.text).seen w now) r.estimate d = false
  tokensLeft : ((s.cell .shared r.key.text).seen w now).used.totalTokens < d

variable {r p w now} {limits : Limits} {s : LedgerState} {b : ExhaustedBudget} {d : UInt64}

theorem exhausted_of_dailyGrounds (hd : d ∈ limits.dailyTokens)
    (hlatch : ((s.cell r.ownScope r.key.text).seen w now).hardStopped = false)
    (h : (r.dailyGrounds p w now s d).first = some b) :
    r.Exhausted p w now limits s b ∨ b = .sharedDailyTokens ∧ r.Misled p w now d s := by
  unfold dailyGrounds at h
  dsimp only at h
  split_ifs at h with ht
  · rw [Grounds.first_cons, Grounds.first_cons] at h
    split_ifs at h with hown hshared
    · obtain rfl := Option.some.inj h
      exact Or.inl ⟨ht, d, hd, hown⟩
    -- The shared bucket may be latched, and then its tokens need not be the reason.
    · obtain rfl := Option.some.inj h
      by_cases hover : p.exceedsDaily ((s.cell .shared r.key.text).seen w now) r.estimate d = true
      · exact Or.inl ⟨d, hd, Or.inl hover⟩
      rw [Bool.or_eq_true, or_iff_left hover] at hshared
      by_cases hused : d ≤ ((s.cell .shared r.key.text).seen w now).used.totalTokens
      · exact Or.inl ⟨d, hd, Or.inr hused⟩
      exact Or.inr ⟨rfl, ht, hlatch, by simpa using hown, hshared, by simpa using hover,
        UInt64.not_le.mp hused⟩
    · contradiction
  · rw [Grounds.first_cons] at h
    split_ifs at h with hown
    · obtain rfl := Option.some.inj h
      have hscope : r.ownScope = .shared := by
        rw [ownScope, Option.not_isSome_iff_eq_none.mp ht]
        rfl
      rw [hscope] at hown
      exact Or.inl ⟨d, hd, Or.inl hown⟩
    · contradiction

theorem exhausted_of_grounds (h : (r.grounds p w now limits s).first = some b) :
    r.Exhausted p w now limits s b ∨
      b = .sharedDailyTokens ∧ ∃ d ∈ limits.dailyTokens, r.Misled p w now d s := by
  rw [grounds, Grounds.first_cons, Grounds.first_append] at h
  split_ifs at h with hlatch
  · obtain rfl := Option.some.inj h
    exact Or.inl hlatch
  · rcases Option.or_eq_some_iff.mp h with hdaily | ⟨-, hcost⟩
    · cases hd : limits.dailyTokens with
      | none =>
        rw [hd] at hdaily
        contradiction
      | some d =>
        rw [hd] at hdaily
        have hnamed := exhausted_of_dailyGrounds hd (by simpa using hlatch) hdaily
        exact hnamed.imp_right (fun hmisled => ⟨hmisled.1, d, rfl, hmisled.2⟩)
    · cases hcap : limits.lifetimeCost with
      | none =>
        rw [hcap] at hcost
        contradiction
      | some cap =>
        rw [hcap] at hcost
        obtain ⟨scope, hscope, heq⟩ := List.mem_map.mp (Grounds.mem_of_first hcost)
        obtain ⟨hover, rfl⟩ := Prod.mk.inj heq
        exact Or.inl ⟨cap, hcap, scope, hscope, of_decide_eq_true hover⟩

theorem Misled.first_grounds (h : r.Misled p w now d s) (hd : d ∈ limits.dailyTokens) :
    (r.grounds p w now limits s).first = some .sharedDailyTokens := by
  rw [Option.mem_def] at hd
  rw [grounds, Grounds.first_cons, Grounds.first_append, hd]
  simp [dailyGrounds, Grounds.first_cons, h.tenant, h.unlatched, h.room, h.latched]

theorem Misled.not_exhausted (h : r.Misled p w now d s) (hd : d ∈ limits.dailyTokens) :
    ¬r.Exhausted p w now limits s .sharedDailyTokens := by
  rintro ⟨d', hd', hover | hused⟩
  · obtain rfl := Option.mem_unique hd hd'
    rw [h.sharedRoom] at hover
    contradiction
  · obtain rfl := Option.mem_unique hd hd'
    exact UInt64.not_le.mpr h.tokensLeft hused

end Request

theorem Limits.reached_mono {limits : Limits} {cost : Float} {u v : Usage} (hcost : 0.0 ≤ cost)
    (hu : 0.0 ≤ u.cost) (htokens : u.totalTokens ≤ v.totalTokens) (hle : u.cost ≤ v.cost)
    (h : limits.reached cost u = true) : limits.reached cost v = true := by
  simp only [reached, Bool.or_eq_true, Option.any_eq_true, decide_eq_true_eq] at h ⊢
  rcases h with ⟨d, hd, hused⟩ | ⟨cap, hcap, hused⟩
  · exact Or.inl ⟨d, hd, UInt64.le_trans hused htokens⟩
  · exact Or.inr ⟨cap, hcap, Double.float_le_trans hused
      (Double.add_le_add_of_zero_le hcost hu (Double.float_le_refl hcost) hle)⟩

def Bucket.Justified (limits : Limits) (cost : Float) (b : Bucket) : Prop :=
  b.hardStopped = true → limits.reached cost b.used = true

theorem Bucket.Justified.latchedUnder {limits : Limits} {cost : Float} {b b' : Bucket}
    (h : b.Justified limits cost) (hstop : b'.hardStopped = b.hardStopped)
    (hmono : limits.reached cost b.used = true → limits.reached cost b'.used = true) :
    (Ledger.latchedUnder (some limits) cost b').Justified limits cost := by
  obtain ⟨hused, hlatch⟩ := Prod.mk.inj (b'.tally_latchedUnder cost (some limits))
  intro hon
  rw [hlatch, hstop, Bool.or_eq_true] at hon
  rw [hused]
  rcases hon with hon | hon
  · exact hmono (h hon)
  · exact hon

namespace Cell

variable {c c' : Cell} {w : Window} {now : Instant} {limits : Limits}

structure Justified (limits : Limits) (c : Cell) : Prop where
  nonneg : c.Nonneg
  bucket : ∀ b, c.bucket = some b → b.Justified limits (archivedCost c.history)

theorem Justified.seen (h : c.Justified limits) (w : Window) (now : Instant) :
    (c.seen w now).Justified limits (archivedCost (c.archive w)) := by
  have hfresh : ∀ cost, (Bucket.fresh w now).Justified limits cost := fun _ hstop =>
    absurd hstop Bool.false_ne_true
  cases hb : c.bucket with
  | none =>
    simp only [Cell.seen, hb]
    exact hfresh _
  | some b =>
    by_cases hday : b.day = w.day
    · simp only [Cell.seen, Cell.archive, hb, hday, if_true, true_or]
      exact h.bucket b hb
    · simp only [Cell.seen, hb, hday, if_false]
      exact hfresh _

theorem Justified.adjust (h : c.Justified limits) {f : Bucket → Bucket}
    (hnonneg : ∀ b : Bucket, b.Nonneg → (f b).Nonneg)
    (hf : ∀ b : Bucket, b.Nonneg → b.Justified limits (archivedCost (c.archive w)) →
      (f b).Justified limits (archivedCost (c.archive w))) :
    (c.adjust w now f).Justified limits := by
  refine ⟨every_adjust (fun w => .fresh w now) (fun _ hb => hb) hnonneg h.nonneg, ?_⟩
  intro b hb
  rw [← Option.some.inj hb]
  exact hf _ (h.nonneg.seen w now) (h.seen w now)

theorem Justified.spending (h : c.Justified limits) (usage : Usage) :
    (c.spending w now (some limits) usage).Justified limits :=
  h.adjust (fun _ hb => (hb.withUse usage).latchedUnder _ _) (fun b hb hj =>
    hj.latchedUnder rfl (Limits.reached_mono (h.nonneg.zero_le_archivedCost w) hb.used
      (b.used.totalTokens_le_plus usage) (hb.cost_le_withUse usage)))

theorem Justified.releasing (h : c.Justified limits) (r : Reservation) :
    (c.releasing w now r).Justified limits :=
  h.adjust (fun _ hb => hb.withoutHold r) (fun _ _ hj => hj)

theorem Justified.rewritten (h : c.Justified limits)
    (hr : c.Rewritten (fun ls => ls = some limits) w now c') : c'.Justified limits := by
  cases hr with
  | same => exact h
  | moved => exact h.adjust (fun _ hb => hb) (fun _ _ hj => hj)
  | held estimate => exact h.adjust (fun _ hb => hb.withHold estimate) (fun _ _ hj => hj)
  | released r => exact h.releasing r
  | spent hlimits usage =>
    rw [hlimits]
    exact h.spending usage
  | settled hlimits r usage =>
    rw [hlimits]
    exact (h.releasing r).spending usage
  | reported hlimits drift =>
    rw [hlimits]
    exact h.adjust (fun _ hb => (hb.withReport drift).latchedUnder _ _) (fun b hb hj =>
      hj.latchedUnder rfl (Limits.reached_mono (h.nonneg.zero_le_archivedCost w) hb.used
        (b.totalTokens_le_withReport drift now) (Double.float_le_refl hb.used)))

end Cell

namespace Ledger

theorem justified_after {p : LedgerPolicy} {key : LaneKey} {limits : Limits} {ops : Schedule}
    (hkey : key.Plain) (hops : ∀ x ∈ ops, ∀ lane ∈ x.2.lane?, lane.Plain)
    (hlimits : p.limits.enforced? key = some limits) (scope : Scope) :
    (((start p).after ops).state.cell scope key.text).Justified limits := by
  have hstart : ((start p).state.cell scope key.text).Justified limits := by
    cases scope <;> exact ⟨fun b hb => absurd hb List.not_mem_nil, fun b hb => by contradiction⟩
  have hlanes := plain_lanes_limits (p := p) hkey hops
  rw [hlimits] at hlanes
  exact after_of_rewritten (P := fun c => c.Justified limits) (heldUnder_start p _ _) hlanes
    (fun x _ c c' hc hr => hc.rewritten hr) hstart

variable (l : Ledger) (now : Instant) (r : Request)

def Exhausted (b : ExhaustedBudget) : Prop :=
  ∃ limits ∈ l.policy.limits.enforced? r.key,
    r.Exhausted l.policy (l.window now) now limits l.state b

instance (b : ExhaustedBudget) : Decidable (l.Exhausted now r b) :=
  inferInstanceAs (Decidable (∃ limits ∈ l.policy.limits.enforced? r.key, _))

def Misleads : Prop :=
  l.exemption? r.tenant = none ∧ ∃ limits ∈ l.policy.limits.enforced? r.key,
    ∃ d ∈ limits.dailyTokens, r.Misled l.policy (l.window now) now d l.state

variable {l now r}

theorem exhausted_of_denied {b : ExhaustedBudget}
    (h : (l.canCall now r).answer.exhausted = some b) :
    l.Exhausted now r b ∨ b = .sharedDailyTokens ∧ l.Misleads now r := by
  obtain ⟨hexempt, limits, hlimits, hfirst⟩ := (l.exhausted_canCall_iff now r b).mp h
  rcases Request.exhausted_of_grounds hfirst with hnamed | ⟨hb, d, hd, hm⟩
  · exact Or.inl ⟨limits, hlimits, hnamed⟩
  · exact Or.inr ⟨hb, hexempt, limits, hlimits, d, hd, hm⟩

theorem Misleads.denied (h : l.Misleads now r) :
    (l.canCall now r).answer.exhausted = some .sharedDailyTokens := by
  obtain ⟨hexempt, limits, hlimits, d, hd, hm⟩ := h
  exact (l.exhausted_canCall_iff now r _).mpr ⟨hexempt, limits, hlimits, hm.first_grounds hd⟩

theorem Misleads.not_exhausted (h : l.Misleads now r) :
    ¬l.Exhausted now r .sharedDailyTokens := by
  obtain ⟨-, limits, hlimits, d, hd, hm⟩ := h
  rintro ⟨limits', hlimits', hnamed⟩
  obtain rfl := Option.mem_unique hlimits hlimits'
  exact hm.not_exhausted hd hnamed

/-- A denial names a budget that is exhausted, but for a tenant that only the latch of the shared
bucket stops: that tenant is told of the shared daily tokens, though there is room for its tokens
and some are left. For lanes with plain names such a latch is the doing of the lifetime limit. -/
theorem denial_names_exhausted_or_misleads (now : Instant) (r : Request) :
    (∀ (l : Ledger) (b : ExhaustedBudget), (l.canCall now r).answer.exhausted = some b →
      l.Exhausted now r b ∨ b = .sharedDailyTokens ∧ l.Misleads now r) ∧
    (∀ l : Ledger, l.Misleads now r →
      (l.canCall now r).answer.exhausted = some .sharedDailyTokens ∧
        ¬l.Exhausted now r .sharedDailyTokens) ∧
    ∀ (p : LedgerPolicy) (ops : Schedule), r.key.Plain →
      (∀ x ∈ ops, ∀ lane ∈ x.2.lane?, lane.Plain) → ((start p).after ops).Misleads now r →
        ∃ limits ∈ p.limits.enforced? r.key, ∃ cap ∈ limits.lifetimeCost,
          cap ≤ archivedCost ((((start p).after ops).state.cell .shared r.key.text).archive
              (Window.at now p.zone)) +
            ((((start p).after ops).state.cell .shared r.key.text).seen (Window.at now p.zone)
              now).used.cost := by
  refine ⟨fun l b h => exhausted_of_denied h, fun l h => ⟨h.denied, h.not_exhausted⟩, ?_⟩
  rintro p ops hkey hops ⟨-, limits, hlimits, d, hd, hm⟩
  have hpolicy : ((start p).after ops).policy = p := policy_after _ _
  rw [window, hpolicy] at hm
  rw [hpolicy] at hlimits
  have hreached := (justified_after hkey hops hlimits .shared).seen (Window.at now p.zone) now
    hm.latched
  simp only [Limits.reached, Bool.or_eq_true, Option.any_eq_true, decide_eq_true_eq] at hreached
  rcases hreached with ⟨d', hd', hused⟩ | ⟨cap, hcap, hle⟩
  · obtain rfl := Option.mem_unique hd hd'
    exact absurd hused (UInt64.not_le.mpr hm.tokensLeft)
  · exact ⟨limits, hlimits, cap, hcap, hle⟩

def costOfOneTenant : Schedule := [(noon 1, .commit "a" sampleLane (some "ann") ⟨0, 0, 10.0⟩)]

theorem denial_misleads_costOfOneTenant :
    let l := (start (samplePolicy ⟨some 1000, some 10.0, true⟩)).after costOfOneTenant
    let r : Request := ⟨sampleLane, some "bob", ⟨5, 0, 1.0⟩⟩
    (l.canCall (noon 1) r).answer.exhausted = some .sharedDailyTokens ∧
      ¬l.Exhausted (noon 1) r .sharedDailyTokens ∧
      ∃ limits ∈ (samplePolicy ⟨some 1000, some 10.0, true⟩).limits.enforced? r.key,
        ∃ cap ∈ limits.lifetimeCost,
          cap ≤ archivedCost ((l.state.cell .shared r.key.text).archive
              (Window.at (noon 1) (samplePolicy ⟨some 1000, some 10.0, true⟩).zone)) +
            ((l.state.cell .shared r.key.text).seen
              (Window.at (noon 1) (samplePolicy ⟨some 1000, some 10.0, true⟩).zone)
              (noon 1)).used.cost := by
  intro l r
  have hm : r.Misled l.policy (l.window (noon 1)) (noon 1) 1000 l.state :=
    ⟨rfl, by decide +kernel, by decide +kernel, by decide +kernel, by decide +kernel,
      by decide +kernel⟩
  have hmisleads : l.Misleads (noon 1) r :=
    ⟨by decide +kernel, ⟨some 1000, some 10.0, true⟩, by decide +kernel, 1000, rfl, hm⟩
  obtain ⟨-, hdenied, hcause⟩ := denial_names_exhausted_or_misleads (noon 1) r
  obtain ⟨hexhausted, hnot⟩ := hdenied l hmisleads
  exact ⟨hexhausted, hnot, hcause _ _ (by decide) (by decide +kernel) hmisleads⟩

/-- The message blames the shared daily tokens, of which none is used; it is the lifetime limit that
is exhausted. -/
theorem message_blames_unusedTokens :
    let l := (start (samplePolicy ⟨some 1000, some 10.0, true⟩)).after costOfOneTenant
    let r : Request := ⟨sampleLane, some "bob", ⟨5, 0, 1.0⟩⟩
    (r.estimate.cost.isFinite = true ∧ 0.0 ≤ r.estimate.cost) ∧
      (l.canCall (noon 1) r).answer.allowed = false ∧
      (l.canCall (noon 1) r).answer.exhausted = some .sharedDailyTokens ∧
      (l.canCall (noon 1) r).answer.policyMessage = some
        ("This request was not sent because the shared daily token budget has been used up. " ++
          "A lower-cost option will be used where possible.") ∧
      ¬l.Exhausted (noon 1) r .sharedDailyTokens ∧ l.Exhausted (noon 1) r .lifetimeCost := by
  decide +kernel

end Ledger

end LaneQuota
