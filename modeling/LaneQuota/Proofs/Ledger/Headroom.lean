import LaneQuota.Ledger.Query
import LaneQuota.Proofs.Ledger.Latch
import LaneQuota.Proofs.Ledger.Threshold

/-!
# Headroom

Where a daily limit is the only one, what a budget query says is left is what admission still lets
in: one path takes the whole part of the buffered limit and subtracts, the other adds and compares
doubles. A latch leaves nothing.
-/

namespace LaneQuota

open Double Ledger

variable {p : LedgerPolicy} {b : Bucket} {estimate : Usage} {limits : Limits} {d : UInt64}

namespace LedgerPolicy

def headroom (p : LedgerPolicy) (d : UInt64) (b : Bucket) : UInt64 :=
  subTokens (p.bufferedTokens d) b.heldTokens

structure Buffers (p : LedgerPolicy) (d : UInt64) : Prop where
  le : (p.bufferedTokens d).toNat ≤ d.toNat
  small : d.toNat < Word.maxUnsigned64
  fits : ∀ t : UInt64, ¬d.toFloat * p.bufferRatio < t.toFloat ↔ t ≤ p.bufferedTokens d

theorem buffers_inZone (zone : Zone) (s : LedgerSettings) (table : LimitsTable)
    (hd : d.toNat < 2 ^ 53) : (inZone zone s table).Buffers d := by
  obtain ⟨r, h0, h1, hr⟩ := denotes_bufferRatio s
  obtain ⟨hle, hfits⟩ := le_bufferedLimit_iff hr h0 h1 hd
  exact ⟨hle, hd.trans (by decide), fun t => (hfits t).1⟩

theorem Buffers.exceedsDaily_iff (h : p.Buffers d) (hestimate : 0 < estimate.totalTokens) :
    p.exceedsDaily b estimate d = false ↔ estimate.totalTokens ≤ p.headroom d b := by
  have hpos := UInt64.lt_iff_toNat_lt.mp hestimate
  have hle := h.le
  have hsmall := h.small
  rw [exceedsDaily, decide_eq_false_iff_not, h.fits, UInt64.le_iff_toNat_le, UInt64.le_iff_toNat_le,
    headroom, toNat_addTokens, toNat_subTokens]
  rw [UInt64.toNat_zero] at hpos
  omega

theorem Buffers.headroom_of_reached (h : p.Buffers d) (hreached : d ≤ b.used.totalTokens) :
    p.headroom d b = 0 := by
  have hle := h.le
  have hused : b.used.totalTokens.toNat ≤ b.heldTokens.toNat := by
    rw [Bucket.heldTokens, toNat_addTokens]
    have := b.used.totalTokens.toNat_lt
    simp only [Word.maxUnsigned64]
    omega
  rw [UInt64.le_iff_toNat_le] at hreached
  rw [headroom, ← UInt64.toNat_inj, toNat_subTokens, UInt64.toNat_zero]
  omega

theorem Buffers.admits_iff (h : p.Buffers d) (hb : b.LatchedAt d)
    (hestimate : 0 < estimate.totalTokens) :
    b.hardStopped = false ∧ p.exceedsDaily b estimate d = false ↔
      estimate.totalTokens ≤ p.headroom d b := by
  rw [h.exceedsDaily_iff hestimate]
  refine ⟨And.right, fun hroom => ⟨?_, hroom⟩⟩
  by_contra hstop
  have hreached := hb.mp (Bool.eq_true_of_not_eq_false hstop)
  rw [h.headroom_of_reached hreached] at hroom
  exact absurd hestimate (UInt64.not_lt.mpr hroom)

end LedgerPolicy

theorem Cell.LatchedAt.seen {c : Cell} (h : c.LatchedAt d) (hd : 0 < d) (w : Window)
    (now : Instant) : (c.seen w now).LatchedAt d :=
  h.adjust (f := id) hd (fun _ hb => hb) _ rfl

namespace Ledger

variable {l : Ledger} {now : Instant} {key : LaneKey} {tenant : Option String}

theorem tokens_remainingBudget (hget : l.policy.limits.get? key = some limits)
    (hdaily : limits.dailyTokens = some d) :
    (l.remainingBudget now key tenant).answer.tokens = some (l.policy.headroom d
      ((l.state.cell (Scope.ofTenant tenant) key.text).seen (l.window now) now)) := by
  simp only [remainingBudget, ask, hget, LedgerPolicy.remaining, hdaily, Option.map_some,
    LedgerState.bucket_current]
  rfl

theorem allowed_iff_le_headroom (now : Instant) (hbuffers : l.policy.Buffers d) (hd : 0 < d)
    (hexempt : l.exemption? tenant = none) (hlimits : l.policy.limits.enforced? key = some limits)
    (hdaily : limits.dailyTokens = some d) (hlifetime : limits.lifetimeCost = none)
    (hlatched : ∀ scope, (l.state.cell scope key.text).LatchedAt d)
    (hestimate : 0 < estimate.totalTokens) :
    (l.canCall now ⟨key, tenant, estimate⟩).answer.allowed = true ↔
      ∀ scope ∈ Scope.charged tenant, estimate.totalTokens ≤
        l.policy.headroom d ((l.state.cell scope key.text).seen (l.window now) now) := by
  have hadmits := fun scope =>
    hbuffers.admits_iff ((hlatched scope).seen hd (l.window now) now) hestimate
  rw [l.allowed_canCall_iff now hexempt hlimits]
  simp only [← hadmits]
  constructor
  · intro h scope hscope
    obtain ⟨hown, hshared⟩ := h.daily d hdaily
    rcases scope_cases hscope with rfl | ⟨ht, rfl⟩
    · exact ⟨h.latch, hown⟩
    · exact hshared ht
  · intro h
    have hown := h (Scope.ofTenant tenant) (by cases tenant <;> simp [Scope.charged, Scope.ofTenant])
    refine ⟨hown.1, fun d' hd' => ?_, by simp [hlifetime]⟩
    obtain rfl := Option.some.inj (hdaily.symm.trans hd')
    refine ⟨hown.2, fun ht => h .shared ?_⟩
    obtain ⟨t, rfl⟩ := Option.isSome_iff_exists.mp ht
    simp [Scope.charged]

theorem advertised_headroom_is_admitted (zone : Zone) (s : LedgerSettings) (table : LimitsTable)
    (key : LaneKey) (limits : Limits) (d : UInt64) (ops : Schedule) (now : Instant)
    (estimate : Usage)
    (hkey : key.Plain) (hops : ∀ x ∈ ops, ∀ lane ∈ x.2.lane?, lane.Plain)
    (hlimits : table.enforced? key = some limits) (hdaily : limits.dailyTokens = some d)
    (hd : 0 < d) (hsmall : d.toNat < 2 ^ 53) (hlifetime : limits.lifetimeCost = none)
    (hestimate : 0 < estimate.totalTokens) :
    let l := (start (.inZone zone s table)).after ops
    l.state.unlimited = false →
      ∃ shared, (l.remainingBudget now key none).answer.tokens = some shared ∧
        ((l.canCall now ⟨key, none, estimate⟩).answer.allowed = true ↔
          estimate.totalTokens ≤ shared) ∧
        ∀ t, l.state.exempt.contains t = false →
          ∃ own, (l.remainingBudget now key (some t)).answer.tokens = some own ∧
            ((l.canCall now ⟨key, some t, estimate⟩).answer.allowed = true ↔
              estimate.totalTokens ≤ own ∧ estimate.totalTokens ≤ shared) := by
  intro l hlimited
  have hpolicy : l.policy = .inZone zone s table := policy_after _ _
  have hbuffers : l.policy.Buffers d := by
    rw [hpolicy]
    exact LedgerPolicy.buffers_inZone zone s table hsmall
  have henforced : l.policy.limits.enforced? key = some limits := by
    rw [hpolicy]
    exact hlimits
  have hget := (Option.filter_eq_some_iff.mp henforced).1
  have hlatched : ∀ scope, (l.state.cell scope key.text).LatchedAt d :=
    latchedAt_after hkey hops hlimits hdaily hd hlifetime
  have hallowed := fun tenant (hexempt : l.exemption? tenant = none) => allowed_iff_le_headroom
    now hbuffers hd hexempt henforced hdaily hlifetime hlatched hestimate
  refine ⟨_, tokens_remainingBudget hget hdaily, ?_, fun t ht =>
    ⟨_, tokens_remainingBudget hget hdaily, ?_⟩⟩
  · rw [hallowed none (by simp [exemption?, hlimited])]
    simp [Scope.charged, Scope.ofTenant]
  · rw [hallowed (some t) (by simp [exemption?, hlimited, ht])]
    simp [Scope.charged, Scope.ofTenant]

def partlyHeld : Schedule := [(noon 1, .reserve "a" ⟨sampleLane, some "ann", .ofTokens 40 0⟩)]

theorem advertised_headroom_is_admitted_partlyHeld :
    let l := (start (samplePolicy ⟨some 99, none, true⟩)).after partlyHeld
    (l.remainingBudget (noon 1) sampleLane none).answer.tokens = some 54 ∧
      (l.remainingBudget (noon 1) sampleLane (some "bob")).answer.tokens = some 94 ∧
      (l.canCall (noon 1) ⟨sampleLane, some "bob", .ofTokens 50 4⟩).answer.allowed = true ∧
      (l.canCall (noon 1) ⟨sampleLane, some "bob", .ofTokens 50 5⟩).answer.allowed = false := by
  intro l
  have hshared : (l.remainingBudget (noon 1) sampleLane none).answer.tokens = some 54 := by
    decide +kernel
  have hown : (l.remainingBudget (noon 1) sampleLane (some "bob")).answer.tokens = some 94 := by
    decide +kernel
  have hbob : ∀ estimate : Usage, 0 < estimate.totalTokens →
      ((l.canCall (noon 1) ⟨sampleLane, some "bob", estimate⟩).answer.allowed = true ↔
        estimate.totalTokens ≤ 94 ∧ estimate.totalTokens ≤ 54) := by
    intro estimate hestimate
    obtain ⟨shared, hshared', -, htenants⟩ := advertised_headroom_is_admitted
      (LedgerSettings.standard.zone ZoneTable.named) .standard
      ⟨[⟨sampleLane, ⟨some 99, none, true⟩⟩]⟩ sampleLane ⟨some 99, none, true⟩ 99
      partlyHeld (noon 1) estimate (by decide) (by decide +kernel)
      (by decide +kernel) rfl (by decide) (by decide) rfl hestimate (by decide +kernel)
    obtain ⟨own, hown', hallowed⟩ := htenants "bob" (by decide +kernel)
    rwa [← Option.some.inj (hshared.symm.trans hshared'),
      ← Option.some.inj (hown.symm.trans hown')] at hallowed
  refine ⟨hshared, hown, (hbob _ (by decide)).mpr (by decide), ?_⟩
  rw [← Bool.not_eq_true, hbob _ (by decide)]
  decide

end Ledger

end LaneQuota
