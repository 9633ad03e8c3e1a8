import LaneQuota.Proofs.Ledger.Callers
import LaneQuota.Proofs.Ledger.Sanitizing

/-!
# Invalid costs

Where it is added, an invalid cost counts as zero. Where it is compared with a limit or taken away
from what is reserved, it does not, and every such cost shows in both places.
-/

namespace LaneQuota

open Ledger Double Float.Model

namespace Double

theorem invalid_cases {c : Float} (h : ¬(c.isFinite = true ∧ 0.0 ≤ c)) :
    c.toModel.unpack = .notANumber ∨ (∃ s, c.toModel.unpack = .infinity s) ∨
      ∃ r : ℝ, 0 < r ∧ Denotes c ((-r : ℝ) : EReal) := by
  by_cases hfinite : c.isFinite = true
  · obtain ⟨v, hv⟩ := (isFinite_iff c).mp hfinite
    have hneg : ¬0.0 ≤ c := fun hle => h ⟨hfinite, hle⟩
    rw [denotes_zero.le_iff hv, not_le] at hneg
    refine Or.inr (Or.inr ⟨-v, ?_, ?_⟩)
    · exact neg_pos.mpr (by exact_mod_cast hneg)
    · rwa [neg_neg]
  · cases hu : c.toModel.unpack with
    | notANumber => exact Or.inl rfl
    | infinity s => exact Or.inr (Or.inl ⟨s, rfl⟩)
    | zero s => exact absurd ((isFinite_iff c).mpr ⟨0, by rw [Denotes, hu]; rfl⟩) hfinite
    | finite s m e hm =>
      exact absurd ((isFinite_iff c).mpr ⟨_, by rw [Denotes, hu, meaning_finite_apply]⟩) hfinite

variable {c : Float} {u : UnpackedFloat}

theorem add_of_unpack (x : Float) (h : c.toModel.unpack = u) : x + c =
    Float.ofModel (Float.Model.pack (UnpackedFloat.add Format.binary64 x.toModel.unpack u)) :=
  congrArg (fun u => Float.ofModel (Float.Model.pack
    (UnpackedFloat.add Format.binary64 x.toModel.unpack u))) h

theorem sub_of_unpack (x : Float) (h : c.toModel.unpack = u) : x - c =
    Float.ofModel (Float.Model.pack (UnpackedFloat.sub Format.binary64 x.toModel.unpack u)) :=
  congrArg (fun u => Float.ofModel (Float.Model.pack
    (UnpackedFloat.sub Format.binary64 x.toModel.unpack u))) h

theorem Denotes.negated {r : ℝ} (h : Denotes c ((-r : ℝ) : EReal)) : Denotes (0.0 - c) (r : ℝ) := by
  have hzero : Denotes 0.0 ((0 : ℝ) : EReal) := denotes_zero
  have hrep : Representable r := by simpa [Representable] using h.representable
  have hsub := hzero.sub h
  rwa [zero_sub, neg_neg, rounded_of_representable hrep] at hsub

theorem Denotes.pos_negated {r : ℝ} (h : Denotes c ((-r : ℝ) : EReal)) (hr : 0 < r) :
    0.0 < 0.0 - c := by
  rw [denotes_zero.lt_iff h.negated]
  exact_mod_cast hr

theorem Denotes.zero_plus {z y : Float} {r : ℝ} (hz : Denotes z 0) (hy : Denotes y (r : ℝ)) :
    Denotes (z + y) (r : ℝ) := by
  have hzero : Denotes z ((0 : ℝ) : EReal) := hz
  have hsum := hzero.add hy
  rwa [zero_add, rounded_of_representable hy.representable] at hsum

end Double

theorem soundCost_of_invalid {c : Float} (h : ¬(c.isFinite = true ∧ 0.0 ≤ c)) : soundCost c = 0.0 := by
  apply if_neg
  rw [Bool.and_eq_true, decide_eq_true_eq]
  rintro ⟨hfinite, hpos⟩
  exact h ⟨hfinite, float_le_of_lt hpos⟩

namespace Ledger

def lent (now : Instant) (id : String) (r : Request) : Schedule :=
  [(now, .reserve id r), (now, .rollback id .release)]

variable {l : Ledger} {now : Instant} {id : String}

theorem ledger_reserve (hid : l.reservations.get? id = none) (r : Request) :
    (l.reserve now id r).ledger = { l with
      state := hold l.state r.key.text r.tenant r.estimate (l.window now) now
      reservations := l.reservations.insert id ⟨r.key, r.tenant, r.estimate, (l.window now).day⟩ } := by
  rw [reserve, SortedMap.contains, hid]
  rfl

theorem seen_lent {r : Request} {scope : Scope} (hid : l.reservations.get? id = none)
    (hscope : scope ∈ Scope.charged r.tenant) :
    ((l.after (lent now id r)).state.cell scope r.key.text).seen (l.window now) now =
      (((l.state.cell scope r.key.text).seen (l.window now) now).withHold r.estimate now).withoutHold
        ⟨r.key, r.tenant, r.estimate, (l.window now).day⟩ now := by
  have hstate : (l.after (lent now id r)).state =
      release (hold l.state r.key.text r.tenant r.estimate (l.window now) now)
        ⟨r.key, r.tenant, r.estimate, (l.window now).day⟩ (l.window now) now := by
    change ((l.reserve now id r).ledger.rollback now id .release).ledger.state = _
    rw [ledger_reserve hid, rollback]
    simp only [SortedMap.get?_insert_self]
    rfl
  have hheld : ∀ b : Bucket, (b.withHold r.estimate now).day = b.day := fun _ => rfl
  have hback : ∀ b : Bucket, (b.withoutHold ⟨r.key, r.tenant, r.estimate, (l.window now).day⟩
    now).day = b.day := fun _ => rfl
  rw [hstate, cell_release, if_pos ⟨hscope, rfl⟩, cell_hold, if_pos ⟨hscope, rfl⟩, Cell.releasing,
    Cell.holding, Cell.seen_adjust _ hback, Cell.seen_adjust _ hheld]

theorem answer_reservedUsage (l : Ledger) (now : Instant) (key : LaneKey) :
    (l.reservedUsage now key none).answer =
      ((l.state.cell .shared key.text).seen (l.window now) now).reserved := by
  change (l.state.current .shared key.text (l.window now) now).bucket.reserved = _
  rw [LedgerState.bucket_current]

theorem reserved_lent (key : LaneKey) (u : Usage) (hid : l.reservations.get? id = none) :
    ((l.after (lent now id ⟨key, none, u⟩)).reservedUsage now key none).answer =
      ((l.reservedUsage now key none).answer.plus u).minus u := by
  have hwindow : (l.after (lent now id ⟨key, none, u⟩)).window now = l.window now := by
    rw [window, policy_after]
    rfl
  rw [answer_reservedUsage, answer_reservedUsage, hwindow, seen_lent hid List.mem_cons_self]
  exact if_pos (Cell.day_seen _ _ _)

def waiting (zone : Zone) (y : Float) : Ledger :=
  (start (.inZone zone .standard ⟨[⟨sampleLane, ⟨none, some 0.0, true⟩⟩]⟩)).after
    [(noon 1, .reserve "a" ⟨sampleLane, none, ⟨0, 0, y⟩⟩)]

def admits (l : Ledger) (u : Usage) : Bool :=
  (l.canCall (noon 1) ⟨sampleLane, none, u⟩).answer.allowed

def reservedAfter (l : Ledger) (u : Usage) : Float :=
  ((l.after (lent (noon 1) "b" ⟨sampleLane, none, u⟩)).reservedUsage (noon 1) sampleLane
    none).answer.cost

def spentWaiting (y : Float) : Float := -0.0 + (0.0 + (0.0 + soundCost y))

theorem state_waiting (zone : Zone) (y : Float) :
    (waiting zone y).state = hold LedgerState.empty sampleLane.text none ⟨0, 0, y⟩
      ((waiting zone y).window (noon 1)) (noon 1) := rfl

theorem cell_waiting (zone : Zone) (y : Float) :
    (waiting zone y).state.cell .shared sampleLane.text =
      (⟨none, []⟩ : Cell).holding ((waiting zone y).window (noon 1)) (noon 1) ⟨0, 0, y⟩ := by
  rw [state_waiting, cell_hold, if_pos ⟨List.mem_cons_self, rfl⟩]
  rfl

theorem admits_waiting_iff (zone : Zone) (y : Float) (u : Usage) :
    (waiting zone y).admits u = true ↔ ¬0.0 < spentWaiting y + u.cost := by
  have hpolicy : (waiting zone y).policy =
      .inZone zone .standard ⟨[⟨sampleLane, ⟨none, some 0.0, true⟩⟩]⟩ := policy_after _ _
  have hlimits : (waiting zone y).policy.limits.enforced? sampleLane =
      some ⟨none, some 0.0, true⟩ := by
    have henforced : LimitsTable.enforced? ⟨[⟨sampleLane, ⟨none, some 0.0, true⟩⟩]⟩ sampleLane =
        some ⟨none, some 0.0, true⟩ := by decide +kernel
    rw [hpolicy]
    exact henforced
  have hexempt : (waiting zone y).exemption? none = none := by
    apply exemption?_of_strict
    rw [Strict, state_waiting, exemptions_hold]
    rfl
  have hday : ∀ b : Bucket, (b.withHold ⟨0, 0, y⟩ (noon 1)).day = b.day := fun _ => rfl
  have hlatch : (((waiting zone y).state.cell .shared sampleLane.text).seen
      ((waiting zone y).window (noon 1)) (noon 1)).hardStopped = false := by
    rw [cell_waiting, Cell.holding, Cell.seen_adjust _ hday]
    rfl
  have hspent : ((waiting zone y).state.cell .shared sampleLane.text).spent
      ((waiting zone y).window (noon 1)) (noon 1) = spentWaiting y := by
    rw [cell_waiting, Cell.spent, Cell.holding, Cell.archive_adjust _ hday,
      Cell.seen_adjust _ hday]
    rfl
  rw [admits, allowed_canCall_iff _ _ hexempt hlimits]
  constructor
  · intro hadmitted
    have hroom := (hadmitted.lifetime 0.0 rfl).1
    rwa [← hspent]
  · intro hroom
    refine ⟨hlatch, by simp, ?_⟩
    rintro cap hcap
    obtain rfl := Option.some.inj hcap
    refine ⟨?_, by simp⟩
    rwa [← hspent] at hroom

theorem reservedAfter_waiting (zone : Zone) (y : Float) (u : Usage) :
    (waiting zone y).reservedAfter u =
      aboveZero (0.0 + soundCost y + soundCost u.cost - u.cost) := by
  have hid : (waiting zone y).reservations.get? "b" = none := by
    have hnone : ∀ r : Reservation, ((∅ : SortedMap Reservation).insert "a" r).get? "b" = none := by
      intro r
      rw [SortedMap.get?_insert_of_ne _ (by decide)]
      rfl
    exact hnone _
  have hday : ∀ b : Bucket, (b.withHold ⟨0, 0, y⟩ (noon 1)).day = b.day := fun _ => rfl
  rw [reservedAfter, reserved_lent sampleLane u hid, answer_reservedUsage, cell_waiting,
    Cell.holding, Cell.seen_adjust _ hday]
  rfl

theorem exists_admits_ne (zone : Zone) {u : Usage} (h : ¬u.ValidCost) :
    ∃ y, (waiting zone y).admits u ≠ (waiting zone y).admits u.sound := by
  have hsound : u.sound.cost = 0.0 := soundCost_of_invalid h
  have hne : ∀ y, ¬(0.0 < spentWaiting y + u.cost ↔ 0.0 < spentWaiting y + 0.0) →
      (waiting zone y).admits u ≠ (waiting zone y).admits u.sound := by
    intro y hy heq
    have hu := admits_waiting_iff zone y u
    rw [heq, admits_waiting_iff, hsound] at hu
    exact hy (not_iff_not.mp hu.symm)
  rcases invalid_cases h with hnan | ⟨s, hinf⟩ | ⟨r, hr, hneg⟩
  · refine ⟨1.0, hne _ ?_⟩
    rw [add_of_unpack _ hnan]
    decide
  · cases s with
    | positive =>
      refine ⟨0.0, hne _ ?_⟩
      rw [add_of_unpack _ hinf]
      decide
    | negative =>
      refine ⟨1.0, hne _ ?_⟩
      rw [add_of_unpack _ hinf]
      decide
  -- What is held makes up for the negative cost, so their sum does not pass the limit.
  · have hy := hneg.negated
    have hpos := hneg.pos_negated hr
    have hspent : Denotes (spentWaiting (0.0 - u.cost)) (r : ℝ) := by
      rw [spentWaiting, soundCost_of_pos ((isFinite_iff _).mpr ⟨r, hy⟩) hpos]
      exact denotes_negative_zero.zero_plus (denotes_zero.zero_plus (denotes_zero.zero_plus hy))
    have hzero : Denotes 0.0 ((0 : ℝ) : EReal) := denotes_zero
    have hback : Denotes (spentWaiting (0.0 - u.cost) + u.cost) 0 := by
      have hsum := hspent.add hneg
      rwa [add_neg_cancel, rounded_of_representable hzero.representable] at hsum
    have hkept : Denotes (spentWaiting (0.0 - u.cost) + 0.0) (r : ℝ) := by
      have hsum := hspent.add hzero
      rwa [add_zero, rounded_of_representable hspent.representable] at hsum
    refine ⟨0.0 - u.cost, hne _ ?_⟩
    rw [denotes_zero.lt_iff hback, denotes_zero.lt_iff hkept]
    simpa using hr

theorem exists_reservedAfter_ne (zone : Zone) {u : Usage} (h : ¬u.ValidCost) :
    ∃ y, (waiting zone y).reservedAfter u ≠ (waiting zone y).reservedAfter u.sound := by
  have hzero : soundCost u.cost = 0.0 := soundCost_of_invalid h
  have hsound : u.sound.cost = 0.0 := hzero
  have hsound' : soundCost 0.0 = 0.0 := by decide
  simp only [reservedAfter_waiting, hzero, hsound, hsound']
  rcases invalid_cases h with hnan | ⟨s, hinf⟩ | ⟨r, hr, hneg⟩
  · refine ⟨1.0, ?_⟩
    rw [sub_of_unpack _ hnan]
    decide
  · cases s with
    | positive =>
      refine ⟨1.0, ?_⟩
      rw [sub_of_unpack _ hinf]
      decide
    | negative =>
      refine ⟨0.0, ?_⟩
      rw [sub_of_unpack _ hinf]
      decide
  · have hplain : (0.0 : Float) + soundCost 0.0 + 0.0 = 0.0 := by decide
    have hnone : aboveZero ((0.0 : Float) - 0.0) = 0.0 := by decide
    have hpos := hneg.pos_negated hr
    refine ⟨0.0, ?_⟩
    rw [hplain, hnone, aboveZero, if_pos hpos]
    intro heq
    rw [heq] at hpos
    exact absurd hpos (by decide)

/-- Sanitizing usage changes nothing in a run, as long as no invalid cost that is sanitized is
compared with a limit or taken away from what is reserved. Every invalid cost is noticed in both
places. -/
theorem sanitizing_unnoticed_unless_read (P : Usage → Bool) (p : LedgerPolicy) (s : LedgerState)
    (ops : Schedule) :
    ((unread P).Holds (ofState p s) none ops →
      (ofState p s).run (ops.sanitized P) =
        (((ofState p s).run ops).1.sanitized P, ((ofState p s).run ops).2)) ∧
    ∀ (zone : Zone) (u : Usage), ¬u.ValidCost →
      (∃ y, (waiting zone y).admits u ≠ (waiting zone y).admits u.sound) ∧
        ∃ y, (waiting zone y).reservedAfter u ≠ (waiting zone y).reservedAfter u.sound := by
  constructor
  · intro hread
    exact run_sanitized hread
  · intro zone u hu
    exact ⟨exists_admits_ne zone hu, exists_reservedAfter_ne zone hu⟩

def strangeCosts : Schedule := [
  (noon 1, .canCall ⟨sampleLane, some "ann", ⟨5, 0, 0.0 / 0.0⟩⟩),
  (noon 1, .reserve "a" ⟨sampleLane, some "ann", ⟨5, 0, 1.0 / 0.0⟩⟩),
  (noon 2, .rollback "a" .keep),
  (noon 2, .commit "b" sampleLane none ⟨1, 2, -3.0⟩)]

theorem strangeCosts_unread : (unread (fun _ => true)).Holds
    (start (samplePolicy ⟨some 100, none, true⟩)) none strangeCosts := by
  refine ⟨Or.inr (by decide +kernel), trivial, ?_, ?_, trivial⟩
  · intro r hr
    obtain rfl := Option.some.inj hr
    right
    decide +kernel
  · intro r hr
    contradiction

theorem sanitizing_unnoticed_strangeCosts :
    (start (samplePolicy ⟨some 100, none, true⟩)).run (strangeCosts.sanitized (fun _ => true)) =
        (((start (samplePolicy ⟨some 100, none, true⟩)).run strangeCosts).1.sanitized (fun _ => true),
          ((start (samplePolicy ⟨some 100, none, true⟩)).run strangeCosts).2) ∧
      (∃ y, (waiting .utc y).admits ⟨1, 2, -3.0⟩ ≠ (waiting .utc y).admits ⟨1, 2, 0.0⟩) ∧
      ∃ y, (waiting .utc y).reservedAfter ⟨1, 2, -3.0⟩ ≠
        (waiting .utc y).reservedAfter ⟨1, 2, 0.0⟩ := by
  have hsound : (⟨1, 2, -3.0⟩ : Usage).sound = ⟨1, 2, 0.0⟩ := by decide +kernel
  obtain ⟨hrun, hshows⟩ := sanitizing_unnoticed_unless_read (fun _ => true)
    (samplePolicy ⟨some 100, none, true⟩) LedgerState.empty strangeCosts
  refine ⟨hrun strangeCosts_unread, ?_⟩
  rw [← hsound]
  exact hshows .utc _ (by decide +kernel)

/-- An infinite cost that is given back takes with it what others hold. -/
def infiniteCost : Schedule := [
  (noon 1, .reserve "a" ⟨sampleLane, none, ⟨0, 0, 5.0⟩⟩),
  (noon 1, .reserve "b" ⟨sampleLane, none, ⟨0, 0, 1.0 / 0.0⟩⟩),
  (noon 1, .rollback "b" .release),
  (noon 1, .reservedUsage sampleLane none)]

def negativeCost : Schedule := [
  (noon 1, .reserve "a" ⟨sampleLane, none, ⟨0, 0, 5.0⟩⟩),
  (noon 1, .canCall ⟨sampleLane, none, ⟨0, 0, -3.0⟩⟩)]

theorem sanitizing_noticed :
    let l := start (samplePolicy ⟨none, some 4.0, true⟩)
    (l.run infiniteCost).2 = [.done, .done, .done, .usage ⟨0, 0, 0.0⟩] ∧
      (l.run (infiniteCost.sanitized (fun _ => true))).2 =
        [.done, .done, .done, .usage ⟨0, 0, 5.0⟩] ∧
      (l.run negativeCost).2 = [.done, .decision (.allow "within quota")] ∧
      (l.run (negativeCost.sanitized (fun _ => true))).2 = [.done, .decision (.deny .lifetimeCost
        "lifetime cost limit 4 reached for burn:anthropic" ⟨"local", "local"⟩)] := by
  decide +kernel

end Ledger

end LaneQuota
