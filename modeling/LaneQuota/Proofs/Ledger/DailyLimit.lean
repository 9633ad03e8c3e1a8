import LaneQuota.Proofs.Ledger.Books
import LaneQuota.Proofs.Ledger.Callers
import LaneQuota.Proofs.Ledger.Threshold

namespace LaneQuota

open Ledger

section Tokens

variable (b : Bucket) (now : Instant)

theorem tokens_latchedUnder (limits : Option Limits) (cost : Float) :
    (latchedUnder limits cost b).tokens = b.tokens := by
  rw [Bucket.tokens, Bucket.tokens, used_latchedUnder, reserved_latchedUnder]

theorem tokens_plus_le (u v : Usage) : (u.plus v).tokens ≤ u.tokens + v.tokens := by
  simp only [Usage.tokens, Usage.plus, toNat_addTokens]
  omega

theorem tokens_minus_le (u v : Usage) : (u.minus v).tokens ≤ u.tokens := by
  simp only [Usage.tokens, Usage.minus, toNat_subTokens]
  omega

theorem tokens_minus {u v : Usage} (hin : v.tokensIn.toNat ≤ u.tokensIn.toNat)
    (hout : v.tokensOut.toNat ≤ u.tokensOut.toNat) : (u.minus v).tokens = u.tokens - v.tokens := by
  simp only [Usage.tokens, Usage.minus, toNat_subTokens]
  omega

theorem tokens_withHold_le (estimate : Usage) :
    (b.withHold estimate now).tokens ≤ b.tokens + estimate.tokens := by
  have h := tokens_plus_le b.reserved estimate
  simp only [Bucket.tokens, Bucket.withHold]
  omega

theorem tokens_withoutHold_le (r : Reservation) : (b.withoutHold r now).tokens ≤ b.tokens := by
  have h := tokens_minus_le b.reserved r.estimate
  simp only [Bucket.tokens, Bucket.withoutHold]
  split_ifs <;> omega

theorem tokens_withUse_le (usage : Usage) :
    (b.withUse usage now).tokens ≤ b.tokens + usage.tokens := by
  have h := tokens_plus_le b.used usage
  simp only [Bucket.tokens, Bucket.withUse]
  omega

theorem tokens_exchange_le {b : Bucket} {r : Reservation} {rs : List Reservation} {n : ℤ}
    (hin : Balanced Quantity.tokensIn b (r :: rs) n)
    (hout : Balanced Quantity.tokensOut b (r :: rs) n) (hday : r.day = b.day) {actual : Usage}
    (h : actual.tokens ≤ r.estimate.tokens) :
    r.estimate.tokens ≤ b.tokens ∧
      ((b.withoutHold r now).withUse actual now).tokens ≤ b.tokens := by
  have hi : r.estimate.tokensIn.toNat ≤ b.reserved.tokensIn.toNat := hin.amount_le hday
  have ho : r.estimate.tokensOut.toNat ≤ b.reserved.tokensOut.toNat := hout.amount_le hday
  have hle : r.estimate.tokens ≤ b.reserved.tokens := by
    simp only [Usage.tokens]
    omega
  have huse := tokens_withUse_le (b.withoutHold r now) now actual
  have hminus : (b.withoutHold r now).tokens =
      b.used.tokens + (b.reserved.tokens - r.estimate.tokens) := by
    simp only [Bucket.tokens, Bucket.withoutHold, hday, if_true, tokens_minus hi ho]
  constructor
  · simp only [Bucket.tokens]
    omega
  · rw [hminus] at huse
    simp only [Bucket.tokens] at *
    omega

end Tokens

def Cell.Below (c : Cell) (limit : ℕ) : Prop := ∀ b, c.bucket = some b → b.tokens ≤ limit

namespace Cell.Below

variable {c : Cell} {limit : ℕ}

theorem seen (h : c.Below limit) (w : Window) (now : Instant) : (c.seen w now).tokens ≤ limit := by
  unfold Cell.seen
  split
  · exact Nat.zero_le limit
  · rename_i b hb
    split_ifs
    · exact h b hb
    · exact Nat.zero_le limit

theorem mk {b : Bucket} (h : b.tokens ≤ limit) (bs : List Bucket) :
    Cell.Below ⟨some b, bs⟩ limit := by
  intro b' hb
  rwa [← Option.some.inj hb]

end Cell.Below

def LedgerState.Below (s : LedgerState) (key : String) (limit : ℕ) : Prop :=
  ∀ scope, (s.cell scope key).Below limit

namespace LedgerState.Below

variable {s s' : LedgerState} {key : String} {limit : ℕ} {w : Window} {now : Instant}

theorem looked (h : s.Below key limit) (hs : Looked w now s s') : s'.Below key limit := by
  intro scope
  rcases hs.cell scope key with hc | hc <;> rw [hc]
  · exact h scope
  · exact Cell.Below.mk ((h scope).seen w now) _

theorem hold (h : s.Below key limit) {lane : String} {tenant : Option String} {estimate : Usage}
    (hroom : lane = key → ∀ scope ∈ Scope.charged tenant,
      ((s.cell scope key).seen w now).tokens + estimate.tokens ≤ limit) :
    (Ledger.hold s lane tenant estimate w now).Below key limit := by
  intro scope
  rw [cell_hold]
  split_ifs with hc
  · obtain ⟨hscope, rfl⟩ := hc
    exact Cell.Below.mk ((tokens_withHold_le _ now estimate).trans (hroom rfl scope hscope)) _
  · exact h scope

theorem release (h : s.Below key limit) (r : Reservation) :
    (Ledger.release s r w now).Below key limit := by
  intro scope
  rw [cell_release]
  split_ifs with hc
  · obtain ⟨-, rfl⟩ := hc
    exact Cell.Below.mk ((tokens_withoutHold_le _ now r).trans ((h scope).seen w now)) _
  · exact h scope

theorem settle (h : s.Below key limit) {p : LedgerPolicy} {r : Reservation} {actual : Usage}
    (hless : r.key.text = key → ∀ scope ∈ Scope.charged r.tenant,
      ((((s.cell scope key).seen w now).withoutHold r now).withUse actual now).tokens ≤
        ((s.cell scope key).seen w now).tokens) :
    (spend p r.key r.tenant actual w now (Ledger.release s r w now)).Below key limit := by
  intro scope
  rw [cell_spend, cell_release, cell_release]
  by_cases hc : scope ∈ Scope.charged r.tenant ∧ r.key.text = key
  · obtain ⟨hscope, rfl⟩ := hc
    rw [if_pos ⟨hscope, rfl⟩, if_pos ⟨hscope, rfl⟩, Cell.spending_releasing]
    refine Cell.Below.mk ?_ _
    rw [tokens_latchedUnder]
    exact (hless rfl scope hscope).trans ((h scope).seen w now)
  · rw [if_neg hc, if_neg hc]
    exact h scope

end LedgerState.Below

namespace Ledger

/-- Orderly callers that spend no more tokens than they reserved, on the day of the reservation. -/
def spendsWithinDay : Rule := fun l last now op =>
  orderly l last now op ∧
    match op with
    | .commit id _ _ actual => ∀ r, l.reservations.get? id = some r →
      r.day = (l.window now).day ∧ actual.totalTokens ≤ r.estimate.totalTokens
    | .rollback id .keep => ∀ r, l.reservations.get? id = some r → r.day = (l.window now).day
    | _ => True

structure DailyBound (p : LedgerPolicy) (key : LaneKey) (limits : Limits) (limit : ℕ) (l : Ledger)
    (last : Option (Instant × Request)) (n : ℤ) : Prop where
  policy : l.policy = p
  strict : l.Strict
  booksIn : Books .tokensIn key.text l.state l.reservations n
  booksOut : Books .tokensOut key.text l.state l.reservations n
  below : l.state.Below key.text limit
  admitted : ∀ now r, last = some (now, r) → r.key = key →
    r.Admitted p (Window.at now p.zone) now limits l.state

variable {p : LedgerPolicy} {key : LaneKey} {limits : Limits} {d : UInt64} {limit : ℕ}

theorem room_of_admitted {w : Window} {now : Instant} {r : Request} {s : LedgerState}
    (hd : limits.dailyTokens = some d) (hmax : limit < Word.maxUnsigned64)
    (hlimit : ∀ t : UInt64, ¬d.toFloat * p.bufferRatio < t.toFloat ↔ t.toNat ≤ limit)
    (h : r.Admitted p w now limits s) :
    ∀ scope ∈ Scope.charged r.tenant,
      ((s.cell scope r.key.text).seen w now).tokens + r.estimate.tokens ≤ limit := by
  intro scope hscope
  obtain ⟨hown, hshared⟩ := h.daily d hd
  have hroom : p.exceedsDaily ((s.cell scope r.key.text).seen w now) r.estimate d = false := by
    rcases scope_cases hscope with rfl | ⟨ht, rfl⟩
    · exact hown
    · exact (hshared ht).2
  rw [LedgerPolicy.exceedsDaily, decide_eq_false_iff_not, hlimit, heldTokens_add_le_iff hmax] at hroom
  exact hroom

theorem hasRoom_of_room {q : Quantity} {l : Ledger} {m : ℤ} {now : Instant} {lane : String}
    {r : Request} (h : Books q lane l.state l.reservations m)
    (hday : m ≤ l.policy.zone.dayNumber now) (hfits : q.Fits r.estimate)
    (hq : ∀ b : Bucket, q.amount b.reserved + q.amount r.estimate ≤ b.tokens + r.estimate.tokens)
    (hmax : limit < q.bound)
    (hroom : r.key.text = lane → ∀ scope ∈ Scope.charged r.tenant,
      ((l.state.cell scope lane).seen (l.window now) now).tokens + r.estimate.tokens ≤ limit) :
    l.HasRoom q lane now r := by
  intro hkey
  refine ⟨hfits, fun scope hscope => ?_⟩
  have hbal := (h scope).seen (w := l.window now) hday rfl now
  have hres := hbal.reserved
  rw [Cell.day_seen] at hres
  rw [← hres]
  exact ((hq _).trans (hroom hkey scope hscope)).trans_lt hmax

theorem tokens_settled_le {l : Ledger} {now : Instant} {m : ℤ} {id : String} {r : Reservation}
    {actual : Usage} (hin : Books .tokensIn r.key.text l.state l.reservations m)
    (hout : Books .tokensOut r.key.text l.state l.reservations m)
    (hbelow : l.state.Below r.key.text limit) (hday : m ≤ l.policy.zone.dayNumber now)
    (hmax : limit < Word.maxUnsigned64) (hid : l.reservations.get? id = some r)
    (hrday : r.day = (l.window now).day) (htotal : actual.totalTokens ≤ r.estimate.totalTokens)
    {scope : Scope} (hscope : scope ∈ Scope.charged r.tenant) :
    ((((l.state.cell scope r.key.text).seen (l.window now) now).withoutHold r now).withUse actual
      now).tokens ≤ ((l.state.cell scope r.key.text).seen (l.window now) now).tokens := by
  have hp := outstanding_erase_of_counts hid ⟨hscope, rfl⟩
  have hbin := ((hin scope).perm hp).seen (w := l.window now) hday rfl now
  have hbout := ((hout scope).perm hp).seen (w := l.window now) hday rfl now
  have hseen : r.day = ((l.state.cell scope r.key.text).seen (l.window now) now).day := by
    rw [Cell.day_seen, hrday]
  have hfit := (tokens_exchange_le now hbin hbout hseen (le_refl r.estimate.tokens)).1
  have hsmall : r.estimate.tokens < Word.maxUnsigned64 :=
    (hfit.trans ((hbelow scope).seen _ now)).trans_lt hmax
  have hactual : actual.tokens ≤ r.estimate.tokens := by
    rw [← totalTokens_le_iff hsmall]
    exact (UInt64.le_iff_toNat_le.mp htotal).trans ((totalTokens_le_iff hsmall _).mpr le_rfl)
  exact (tokens_exchange_le now hbin hbout hseen hactual).2

theorem Effect.below {l l' : Ledger} {last : Option (Instant × Request)} {now : Instant}
    {op : Operation} {m : ℤ} {lane : String} (he : l.Effect now op l')
    (hin : Books .tokensIn lane l.state l.reservations m)
    (hout : Books .tokensOut lane l.state l.reservations m) (h : l.state.Below lane limit)
    (hday : m ≤ l.policy.zone.dayNumber now) (hmax : limit < Word.maxUnsigned64)
    (hop : spendsWithinDay l last now op)
    (hroom : ∀ id r, op = .reserve id r → r.key.text = lane → ∀ scope ∈ Scope.charged r.tenant,
      ((l.state.cell scope lane).seen (l.window now) now).tokens + r.estimate.tokens ≤ limit) :
    l'.state.Below lane limit := by
  obtain ⟨hord, hspend⟩ := hop
  cases he with
  | looked hs => exact h.looked hs
  | held hid => exact h.hold (hroom _ _ rfl)
  | committed hid =>
    obtain ⟨r, hid', rfl, rfl⟩ := hord
    obtain rfl := Option.some.inj (hid.symm.trans hid')
    obtain ⟨hrday, htotal⟩ := hspend _ hid
    apply h.settle
    rintro rfl scope hscope
    exact tokens_settled_le hin hout h hday hmax hid hrday htotal hscope
  | orphaned hid =>
    obtain ⟨r, hid', -⟩ := hord
    exact absurd (hid.symm.trans hid') (by simp)
  | released hid => exact h.release _
  | kept hid =>
    apply h.settle
    rintro rfl scope hscope
    exact tokens_settled_le hin hout h hday hmax hid (hspend _ hid) (UInt64.le_refl _) hscope
  | toggled =>
    intro scope
    rw [cell_toggleUnlimited]
    exact h scope
  | raised drift hexempt hcell => exact hord.elim

theorem dailyBound_preserved (hlane : ':' ∉ key.lane.toList)
    (hlimits : p.limits.enforced? key = some limits) (hd : limits.dailyTokens = some d)
    (hmax : limit < Word.maxUnsigned64)
    (hlimit : ∀ t : UInt64, ¬d.toFloat * p.bufferRatio < t.toFloat ↔ t.toNat ≤ limit) :
    spendsWithinDay.Preserves p.zone (DailyBound p key limits limit) := by
  rintro l last n now op ⟨rfl, hstrict, hin, hout, hbelow, hadm⟩ hday hop
  -- Whoever reserves now was let in by the last step, so the room that it found is still there.
  have hroom : ∀ id r, op = .reserve id r → r.key.text = key.text →
      ∀ scope ∈ Scope.charged r.tenant,
        ((l.state.cell scope key.text).seen (l.window now) now).tokens + r.estimate.tokens ≤ limit := by
    rintro id r rfl htext
    obtain ⟨hlast, hcolon⟩ := hop.1
    have hkey := LaneKey.text_injective hcolon hlane htext
    rw [← hkey]
    exact room_of_admitted hd hmax hlimit (hadm now r hlast hkey)
  have heff := l.effect_step now op
  refine ⟨heff.policy, heff.strict hstrict hop.1, ?_, ?_, ?_, ?_⟩
  · refine heff.books hin hday (fun id r hr _ => ?_)
    refine hasRoom_of_room hin hday trivial (fun b => ?_) (hmax.trans_le (by decide)) (hroom id r hr)
    simp only [Quantity.tokensIn, Quantity.counter, Bucket.tokens, Usage.tokens]
    omega
  · refine heff.books hout hday (fun id r hr _ => ?_)
    refine hasRoom_of_room hout hday trivial (fun b => ?_) (hmax.trans_le (by decide)) (hroom id r hr)
    simp only [Quantity.tokensOut, Quantity.counter, Bucket.tokens, Usage.tokens]
    omega
  · exact heff.below hin hout hbelow hday hmax hop hroom
  · rintro later r hlast rfl
    exact admitted_of_admission hstrict hlimits hlast

theorem held_le_dailyLimit (zone : Zone) (s : LedgerSettings) (table : LimitsTable)
    (key : LaneKey) (limits : Limits) (d : UInt64) (ops : Schedule)
    (hlane : ':' ∉ key.lane.toList) (hlimits : table.enforced? key = some limits)
    (hd : limits.dailyTokens = some d) (hsmall : d.toNat < 2 ^ 53) (hclock : ops.Ascending zone)
    (hcallers : spendsWithinDay.Holds (start (.inZone zone s table)) none ops) (scope : Scope)
    (b : Bucket)
    (hb : ((start (.inZone zone s table)).after ops).state.bucket? scope key.text = some b) :
    b.heldTokens.toFloat ≤ d.toFloat * s.bufferRatio ∧ b.tokens ≤ d.toNat := by
  obtain ⟨r, h0, h1, hr⟩ := denotes_bufferRatio s
  obtain ⟨limit, hle, hlimit⟩ := exists_bufferedLimit hr h0 h1 hsmall
  have hmax : limit < Word.maxUnsigned64 := by
    have hword : 2 ^ 53 < Word.maxUnsigned64 := by decide
    omega
  have hpres := dailyBound_preserved (p := .inZone zone s table) hlane hlimits hd hmax
    (fun t => (hlimit t).1)
  have hstart : ∀ n, DailyBound (.inZone zone s table) key limits limit
      (start (.inZone zone s table)) none n := by
    intro n
    refine ⟨rfl, rfl, Books.empty _ _ n, Books.empty _ _ n, fun scope b hb => ?_, by simp⟩
    cases scope <;> cases hb
  obtain ⟨last, n, hbound⟩ := hpres.afterStart hstart hclock hcallers
  have hbelow := hbound.below scope b hb
  exact ⟨(hlimit _).2.mpr ((heldTokens_le_iff hmax b).mpr hbelow), hbelow.trans hle⟩

def busyDay : Schedule := [
  (noon 1, .canCall ⟨sampleLane, some "ann", .ofTokens 40 10⟩),
  (noon 1, .reserve "a" ⟨sampleLane, some "ann", .ofTokens 40 10⟩),
  (noon 1, .canCall ⟨sampleLane, none, .ofTokens 40 0⟩),
  (noon 1, .reserve "b" ⟨sampleLane, none, .ofTokens 40 0⟩),
  (noon 1, .commit "a" sampleLane (some "ann") (.ofTokens 5 45)),
  (noon 2, .rollback "b" .release)]

theorem busyDay_spendsWithinDay :
    spendsWithinDay.Holds (start (samplePolicy ⟨some 100, none, true⟩)) none busyDay := by
  refine ⟨⟨trivial, trivial⟩, ⟨⟨?_, ?_⟩, trivial⟩, ⟨trivial, trivial⟩, ⟨⟨?_, ?_⟩, trivial⟩,
    ⟨⟨_, rfl, rfl, rfl⟩, ?_⟩, ⟨trivial, trivial⟩, trivial⟩
  · decide +kernel
  · decide +kernel
  · decide +kernel
  · decide +kernel
  · intro r hr
    obtain rfl := Option.some.inj hr
    decide +kernel

theorem held_le_dailyLimit_busyDay :
    ∃ h : (((start (samplePolicy ⟨some 100, none, true⟩)).after busyDay).state.bucket?
        (.tenant "ann") sampleLane.text).isSome = true,
      (Option.get _ h).heldTokens.toFloat ≤
        (100 : UInt64).toFloat * LedgerSettings.standard.bufferRatio ∧
      (Option.get _ h).tokens ≤ (100 : UInt64).toNat :=
  ⟨by decide +kernel, held_le_dailyLimit _ .standard _ sampleLane ⟨some 100, none, true⟩ 100 busyDay
    (by decide) (by decide +kernel) rfl (by decide) (by decide +kernel) busyDay_spendsWithinDay _ _
    (Option.some_get _).symm⟩

end Ledger

end LaneQuota
