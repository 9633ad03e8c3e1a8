import LaneQuota.Proofs.Ledger.Books
import LaneQuota.Proofs.Ledger.Runs

namespace LaneQuota

namespace Ledger

def held (l : Ledger) (scope : Scope) (key day : String) : List Reservation :=
  onDay (outstanding l.reservations scope key) day

def SumsFit (l : Ledger) : Prop :=
  ∀ scope key day,
    ((l.held scope key day).map (fun r => r.estimate.tokensIn.toNat)).sum < 2 ^ 64 ∧
    ((l.held scope key day).map (fun r => r.estimate.tokensOut.toNat)).sum < 2 ^ 64

theorem SumsFit.of_all {l : Ledger}
    (hin : (l.reservations.values.map (fun r => r.estimate.tokensIn.toNat)).sum < 2 ^ 64)
    (hout : (l.reservations.values.map (fun r => r.estimate.tokensOut.toNat)).sum < 2 ^ 64) :
    l.SumsFit := by
  intro scope key day
  have hsub : (l.held scope key day).Sublist l.reservations.values :=
    List.filter_sublist.trans List.filter_sublist
  exact ⟨((hsub.map _).sum_le_sum (fun _ _ => Nat.zero_le _)).trans_lt hin,
    ((hsub.map _).sum_le_sum (fun _ _ => Nat.zero_le _)).trans_lt hout⟩

def sumsFit : Rule := fun l _ now op => (l.step now op).ledger.SumsFit

theorem holds_sumsFit {l : Ledger} {ops : Schedule} (last : Option (Instant × Request))
    (h : ∀ before, before <+: ops → (l.after before).SumsFit) : sumsFit.Holds l last ops := by
  induction ops generalizing l last with
  | nil => trivial
  | cons x rest ih =>
    obtain ⟨now, op⟩ := x
    refine ⟨h [(now, op)] ⟨rest, rfl⟩, ih _ (fun before hb => ?_)⟩
    exact h ((now, op) :: before) (List.cons_prefix_cons.mpr ⟨rfl, hb⟩)

theorem hasRoom_of_fits {q : Quantity} {l : Ledger} {now : Instant} {id : String} {r : Request}
    (key : String) (hid : l.reservations.get? id = none) (hfits : q.Fits r.estimate)
    (h : ∀ scope key day, q.total ((l.step now (.reserve id r)).ledger.held scope key day) < q.bound) :
    l.HasRoom q key now r := by
  rintro rfl
  refine ⟨hfits, fun scope hscope => ?_⟩
  let new : Reservation := ⟨r.key, r.tenant, r.estimate, (l.window now).day⟩
  have hres : (l.step now (.reserve id r)).ledger.reservations = l.reservations.insert id new := by
    change (l.reserve now id r).ledger.reservations = _
    rw [reserve, if_neg (by simp [SortedMap.contains, hid])]
  have hsum := h scope r.key.text (l.window now).day
  have hperm : (outstanding (l.reservations.insert id new) scope r.key.text).Perm
      (new :: outstanding l.reservations scope r.key.text) :=
    outstanding_insert_of_counts hid ⟨hscope, rfl⟩
  rw [held, hres, q.total_perm (onDay_perm hperm _), onDay_cons_of_eq rfl, q.total_cons] at hsum
  rw [Nat.add_comm]
  exact hsum

theorem preserves_books (q : Quantity) (zone : Zone) (key : String) (hfits : ∀ u, q.Fits u)
    (hbound : ∀ l : Ledger, l.SumsFit → ∀ scope key day, q.total (l.held scope key day) < q.bound) :
    sumsFit.Preserves zone (fun l _ n => l.policy.zone = zone ∧
      Books q key l.state l.reservations n) := by
  rintro l last n now op ⟨rfl, hbooks⟩ hday hfit
  have heff := l.effect_step now op
  refine ⟨by rw [heff.policy], heff.books hbooks hday ?_⟩
  rintro id r rfl hid
  exact hasRoom_of_fits key hid (hfits _) (hbound _ hfit)

theorem Books.amount_reserved {q : Quantity} {l : Ledger} {n : ℤ} {scope : Scope} {key : String}
    {b : Bucket} (h : Books q key l.state l.reservations n)
    (hb : l.state.bucket? scope key = some b) :
    q.amount b.reserved = q.total (l.held scope key b.day) := by
  have hk := h scope
  have hc : (l.state.cell scope key).bucket = some b := hb
  unfold Kept at hk
  rw [hc] at hk
  obtain ⟨m, -, hbal⟩ := hk
  exact hbal.reserved

theorem reserved_eq_held (p : LedgerPolicy) (ops : Schedule) (hclock : ops.Ascending p.zone)
    (hsums : ∀ before, before <+: ops → ((start p).after before).SumsFit) (scope : Scope)
    (key : String) (b : Bucket) (hb : ((start p).after ops).state.bucket? scope key = some b) :
    b.reserved.tokensIn.toNat = ((((start p).after ops).held scope key b.day).map
      (fun r => r.estimate.tokensIn.toNat)).sum ∧
    b.reserved.tokensOut.toNat = ((((start p).after ops).held scope key b.day).map
      (fun r => r.estimate.tokensOut.toNat)).sum := by
  have hrule := holds_sumsFit none hsums
  have hin := preserves_books .tokensIn p.zone key (fun _ => trivial)
    (fun l h scope key day => (h scope key day).1)
  have hout := preserves_books .tokensOut p.zone key (fun _ => trivial)
    (fun l h scope key day => (h scope key day).2)
  obtain ⟨-, n, -, hbin⟩ := hin.afterStart (fun n => ⟨rfl, Books.empty _ key n⟩) hclock hrule
  obtain ⟨-, n', -, hbout⟩ := hout.afterStart (fun n => ⟨rfl, Books.empty _ key n⟩) hclock hrule
  exact ⟨Books.amount_reserved hbin hb, Books.amount_reserved hbout hb⟩

def openOverMidnight : Schedule := [
  (noon 1, .reserve "a" ⟨sampleLane, some "ann", .ofTokens 20 5⟩),
  (noon 2, .reserve "b" ⟨sampleLane, some "ann", .ofTokens 7 1⟩),
  (noon 2, .reserve "c" ⟨sampleLane, none, .ofTokens 3 0⟩),
  (noon 2, .rollback "c" .release)]

theorem reserved_eq_held_openOverMidnight :
    ∃ h : (((start (samplePolicy ⟨none, none, true⟩)).after openOverMidnight).state.bucket? .shared
        sampleLane.text).isSome = true,
      (Option.get _ h).reserved.tokensIn.toNat =
        ((((start (samplePolicy ⟨none, none, true⟩)).after openOverMidnight).held .shared
          sampleLane.text (Option.get _ h).day).map (fun r => r.estimate.tokensIn.toNat)).sum ∧
      (Option.get _ h).reserved.tokensOut.toNat =
        ((((start (samplePolicy ⟨none, none, true⟩)).after openOverMidnight).held .shared
          sampleLane.text (Option.get _ h).day).map (fun r => r.estimate.tokensOut.toNat)).sum := by
  have hsums : ∀ before ∈ openOverMidnight.inits,
      (((start (samplePolicy ⟨none, none, true⟩)).after before).reservations.values.map
        (fun r => r.estimate.tokensIn.toNat)).sum < 2 ^ 64 ∧
      (((start (samplePolicy ⟨none, none, true⟩)).after before).reservations.values.map
        (fun r => r.estimate.tokensOut.toNat)).sum < 2 ^ 64 := by decide +kernel
  refine ⟨by decide +kernel, reserved_eq_held _ openOverMidnight (by decide +kernel) ?_ _ _ _
    (Option.some_get _).symm⟩
  intro before hb
  obtain ⟨hin, hout⟩ := hsums before ((List.mem_inits _ _).mpr hb)
  exact SumsFit.of_all hin hout

end Ledger

end LaneQuota
