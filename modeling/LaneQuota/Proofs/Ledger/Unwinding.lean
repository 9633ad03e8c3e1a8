import LaneQuota.Proofs.Ledger.Clearing
import LaneQuota.Proofs.Ledger.Orphans
import LaneQuota.Proofs.Ledger.Reservations
import LaneQuota.Proofs.Ledger.Stored
import LaneQuota.Proofs.Ledger.Turns

/-!
# Giving back all that is reserved

A ledger may give back its reservations one after the other, or be opened again from what it stored
and have them dropped. Where all usage is of tokens, both ledgers are alike from then on.
-/

namespace LaneQuota

open Ledger

structure SteadyCost (x : Float) : Prop where
  reread : rereadCost? x = some x
  sum : x + 0.0 = x

instance : DecidablePred SteadyCost := fun x =>
  decidable_of_iff (rereadCost? x = some x ∧ x + 0.0 = x)
    ⟨fun h => ⟨h.1, h.2⟩, fun h => ⟨h.reread, h.sum⟩⟩

theorem steadyCost_zero : SteadyCost 0.0 := by decide +kernel

structure Bucket.Steady (b : Bucket) : Prop where
  used : SteadyCost b.used.cost
  reserved : b.reserved.cost = 0.0

instance : DecidablePred Bucket.Steady := fun b =>
  decidable_of_iff (SteadyCost b.used.cost ∧ b.reserved.cost = 0.0)
    ⟨fun h => ⟨h.1, h.2⟩, fun h => ⟨h.used, h.reserved⟩⟩

def LedgerState.Steady : LedgerState → Prop :=
  LedgerState.Every Bucket.Steady (fun u => SteadyCost u.cost)

instance : DecidablePred LedgerState.Steady := fun s =>
  inferInstanceAs (Decidable (s.Every _ _))

theorem Usage.eq_zero {u : Usage} (hin : u.tokensIn = 0) (hout : u.tokensOut = 0)
    (hcost : u.cost = 0.0) : u = Usage.zero := by
  rw [Usage.zero, Usage.mk.injEq]
  exact ⟨hin, hout, hcost⟩

theorem Usage.cost_minus {u v : Usage} (hu : u.cost = 0.0) (hv : v.Costless) :
    (u.minus v).cost = 0.0 := by
  have hzero : (0.0 : Float) + 0.0 = 0.0 := by decide +kernel
  have hsub := Double.add_zero_sub 0.0 hv
  rw [hzero] at hsub
  rw [minus, hu, hsub]
  change aboveZero 0.0 = 0.0
  decide +kernel

theorem carries_steady (now : Instant) : Carries Usage.Costless now Bucket.Steady Bucket.Steady
    (fun u => SteadyCost u.cost) (fun u => SteadyCost u.cost) where
  fresh _ := ⟨steadyCost_zero, rfl⟩
  kept _ hb := hb
  held b u hb hu := by
    refine ⟨hb.used, ?_⟩
    change (b.reserved.plus u).cost = 0.0
    rw [Usage.cost_plus hu, hb.reserved]
    decide +kernel
  released b r hb hr := by
    refine ⟨hb.used, ?_⟩
    unfold Bucket.withoutHold
    dsimp only
    split_ifs
    · exact Usage.cost_minus hb.reserved hr
    · exact hb.reserved
  used b u hb hu := by
    refine ⟨?_, hb.reserved⟩
    change SteadyCost (b.used.plus u).cost
    rw [Usage.cost_plus hu, hb.used.sum]
    exact hb.used
  reported _ _ hb := ⟨hb.used, hb.reserved⟩
  latched _ hb := ⟨hb.used, hb.reserved⟩
  unlogged := steadyCost_zero
  stays _ hu := hu
  logged u v hu hv := by
    rw [Usage.cost_plus hv, hu.sum]
    exact hu

theorem LedgerState.Steady.clearReserved {s : LedgerState} (h : s.Steady) :
    s.clearReserved.Steady := by
  refine LedgerState.every_clearReserved (fun b hb => ?_) h
  unfold LedgerState.clearBucket
  split_ifs
  · exact hb
  · exact ⟨hb.used, rfl⟩

namespace Ledger

structure Orderly (n : ℤ) (l : Ledger) : Prop where
  tokensIn : ∀ key, Books .tokensIn key l.state l.reservations n
  tokensOut : ∀ key, Books .tokensOut key l.state l.reservations n
  steady : l.state.Steady
  promised : ∀ id r, l.reservations.get? id = some r → r.estimate.Costless

namespace Orderly

variable {l : Ledger} {m n : ℤ} {now : Instant}

theorem mono (h : l.Orderly m) (hle : m ≤ n) : l.Orderly n :=
  ⟨fun key scope => (h.tokensIn key scope).mono hle, fun key scope => (h.tokensOut key scope).mono hle,
    h.steady, h.promised⟩

theorem step {op : Operation} (h : l.Orderly m) (hle : m ≤ l.policy.zone.dayNumber now)
    (hcost : op.Enters Usage.Costless)
    (hfits : ∀ id r, op = .reserve id r → (l.step now op).ledger.SumsFit) :
    (l.step now op).ledger.Orderly (l.policy.zone.dayNumber now) := by
  have heff := l.effect_step now op
  refine ⟨fun key => heff.books (h.tokensIn key) hle ?_,
    fun key => heff.books (h.tokensOut key) hle ?_,
    every_step (carries_steady now) h.promised hcost h.steady, promised_step h.promised hcost⟩
  · rintro id r rfl hid
    exact hasRoom_of_fits key hid trivial (fun scope key day => (hfits id r rfl scope key day).1)
  · rintro id r rfl hid
    exact hasRoom_of_fits key hid trivial (fun scope key day => (hfits id r rfl scope key day).2)

theorem after {ops : Schedule} (h : l.Orderly m) (hfrom : ∀ x ∈ ops, m ≤ l.policy.zone.dayNumber x.1)
    (hto : ∀ x ∈ ops, l.policy.zone.dayNumber x.1 ≤ n) (hmn : m ≤ n)
    (hasc : ops.Ascending l.policy.zone) (hcosts : ∀ x ∈ ops, x.2.Enters Usage.Costless)
    (hsums : ∀ before, before <+: ops → (l.after before).SumsFit) : (l.after ops).Orderly n := by
  induction ops generalizing l m with
  | nil => exact h.mono hmn
  | cons x rest ih =>
    obtain ⟨now, op⟩ := x
    obtain ⟨hle, hasc'⟩ := hasc.of_cons
    have hnow := h.step (hfrom _ List.mem_cons_self) (hcosts _ List.mem_cons_self)
      (fun _ _ _ => hsums [(now, op)] ⟨rest, rfl⟩)
    obtain ⟨hnowto, hto'⟩ := List.forall_mem_cons.mp hto
    rw [← (l.effect_step now op).policy] at hnow hle hnowto hto' hasc'
    exact ih hnow hle hto' hnowto hasc'
      (fun x hx => hcosts x (List.mem_cons_of_mem _ hx))
      (fun before hb => hsums ((now, op) :: before) (List.cons_prefix_cons.mpr ⟨rfl, hb⟩))

theorem dated (h : l.Orderly n) (scope : Scope) (key : String) :
    (l.state.cell scope key).Dated n := by
  intro b hb
  have hkept := h.tokensIn key scope
  unfold Kept at hkept
  rw [hb] at hkept
  obtain ⟨m, hm, hbal⟩ := hkept
  exact ⟨m, hm, hbal.day⟩

theorem clear (h : l.Orderly n) (hnone : l.reservations = ∅) (scope : Scope) (key : String) :
    (l.state.cell scope key).Clear := by
  intro b hb
  -- What is reserved is held by open reservations, and there are none.
  have hheld : l.held scope key b.day = [] := by
    unfold held
    rw [hnone]
    rfl
  have hin : b.reserved.tokensIn.toNat = 0 := by
    have hsum := Books.amount_reserved (h.tokensIn key) hb
    rwa [hheld] at hsum
  have hout : b.reserved.tokensOut.toNat = 0 := by
    have hsum := Books.amount_reserved (h.tokensOut key) hb
    rwa [hheld] at hsum
  have hcost := (h.steady.bucket scope key b (LedgerState.mem_buckets_cell.mpr (Or.inr hb))).reserved
  exact Usage.eq_zero (UInt64.toNat_inj.mp hin) (UInt64.toNat_inj.mp hout) hcost

end Orderly

section Opened

variable {s : LedgerState} {n : ℤ}

theorem clear_clearReserved (h : s.clearReserved.Steady) (scope : Scope) (key : String) :
    (s.clearReserved.cell scope key).Clear := by
  intro b hb
  have hcost := (h.bucket scope key b (LedgerState.mem_buckets_cell.mpr (Or.inr hb))).reserved
  rw [LedgerState.cell_clearReserved] at hb
  obtain ⟨stored, -, rfl⟩ := Option.map_eq_some_iff.mp hb
  unfold LedgerState.clearBucket at hcost ⊢
  split_ifs at hcost ⊢ with hzero
  · simp only [Usage.isZero, Bool.and_eq_true, beq_iff_eq] at hzero
    exact Usage.eq_zero hzero.1.1 hzero.1.2 hcost
  · rfl

theorem books_of_clear (q : Quantity) (key : String) (hclear : ∀ scope, (s.cell scope key).Clear)
    (hdated : ∀ scope, (s.cell scope key).Dated n) : Books q key s ∅ n := by
  intro scope
  unfold Kept
  cases hb : (s.cell scope key).bucket with
  | none => rfl
  | some b =>
    obtain ⟨m, hm, hday⟩ := hdated scope b hb
    have hreserved := hclear scope b hb
    refine ⟨m, hm, hday, fun r hr => ?_, fun r hr => ?_, ?_, ?_⟩
    · contradiction
    · contradiction
    · rw [hreserved]
      exact q.fits_zero
    · rw [hreserved, q.amount_zero]
      rfl

theorem orderly_opened (p : LedgerPolicy) (h : s.clearReserved.Steady)
    (hdated : ∀ scope key, (s.clearReserved.cell scope key).Dated n) :
    (ofState p s.clearReserved).Orderly n where
  tokensIn key := books_of_clear _ key (fun scope => clear_clearReserved h scope key)
    (fun scope => hdated scope key)
  tokensOut key := books_of_clear _ key (fun scope => clear_clearReserved h scope key)
    (fun scope => hdated scope key)
  steady := h
  promised id r hr := by contradiction

end Opened

def releases (now : Instant) (ids : List String) : Schedule :=
  ids.map (fun id => (now, .rollback id .release))

structure Unwinds (now : Instant) (ids : List String) (l l' : Ledger) : Prop where
  policy : l'.policy = l.policy
  state : l'.state.SpendsAlike (l.window now) l.state
  promised : ∀ id r, l'.reservations.get? id = some r → l.reservations.get? id = some r ∧ id ∉ ids
  orderly : l.Orderly (l.policy.zone.dayNumber now) → l'.Orderly (l.policy.zone.dayNumber now)

variable {l l' l'' : Ledger} {now : Instant} {ids ids' : List String}

theorem Unwinds.refl (l : Ledger) (now : Instant) : Unwinds now [] l l :=
  ⟨rfl, .refl _ _, fun _ _ hr => ⟨hr, List.not_mem_nil⟩, fun h => h⟩

theorem Unwinds.trans (h : Unwinds now ids l l') (h' : Unwinds now ids' l' l'') :
    Unwinds now (ids ++ ids') l l'' := by
  have hwindow : l'.window now = l.window now := by rw [window, window, h.policy]
  obtain ⟨hpolicy', hstate', hpromised', horderly'⟩ := h'
  rw [hwindow] at hstate'
  rw [h.policy] at horderly'
  refine ⟨hpolicy'.trans h.policy, hstate'.trans h.state, fun id r hr => ?_,
    fun hl => horderly' (h.orderly hl)⟩
  obtain ⟨hr', hid'⟩ := hpromised' id r hr
  obtain ⟨hr'', hid⟩ := h.promised id r hr'
  exact ⟨hr'', by simp [hid, hid']⟩

theorem unwinds_release (l : Ledger) (now : Instant) (id : String) :
    Unwinds now [id] l (l.step now (.rollback id .release)).ledger := by
  have horderly : l.Orderly (l.policy.zone.dayNumber now) →
      (l.step now (.rollback id .release)).ledger.Orderly (l.policy.zone.dayNumber now) :=
    fun h => h.step le_rfl trivial (by simp)
  change Unwinds now [id] l (l.rollback now id .release).ledger
  change _ → (l.rollback now id .release).ledger.Orderly _ at horderly
  unfold rollback at horderly ⊢
  cases hid : l.reservations.get? id with
  | none =>
    refine ⟨rfl, .refl _ _, fun id' r hr => ⟨hr, ?_⟩, fun h => h⟩
    rintro hmem
    obtain rfl := List.mem_singleton.mp hmem
    rw [hid] at hr
    contradiction
  | some r =>
    rw [hid] at horderly
    refine ⟨rfl, LedgerState.spendsAlike_release _ _, fun id' r' hr => ?_, horderly⟩
    change (l.reservations.erase id).get? id' = some r' at hr
    rw [SortedMap.get?_erase] at hr
    split_ifs at hr with hne
    exact ⟨hr, by simpa using hne⟩

theorem unwinds_releases (l : Ledger) (now : Instant) (ids : List String) :
    Unwinds now ids l (l.after (releases now ids)) := by
  induction ids generalizing l with
  | nil => exact .refl l now
  | cons id rest ih => exact (unwinds_release l now id).trans (ih _)

variable {l l' : Ledger} {s : LedgerState} {n : ℤ} {now : Instant} {ids : List String}

theorem Alike.outlook {ops : Schedule} (h : l.Alike n l')
    (hfrom : ∀ x ∈ ops, n ≤ l.policy.zone.dayNumber x.1) (hasc : ops.Ascending l.policy.zone) :
    l.outlook ops = l'.outlook ops := by
  induction ops generalizing l l' n with
  | nil => rfl
  | cons x rest ih =>
    obtain ⟨now, op⟩ := x
    obtain ⟨hle, hasc'⟩ := hasc.of_cons
    have hnow := h.mono (hfrom _ List.mem_cons_self)
    have hstep := hnow.step rfl op
    rw [← (l.effect_step now op).policy] at hstep hle hasc'
    rw [outlook_cons, outlook_cons, ih hstep hle hasc']
    cases hshow : op.showsPast with
    | true => rfl
    | false => rw [hnow.answer rfl (Operation.showsWaiting_of_showsPast hshow)]

theorem dated_clearReserved (hlacks : s.Lacks l.state)
    (hdated : ∀ scope key, (l.state.cell scope key).Dated n) (scope : Scope) (key : String) :
    (s.clearReserved.cell scope key).Dated n := by
  intro b hb
  rw [LedgerState.cell_clearReserved] at hb
  obtain ⟨stored, hstored, rfl⟩ := Option.map_eq_some_iff.mp hb
  rw [LedgerState.day_clearBucket]
  rcases hlacks.cell scope key with heq | ⟨heq, -⟩
  · rw [heq] at hstored
    exact hdated scope key stored hstored
  · rw [heq] at hstored
    contradiction

theorem alike_opened (h : l.Orderly n) (hn : l.policy.zone.dayNumber now = n)
    (hlacks : s.Lacks l.state) (hsteady : s.Steady)
    (hall : ∀ id r, l.reservations.get? id = some r → id ∈ ids) :
    ((l.after (releases now ids)).withOrphans 0).Alike n (ofState l.policy s.clearReserved) := by
  subst hn
  obtain ⟨hpolicy, hstate, hpromised, horderly⟩ := l.unwinds_releases now ids
  have hafter := horderly h
  have hnone : (l.after (releases now ids)).reservations = ∅ := by
    apply SortedMap.eq_of_get?_eq
    intro id
    cases hid : (l.after (releases now ids)).reservations.get? id with
    | none => rfl
    | some r =>
      obtain ⟨hr, hnot⟩ := hpromised id r hid
      exact absurd (hall id r hr) hnot
  -- Both states differ from the old one in what is reserved, and in neither anything is.
  have hspends : (l.after (releases now ids)).state.SpendsAlike (l.window now) s.clearReserved :=
    (hstate.trans (hlacks.spendsAlike _).symm).trans (s.spendsAlike_clearReserved _).symm
  refine ⟨?_, fun w hw => ?_, hafter.dated, dated_clearReserved hlacks h.dated⟩
  · rw [withOrphans, hpolicy, hnone]
    rfl
  · exact (hspends.alike (hafter.clear hnone) (clear_clearReserved hsteady.clearReserved)).window hw.symm

end Ledger

end LaneQuota
