import LaneQuota.Proofs.Ledger.Exhaustion
import LaneQuota.Proofs.Ledger.Runs

namespace LaneQuota

namespace Double

/-- The first is at most the second, or it is below every bound. -/
def AtMost (x y : Float) : Prop := ∀ v, Denotes x v → v ≠ ⊥ → ∃ w, Denotes y w ∧ v ≤ w

section AtMost

variable {x x' y y' z : Float}

theorem AtMost.refl (x : Float) : AtMost x x := fun v hv _ => ⟨v, hv, le_rfl⟩

theorem AtMost.trans (h : AtMost x y) (h' : AtMost y z) : AtMost x z := by
  intro v hv hne
  obtain ⟨w, hw, hvw⟩ := h v hv hne
  obtain ⟨u, hu, hwu⟩ := h' w hw (ne_bot_of_le_ne_bot hne hvw)
  exact ⟨u, hu, hvw.trans hwu⟩

theorem AtMost.of_le (h : x ≤ y) : AtMost x y := by
  intro v hv _
  obtain ⟨-, w, hw⟩ := exists_denotes_of_le h
  exact ⟨w, hw, (hv.le_iff hw).mp h⟩

theorem AtMost.add (h : AtMost x y) (h' : AtMost x' y') : AtMost (x + x') (y + y') := by
  intro v hv hne
  obtain ⟨⟨a, ha, ha'⟩, b, hb, hb'⟩ := hv.of_add hne
  obtain ⟨c, hc, hac⟩ := h a ha ha'
  obtain ⟨d, hd, hbd⟩ := h' b hb hb'
  obtain rfl := Option.some.inj (hv.symm.trans (ha.add_of_ne_bot hb ha' hb'))
  refine ⟨_, hc.add_of_ne_bot hd (ne_bot_of_le_ne_bot ha' hac) (ne_bot_of_le_ne_bot hb' hbd), ?_⟩
  exact nearest_mono (EReal.add_ne_bot_iff.mpr ⟨ha', hb'⟩) (add_le_add hac hbd)

theorem atMost_add_soundCost (x cost : Float) : AtMost x (x + soundCost cost) := by
  intro v hv hne
  obtain ⟨w, hw, hw0⟩ := exists_denotes_of_nonneg (zero_le_soundCost cost)
  refine ⟨_, hv.add_of_ne_bot hw hne (ne_bot_of_zero_le hw0), ?_⟩
  have hmono := nearest_mono hne (le_add_of_nonneg_right (a := v) hw0)
  rwa [hv.nearest_eq hne] at hmono

theorem AtMost.lt (h : AtMost x y) (hlt : z < x) : z < y := by
  obtain ⟨⟨u, hu⟩, v, hv⟩ := exists_denotes_of_le (float_le_of_lt hlt)
  have huv := (hu.lt_iff hv).mp hlt
  obtain ⟨w, hw, hvw⟩ := h v hv (ne_bot_of_gt huv)
  exact (hu.lt_iff hw).mpr (huv.trans_le hvw)

end AtMost

theorem toFloat_le_toFloat {s t : UInt64} (h : s ≤ t) : s.toFloat ≤ t.toFloat := by
  rw [(denotes_toFloat s).le_iff (denotes_toFloat t)]
  exact rounded_mono (Nat.cast_le.mpr (UInt64.le_iff_toNat_le.mp h))

end Double

open Double Ledger

namespace Bucket

structure Fuller (b b' : Bucket) : Prop where
  latch : b.hardStopped = true → b'.hardStopped = true
  tokens : b.heldTokens ≤ b'.heldTokens
  cost : AtMost b.heldCost b'.heldCost

variable {b b' b'' : Bucket}

theorem Fuller.refl (b : Bucket) : b.Fuller b := ⟨id, UInt64.le_refl _, AtMost.refl _⟩

theorem Fuller.trans (h : b.Fuller b') (h' : b'.Fuller b'') : b.Fuller b'' :=
  ⟨h'.latch ∘ h.latch, UInt64.le_trans h.tokens h'.tokens, h.cost.trans h'.cost⟩

variable (b) (now : Instant)

theorem fuller_withHold (estimate : Usage) : b.Fuller (b.withHold estimate now) := by
  refine ⟨id, ?_, (AtMost.refl _).add (atMost_add_soundCost _ _)⟩
  rw [UInt64.le_iff_toNat_le]
  simp only [heldTokens, withHold, Usage.totalTokens, Usage.plus, toNat_addTokens]
  omega

theorem fuller_withUse (usage : Usage) : b.Fuller (b.withUse usage now) := by
  refine ⟨id, ?_, (atMost_add_soundCost _ _).add (AtMost.refl _)⟩
  rw [UInt64.le_iff_toNat_le]
  simp only [heldTokens, withUse, Usage.totalTokens, Usage.plus, toNat_addTokens]
  omega

theorem fuller_withReport (drift : UInt64) : b.Fuller (b.withReport drift now) := by
  refine ⟨id, ?_, AtMost.refl _⟩
  rw [UInt64.le_iff_toNat_le]
  simp only [heldTokens, withReport, Usage.totalTokens, toNat_addTokens]
  omega

theorem fuller_latchedUnder (limits : Option Limits) (cost : Float) :
    b.Fuller (latchedUnder limits cost b) := by
  rcases latchedUnder_eq limits cost b with h | h <;> rw [h]
  · exact Fuller.refl b
  · exact ⟨fun _ => rfl, UInt64.le_refl _, AtMost.refl _⟩

end Bucket

namespace Cell

structure FullerOn (day : String) (c c' : Cell) : Prop where
  seen : ∀ w w' now now', w.day = day → w'.day = day → (c.seen w now).Fuller (c'.seen w' now')
  archive : ∀ w w' : Window, w.day = day → w'.day = day → c.archive w = c'.archive w'

variable {c c' c'' : Cell} {day : String} {w : Window} {now : Instant}

theorem FullerOn.refl (day : String) (c : Cell) : c.FullerOn day c := by
  constructor
  · intro w w' now now' hw hw'
    unfold Cell.seen
    cases c.bucket with
    | none => exact ⟨id, UInt64.le_refl _, AtMost.refl _⟩
    | some b =>
      simp only [hw, hw']
      split_ifs
      · exact Bucket.Fuller.refl b
      · exact ⟨id, UInt64.le_refl _, AtMost.refl _⟩
  · intro w w' hw hw'
    simp only [Cell.archive, hw, hw']

theorem FullerOn.trans (h : c.FullerOn day c') (h' : c'.FullerOn day c'') : c.FullerOn day c'' :=
  ⟨fun w w' now now' hw hw' => (h.seen w w now now hw hw).trans (h'.seen w w' now now' hw hw'),
    fun w w' hw hw' => (h.archive w w hw hw).trans (h'.archive w w' hw hw')⟩

theorem fullerOn_adjust (c : Cell) (w : Window) (now : Instant) {f : Bucket → Bucket}
    (hday : ∀ b, (f b).day = b.day) (hf : ∀ b : Bucket, b.Fuller (f b)) :
    c.FullerOn w.day (c.adjust w now f) := by
  constructor
  · intro v v' t t' hv hv'
    have hself := (FullerOn.refl w.day c).seen v w t now hv rfl
    have hseen := (FullerOn.refl w.day (c.adjust w now f)).seen w v' now t' rfl hv'
    rw [c.seen_adjust hday] at hseen
    exact (hself.trans (hf _)).trans hseen
  · intro v v' hv hv'
    have harchive : (c.adjust w now f).archive w = c.archive w := c.archive_adjust hday
    rw [(FullerOn.refl w.day c).archive v w hv rfl, ← harchive]
    exact (FullerOn.refl w.day _).archive w v' rfl hv'

theorem FullerOn.spent {c c' : Cell} (h : c.FullerOn day c') {w w' : Window} (hw : w.day = day)
    (hw' : w'.day = day) (now now' : Instant) : AtMost (c.spent w now) (c'.spent w' now') := by
  rw [Cell.spent, Cell.spent, h.archive w w' hw hw']
  exact (AtMost.refl _).add (h.seen w w' now now' hw hw').cost

end Cell

structure LedgerState.FullerOn (day : String) (s s' : LedgerState) : Prop where
  exemptions : s'.exemptions = s.exemptions
  cell : ∀ scope key, (s.cell scope key).FullerOn day (s'.cell scope key)

section Demand

variable {p : LedgerPolicy} {e e' : Usage}

theorem totalTokens_le_totalTokens (hin : e.tokensIn ≤ e'.tokensIn)
    (hout : e.tokensOut ≤ e'.tokensOut) : e.totalTokens ≤ e'.totalTokens := by
  rw [UInt64.le_iff_toNat_le] at *
  simp only [Usage.totalTokens, toNat_addTokens]
  omega

theorem LedgerPolicy.exceedsDaily_of_fuller {b b' : Bucket} {d : UInt64} (hb : b.Fuller b')
    (he : e.totalTokens ≤ e'.totalTokens) (h : p.exceedsDaily b' e' d = false) :
    p.exceedsDaily b e d = false := by
  have hle : addTokens b.heldTokens e.totalTokens ≤ addTokens b'.heldTokens e'.totalTokens := by
    have hheld := hb.tokens
    rw [UInt64.le_iff_toNat_le] at *
    rw [toNat_addTokens, toNat_addTokens]
    omega
  rw [exceedsDaily, decide_eq_false_iff_not] at *
  exact fun hlt => h (float_lt_of_lt_of_le hlt (toFloat_le_toFloat hle))

variable {key : LaneKey} {tenant : Option String} {limits : Limits} {w w' : Window}
  {now now' : Instant} {s s' : LedgerState} {day : String}

theorem Request.Admitted.of_fullerOn (h : Request.Admitted ⟨key, tenant, e'⟩ p w' now' limits s')
    (hs : s.FullerOn day s') (hw : w.day = day) (hw' : w'.day = day)
    (htokens : e.totalTokens ≤ e'.totalTokens) (hcost : AtMost e.cost e'.cost) :
    Request.Admitted ⟨key, tenant, e⟩ p w now limits s := by
  have hseen : ∀ scope, ((s.cell scope key.text).seen w now).Fuller
      ((s'.cell scope key.text).seen w' now') := fun scope =>
    (hs.cell scope key.text).seen w w' now now' hw hw'
  have hlatch : ∀ scope, ((s'.cell scope key.text).seen w' now').hardStopped = false →
      ((s.cell scope key.text).seen w now).hardStopped = false := by
    intro scope hopen
    rw [← Bool.not_eq_true] at *
    exact fun hstop => hopen ((hseen scope).latch hstop)
  have hspent : ∀ scope cap, ¬cap < (s'.cell scope key.text).spent w' now' + e'.cost →
      ¬cap < (s.cell scope key.text).spent w now + e.cost := fun scope cap hroom hlt =>
    hroom ((((hs.cell scope key.text).spent hw hw' now now').add hcost).lt hlt)
  refine ⟨hlatch _ h.latch, fun d hd => ?_, fun cap hcap => ?_⟩
  · obtain ⟨hown, hshared⟩ := h.daily d hd
    refine ⟨LedgerPolicy.exceedsDaily_of_fuller (hseen _) htokens hown, fun ht => ?_⟩
    obtain ⟨hopen, hroom⟩ := hshared ht
    exact ⟨hlatch _ hopen, LedgerPolicy.exceedsDaily_of_fuller (hseen _) htokens hroom⟩
  · obtain ⟨hown, hshared⟩ := h.lifetime cap hcap
    exact ⟨hspent _ cap hown, fun ht => hspent _ cap (hshared ht)⟩

end Demand

namespace Ledger

/-- Nothing that is held is given back, and exemptions stay as they are. -/
def loads : Rule := fun l _ _ op =>
  match op with
  | .commit id _ _ _ => l.reservations.get? id = none
  | .rollback _ _ => False
  | .toggleUnlimited _ _ => False
  | _ => True

variable {l l' : Ledger} {last : Option (Instant × Request)} {now : Instant} {op : Operation}

theorem Effect.fullerOn (he : l.Effect now op l') (hop : loads l last now op) :
    l.state.FullerOn (l.window now).day l'.state := by
  cases he with
  | looked hs =>
    refine ⟨hs.exemptions, fun scope key => ?_⟩
    rcases hs.cell scope key with h | h <;> rw [h]
    · exact Cell.FullerOn.refl _ _
    · exact Cell.fullerOn_adjust _ _ _ (fun _ => rfl) Bucket.Fuller.refl
  | @held id r hid =>
    refine ⟨exemptions_hold _ _ _ _ _ _, fun scope key => ?_⟩
    rw [cell_hold]
    split_ifs with h
    · rw [h.2]
      exact Cell.fullerOn_adjust _ _ _ (fun _ => rfl) (fun b => b.fuller_withHold now r.estimate)
    · exact Cell.FullerOn.refl _ _
  | committed hid =>
    have hnone : l.reservations.get? _ = none := hop
    rw [hid] at hnone
    contradiction
  | @orphaned id lane tenant actual hid =>
    refine ⟨exemptions_spend _ _ _ _ _ _ _, fun scope key => ?_⟩
    rw [cell_spend]
    split_ifs with h
    · rw [h.2]
      exact Cell.fullerOn_adjust _ _ _ (fun b => day_latchedUnder _ _ _)
        (fun b => (b.fuller_withUse now actual).trans (Bucket.fuller_latchedUnder _ _ _))
    · exact Cell.FullerOn.refl _ _
  | released hid => exact hop.elim
  | kept hid => exact hop.elim
  | toggled => exact hop.elim
  | raised drift hexempt hcell =>
    refine ⟨hexempt, fun scope key => ?_⟩
    rw [hcell]
    split_ifs with h
    · rw [← h.1, h.2]
      exact Cell.fullerOn_adjust _ _ _ (fun b => day_latchedUnder _ _ _)
        (fun b => (b.fuller_withReport now drift).trans (Bucket.fuller_latchedUnder _ _ _))
    · exact Cell.FullerOn.refl _ _

theorem fullerOn_after {ops : Schedule} {day : String} (hops : loads.Holds l last ops)
    (hdays : ∀ x ∈ ops, (l.window x.1).day = day) : l.state.FullerOn day (l.after ops).state := by
  induction ops generalizing l last with
  | nil => exact ⟨rfl, fun _ _ => Cell.FullerOn.refl _ _⟩
  | cons x rest ih =>
    obtain ⟨now, op⟩ := x
    have he := l.effect_step now op
    have hstep := he.fullerOn hops.1
    have hrest := ih hops.2 (fun y hy => by
      rw [window, he.policy]
      exact hdays y (List.mem_cons_of_mem _ hy))
    rw [hdays _ List.mem_cons_self] at hstep
    rw [after_cons]
    exact ⟨hrest.exemptions.trans hstep.exemptions,
      fun scope key => (hstep.cell scope key).trans (hrest.cell scope key)⟩

theorem denied_of_more_demand_and_load (l : Ledger) (now later : Instant) (key : LaneKey)
    (tenant : Option String) (e e' : Usage) (ops : Schedule)
    (hdenied : (l.canCall now ⟨key, tenant, e⟩).answer.allowed = false)
    (hin : e.tokensIn ≤ e'.tokensIn) (hout : e.tokensOut ≤ e'.tokensOut) (hcost : e.cost ≤ e'.cost)
    (hops : loads.Holds l none ops) (hdays : ∀ x ∈ ops, (l.window x.1).day = (l.window now).day)
    (hlater : (l.window later).day = (l.window now).day) :
    ((l.after ops).canCall later ⟨key, tenant, e'⟩).answer.allowed = false := by
  have hfuller := fullerOn_after hops hdays
  have hpolicy := l.policy_after ops
  obtain ⟨hexempt, limits, hlimits, hfull⟩ := (l.denied_canCall_iff now).mp hdenied
  rw [denied_canCall_iff, hpolicy, window, hpolicy]
  refine ⟨?_, limits, hlimits, fun hadmitted => hfull ?_⟩
  · obtain ⟨hunlimited, hlist⟩ := Prod.mk.inj hfuller.exemptions
    rw [exemption?, hunlimited, hlist]
    exact hexempt
  · exact hadmitted.of_fullerOn hfuller rfl hlater (totalTokens_le_totalTokens hin hout)
      (AtMost.of_le hcost)

def moreLoad : Schedule := [
  (noon 1, .reserve "b" ⟨sampleLane, some "bob", ⟨5, 5, 0.5⟩⟩),
  (noon 1, .commit "c" ⟨"plan", "anthropic"⟩ none (.ofTokens 0 20)),
  (noon 1, .commit "d" sampleLane (some "ann") (.ofTokens 10 0)),
  (noon 1, .applyReport sampleLane (Date.ofDayNumber 1) 50)]

theorem denied_of_more_demand_and_load_partlyReserved :
    let l := (start (samplePolicy ⟨some 100, some 10.0, true⟩)).after
      [(noon 1, .reserve "a" ⟨sampleLane, some "ann", .ofTokens 60 0⟩)]
    (l.canCall (noon 1) ⟨sampleLane, some "bob", .ofTokens 30 10⟩).answer.allowed = false ∧
      ((l.after moreLoad).canCall (noon 1) ⟨sampleLane, some "bob", ⟨30, 11, 1.0⟩⟩).answer.allowed =
        false := by
  intro l
  have hdenied : (l.canCall (noon 1) ⟨sampleLane, some "bob", .ofTokens 30 10⟩).answer.allowed =
      false := by decide +kernel
  refine ⟨hdenied, denied_of_more_demand_and_load l (noon 1) (noon 1) sampleLane (some "bob")
    (.ofTokens 30 10) ⟨30, 11, 1.0⟩ moreLoad hdenied (by decide) (by decide) (by decide) ?_
    (by decide +kernel) rfl⟩
  exact ⟨trivial, rfl, rfl, trivial, trivial⟩

end Ledger

end LaneQuota
