import LaneQuota.Proofs.Ledger.Revisits
import LaneQuota.Proofs.Ledger.Rewrites
import LaneQuota.Proofs.Ledger.Turns

namespace LaneQuota

open Ledger

namespace Bucket

variable {b b' : Bucket} {limits : Limits} {d : UInt64}

def LatchedAt (b : Bucket) (d : UInt64) : Prop :=
  b.hardStopped = true ↔ d ≤ b.used.totalTokens

theorem latchedAt_fresh (hd : 0 < d) (w : Window) (now : Instant) : (fresh w now).LatchedAt d := by
  have hzero : Usage.zero.totalTokens = 0 := by decide
  simp [LatchedAt, fresh, hzero, UInt64.not_le.mpr hd]

theorem totalTokens_le_withReport (b : Bucket) (drift : UInt64) (now : Instant) :
    b.used.totalTokens ≤ (b.withReport drift now).used.totalTokens := by
  rw [UInt64.le_iff_toNat_le]
  simp only [Usage.totalTokens, withReport, toNat_addTokens]
  omega

theorem LatchedAt.latchedUnder (h : b.LatchedAt d) (hdaily : limits.dailyTokens = some d)
    (hlifetime : limits.lifetimeCost = none) (cost : Float) (hstop : b'.hardStopped = b.hardStopped)
    (hmore : b.used.totalTokens ≤ b'.used.totalTokens) :
    (Ledger.latchedUnder (some limits) cost b').LatchedAt d := by
  have hlatch : Ledger.latchedUnder (some limits) cost b' =
      if d ≤ b'.used.totalTokens then { b' with hardStopped := true } else b' := by
    simp [Ledger.latchedUnder, latched, hdaily, hlifetime]
  rw [hlatch]
  split_ifs with hreached
  · exact ⟨fun _ => hreached, fun _ => rfl⟩
  · have hbelow : ¬d ≤ b.used.totalTokens := fun hle =>
      hreached (UInt64.le_trans hle hmore)
    unfold LatchedAt at h ⊢
    rw [hstop, h]
    exact iff_of_false hbelow hreached

theorem hardStopped_latchedUnder (limits : Option Limits) (cost : Float)
    (h : b.hardStopped = true) : (Ledger.latchedUnder limits cost b).hardStopped = true := by
  rcases latchedUnder_eq limits cost b with heq | heq <;> rw [heq]
  exact h

end Bucket

namespace Cell

variable {c c' : Cell} {w : Window} {now : Instant} {limits : Limits} {d : UInt64}

def LatchedAt (c : Cell) (d : UInt64) : Prop := ∀ b, c.bucket = some b → b.LatchedAt d

theorem LatchedAt.adjust (h : c.LatchedAt d) (hd : 0 < d) {f : Bucket → Bucket}
    (hf : ∀ b : Bucket, b.LatchedAt d → (f b).LatchedAt d) : (c.adjust w now f).LatchedAt d := by
  intro b hb
  rw [← Option.some.inj hb]
  apply hf
  unfold seen
  split
  · exact Bucket.latchedAt_fresh hd w now
  · next a ha =>
    split_ifs
    · exact h a ha
    · exact Bucket.latchedAt_fresh hd w now

theorem LatchedAt.rewritten (h : c.LatchedAt d) (hd : 0 < d) (hdaily : limits.dailyTokens = some d)
    (hlifetime : limits.lifetimeCost = none) (hr : c.Rewritten (fun ls => ls = some limits) w now c') :
    c'.LatchedAt d := by
  have hspend : ∀ {c : Cell} (usage : Usage), c.LatchedAt d →
      (c.spending w now (some limits) usage).LatchedAt d := fun usage hc =>
    hc.adjust hd (fun b hb => hb.latchedUnder hdaily hlifetime _ rfl
      (b.used.totalTokens_le_plus usage))
  cases hr with
  | same => exact h
  | moved => exact h.adjust hd (fun _ hb => hb)
  | held estimate => exact h.adjust hd (fun _ hb => hb)
  | released r => exact h.adjust hd (fun _ hb => hb)
  | spent hlimits usage =>
    rw [hlimits]
    exact hspend usage h
  | settled hlimits r usage =>
    rw [hlimits]
    exact hspend usage (h.adjust hd (fun _ hb => hb))
  | reported hlimits drift =>
    rw [hlimits]
    exact h.adjust hd (fun b hb => hb.latchedUnder hdaily hlifetime _ rfl
      (b.totalTokens_le_withReport drift now))

def StoppedOn (c : Cell) (day : String) : Prop :=
  ∃ b, c.bucket = some b ∧ b.day = day ∧ b.hardStopped = true

theorem StoppedOn.seen (h : c.StoppedOn w.day) (now : Instant) :
    (c.seen w now).hardStopped = true := by
  obtain ⟨b, hb, hday, hstop⟩ := h
  simp [Cell.seen, hb, hday, hstop]

theorem StoppedOn.adjust (h : c.StoppedOn w.day) {f : Bucket → Bucket}
    (hday : ∀ b, (f b).day = b.day) (hf : ∀ b, b.hardStopped = true → (f b).hardStopped = true) :
    (c.adjust w now f).StoppedOn w.day :=
  ⟨_, rfl, (hday _).trans (c.day_seen w now), hf _ (h.seen now)⟩

theorem StoppedOn.rewritten {L : Option Limits → Prop} (h : c.StoppedOn w.day)
    (hr : c.Rewritten L w now c') : c'.StoppedOn w.day := by
  have hspend : ∀ {c : Cell} (limits : Option Limits) (usage : Usage), c.StoppedOn w.day →
      (c.spending w now limits usage).StoppedOn w.day := fun limits usage hc =>
    hc.adjust (fun b => day_latchedUnder _ _ _)
      (fun b hb => Bucket.hardStopped_latchedUnder limits _ hb)
  cases hr with
  | same => exact h
  | moved => exact h.adjust (fun _ => rfl) (fun _ hb => hb)
  | held estimate => exact h.adjust (fun _ => rfl) (fun _ hb => hb)
  | released r => exact h.adjust (fun _ => rfl) (fun _ hb => hb)
  | spent _ usage => exact hspend _ usage h
  | settled _ r usage => exact hspend _ usage (h.adjust (fun _ => rfl) (fun _ hb => hb))
  | reported _ drift =>
    exact h.adjust (fun b => day_latchedUnder _ _ _)
      (fun b hb => Bucket.hardStopped_latchedUnder _ _ hb)

end Cell

namespace Ledger

variable {l : Ledger} {now : Instant} {r : Request} {limits : Limits} {d : UInt64} {scope : Scope}

theorem denied_of_stoppedOn (hexempt : l.exemption? r.tenant = none)
    (hlimits : l.policy.limits.enforced? r.key = some limits) (hdaily : limits.dailyTokens = some d)
    (hscope : scope = .shared ∨ scope = r.ownScope)
    (h : (l.state.cell scope r.key.text).StoppedOn (l.window now).day) :
    (l.canCall now r).answer.allowed = false := by
  have hstop := h.seen now
  rw [← Bool.not_eq_true, l.allowed_canCall_iff now hexempt hlimits]
  intro hadmitted
  have hlatch := hadmitted.latch
  by_cases hown : scope = r.ownScope
  · rw [← hown, hstop] at hlatch
    contradiction
  · obtain rfl := hscope.resolve_right hown
    have htenant : r.tenant.isSome = true := by
      cases ht : r.tenant with
      | none => exact absurd (by rw [Request.ownScope, ht]; rfl) hown
      | some t => rfl
    have hshared := ((hadmitted.daily d hdaily).2 htenant).1
    rw [hstop] at hshared
    contradiction

theorem latchedAt_after {p : LedgerPolicy} {key : LaneKey} {ops : Schedule} (hkey : key.Plain)
    (hops : ∀ x ∈ ops, ∀ lane ∈ x.2.lane?, lane.Plain)
    (hlimits : p.limits.enforced? key = some limits) (hdaily : limits.dailyTokens = some d)
    (hd : 0 < d) (hlifetime : limits.lifetimeCost = none) (scope : Scope) :
    (((start p).after ops).state.cell scope key.text).LatchedAt d := by
  have hstart : ((start p).state.cell scope key.text).LatchedAt d := by
    intro b hb
    cases scope <;> contradiction
  have hlanes := plain_lanes_limits (p := p) hkey hops
  rw [hlimits] at hlanes
  exact after_of_rewritten (P := fun c => c.LatchedAt d) (heldUnder_start p _ _) hlanes
    (fun x _ c c' hc hr => hc.rewritten hd hdaily hlifetime hr) hstart

theorem stoppedOn_after {key : String} {later : Schedule} {day : String}
    (hdays : ∀ x ∈ later, (l.window x.1).day = day) (h : (l.state.cell scope key).StoppedOn day) :
    ((l.after later).state.cell scope key).StoppedOn day := by
  refine after_of_rewritten (L := fun _ => True) (P := fun c => c.StoppedOn day)
    (fun _ _ _ _ => trivial) (fun _ _ _ _ _ => trivial) ?_ h
  intro x hx c c' hc hr
  rw [← hdays x hx] at hc ⊢
  exact hc.rewritten hr

theorem latch_exact_and_sticky (p : LedgerPolicy) (key : LaneKey) (limits : Limits) (d : UInt64)
    (ops : Schedule) (hkey : key.Plain) (hops : ∀ x ∈ ops, ∀ lane ∈ x.2.lane?, lane.Plain)
    (hlimits : p.limits.enforced? key = some limits) (hdaily : limits.dailyTokens = some d)
    (hd : 0 < d) (hlifetime : limits.lifetimeCost = none) (scope : Scope) (b : Bucket)
    (hb : ((start p).after ops).state.bucket? scope key.text = some b) :
    (b.hardStopped = true ↔ d ≤ b.used.totalTokens) ∧
      (b.hardStopped = true → ∀ (later : Schedule) (now : Instant) (r : Request),
        (∀ x ∈ later, (Window.at x.1 p.zone).day = b.day) → (Window.at now p.zone).day = b.day →
        r.key = key → (scope = .shared ∨ scope = r.ownScope) →
        ((start p).after (ops ++ later)).exemption? r.tenant = none →
        (((start p).after (ops ++ later)).canCall now r).answer.allowed = false) := by
  refine ⟨latchedAt_after hkey hops hlimits hdaily hd hlifetime scope b hb, ?_⟩
  rintro hstop later now r hdays hday rfl hscope hexempt
  have hpolicy : ((start p).after ops).policy = p := policy_after _ _
  have hpolicy' : ((start p).after (ops ++ later)).policy = p := policy_after _ _
  have hwindow : ∀ t, ((start p).after ops).window t = Window.at t p.zone := fun t => by
    rw [window, hpolicy]
  have hstopped := stoppedOn_after (fun x hx => by rw [hwindow, hdays x hx]) ⟨b, hb, rfl, hstop⟩
  rw [← after_append, ← hday] at hstopped
  apply denied_of_stoppedOn hexempt (by rw [hpolicy', hlimits]) hdaily hscope
  rwa [window, hpolicy']

def filledByReport : Schedule := [
  (noon 1, .reserve "a" ⟨sampleLane, some "ann", .ofTokens 60 0⟩),
  (noon 1, .rollback "a" .keep),
  (noon 1, .applyReport sampleLane (Date.ofDayNumber 1) 100)]

def overForTheDay : Schedule := [
  (noon 1, .toggleUnlimited true (some "ann")),
  (noon 1, .commit "b" sampleLane (some "ann") (.ofTokens 0 0))]

theorem latch_exact_and_sticky_filledByReport :
    ((((start (samplePolicy ⟨some 100, none, true⟩)).after filledByReport).state.bucket? .shared
        sampleLane.text).map (fun b => (b.hardStopped, b.used.totalTokens)) = some (true, 100)) ∧
      (((start (samplePolicy ⟨some 100, none, true⟩)).after
        (filledByReport ++ overForTheDay)).canCall (noon 1)
          ⟨sampleLane, some "bob", .ofTokens 0 0⟩).answer.allowed = false := by
  have hview : (((start (samplePolicy ⟨some 100, none, true⟩)).after filledByReport).state.bucket?
      .shared sampleLane.text).map (fun b => (b.used.totalTokens, b.day)) =
        some (100, "1970-01-02") := by decide +kernel
  obtain ⟨b, hb, hmap⟩ := Option.map_eq_some_iff.mp hview
  obtain ⟨hused, hday⟩ := Prod.mk.inj hmap
  obtain ⟨hexact, hsticky⟩ := latch_exact_and_sticky (samplePolicy ⟨some 100, none, true⟩) sampleLane
    ⟨some 100, none, true⟩ 100 filledByReport (by decide) (by decide +kernel) (by decide +kernel) rfl
    (by decide) rfl .shared b hb
  have hstop : b.hardStopped = true := hexact.mpr (UInt64.le_of_eq hused.symm)
  refine ⟨by rw [hb, Option.map_some, hstop, hused], ?_⟩
  rw [hday] at hsticky
  exact hsticky hstop overForTheDay (noon 1) _ (by decide +kernel) (by decide +kernel) rfl
    (Or.inl rfl) (by decide +kernel)

end Ledger

end LaneQuota
