import LaneQuota.Proofs.Ledger.Gains
import LaneQuota.Proofs.Ledger.Hours
import LaneQuota.Proofs.Ledger.Runs

namespace LaneQuota

open Ledger

namespace SortedMap

variable {α : Type}

theorem findEntry_of_mem {e : String × α} {es : List (String × α)}
    (hs : es.Pairwise (fun a b => a.1 < b.1)) (he : e ∈ es) : findEntry e.1 es = some e.2 := by
  induction es with
  | nil => contradiction
  | cons x rest ih =>
    obtain ⟨hlt, hrest⟩ := List.pairwise_cons.mp hs
    unfold findEntry
    rcases List.mem_cons.mp he with rfl | he
    · rw [if_pos rfl]
    · have hne : x.1 ≠ e.1 := fun heq => String.lt_irrefl e.1 (heq ▸ hlt e he)
      rw [if_neg hne, ih hrest he]

theorem mem_values {m : SortedMap α} {v : α} : v ∈ m.values ↔ ∃ k, m.get? k = some v := by
  constructor
  · intro hv
    obtain ⟨e, he, rfl⟩ := List.mem_map.mp hv
    exact ⟨e.1, findEntry_of_mem m.sorted he⟩
  · rintro ⟨k, hk⟩
    exact List.mem_map_of_mem (mem_of_findEntry hk)

end SortedMap

structure LedgerState.Every (P : Bucket → Prop) (Q : Usage → Prop) (s : LedgerState) : Prop where
  bucket : ∀ scope key, ∀ b ∈ (s.cell scope key).buckets, P b
  logged : ∀ scope key, ∀ u ∈ (s.hourly scope key).values, Q u

/-- What is known of buckets and logged usage before a step and after it, where only usage that is
known to have a third property comes in. -/
structure Carries (U : Usage → Prop) (now : Instant) (P P' : Bucket → Prop)
    (Q Q' : Usage → Prop) : Prop where
  fresh : ∀ w, P (Bucket.fresh w now)
  kept : ∀ b, P b → P' b
  held : ∀ b u, P b → U u → P' (b.withHold u now)
  released : ∀ b (r : Reservation), P b → U r.estimate → P (b.withoutHold r now)
  used : ∀ b u, P b → U u → P' (b.withUse u now)
  reported : ∀ b drift, P b → P' (b.withReport drift now)
  latched : ∀ b, P' b → P' { b with hardStopped := true }
  unlogged : Q Usage.zero
  stays : ∀ u, Q u → Q' u
  logged : ∀ u v, Q u → U v → Q' (u.plus v)

def Operation.Enters (U : Usage → Prop) : Operation → Prop
  | .reserve _ r => U r.estimate
  | .commit _ _ _ actual => U actual
  | _ => True

instance (U : Usage → Prop) [DecidablePred U] (op : Operation) : Decidable (op.Enters U) := by
  cases op <;> unfold Operation.Enters <;> infer_instance

theorem Operation.Enters.mono {U U' : Usage → Prop} {op : Operation} (h : op.Enters U)
    (hU : ∀ u, U u → U' u) : op.Enters U' := by
  cases op with
  | reserve id r => exact hU _ h
  | commit id key tenant actual => exact hU _ h
  | _ => trivial

namespace Cell

variable {c : Cell} {w : Window} {now : Instant} {P P' : Bucket → Prop}

theorem every_seen (hfresh : ∀ w, P (Bucket.fresh w now)) (hc : ∀ b ∈ c.buckets, P b) :
    P (c.seen w now) := by
  unfold seen
  split
  · exact hfresh w
  · next b hb =>
    split_ifs
    · exact hc b (by simp [buckets, hb])
    · exact hfresh w

theorem mem_buckets_of_mem_archive {b : Bucket} (h : b ∈ c.archive w) : b ∈ c.buckets := by
  rcases mem_archive h with h | ⟨h, -⟩
  · exact List.mem_append_left _ h
  · exact List.mem_append_right _ (Option.mem_toList.mpr h)

theorem every_adjust (hfresh : ∀ w, P (Bucket.fresh w now)) (hkept : ∀ b, P b → P' b)
    {f : Bucket → Bucket} (hf : ∀ b, P b → P' (f b)) (hc : ∀ b ∈ c.buckets, P b) :
    ∀ b ∈ (c.adjust w now f).buckets, P' b := by
  intro b hb
  rcases List.mem_append.mp hb with hb | hb
  · exact hkept b (hc b (mem_buckets_of_mem_archive hb))
  · obtain rfl : b = f (c.seen w now) := by simpa [adjust] using hb
    exact hf _ (every_seen hfresh hc)

end Cell

namespace Carries

variable {U : Usage → Prop} {now : Instant} {P P' : Bucket → Prop} {Q Q' : Usage → Prop}
  {s : LedgerState} {w : Window} (hc : Carries U now P P' Q Q')

include hc

theorem latchedUnder {b : Bucket} (h : P' b) (limits : Option Limits) (cost : Float) :
    P' (Ledger.latchedUnder limits cost b) := by
  rcases latchedUnder_eq limits cost b with heq | heq
  · rwa [heq]
  · rw [heq]
    exact hc.latched b h

theorem every (h : s.Every P Q) : s.Every P' Q' :=
  ⟨fun scope key b hb => hc.kept b (h.bucket scope key b hb),
    fun scope key u hu => hc.stays u (h.logged scope key u hu)⟩

theorem current (h : s.Every P Q) (scope : Scope) (key : String) :
    (s.current scope key w now).state.Every P Q := by
  refine ⟨fun scope' key' => ?_, fun scope' key' => ?_⟩
  · rw [s.cell_current]
    split_ifs
    · exact Cell.every_adjust hc.fresh (fun _ hb => hb) (fun _ hb => hb) (h.bucket scope key)
    · exact h.bucket scope' key'
  · rw [LedgerState.hourly, s.hourly?_current]
    exact h.logged scope' key'

theorem hold (h : s.Every P Q) (key : String) (tenant : Option String) {estimate : Usage}
    (hu : U estimate) : (Ledger.hold s key tenant estimate w now).Every P' Q' := by
  refine ⟨fun scope key' => ?_, fun scope key' => ?_⟩
  · rw [cell_hold]
    split_ifs
    · exact Cell.every_adjust hc.fresh hc.kept (fun b hb => hc.held b _ hb hu) (h.bucket scope key)
    · exact (hc.every h).bucket scope key'
  · rw [LedgerState.hourly, hourly?_hold]
    exact (hc.every h).logged scope key'

theorem release (h : s.Every P Q) {r : Reservation} (hr : U r.estimate) :
    (Ledger.release s r w now).Every P Q := by
  refine ⟨fun scope key => ?_, fun scope key => ?_⟩
  · rw [cell_release]
    split_ifs
    · exact Cell.every_adjust hc.fresh (fun _ hb => hb) (fun b hb => hc.released b r hb hr)
        (h.bucket scope r.key.text)
    · exact h.bucket scope key
  · rw [LedgerState.hourly, hourly?_release]
    exact h.logged scope key

theorem logging (p : LedgerPolicy) {log : HourlyLog} {usage : Usage} (hu : U usage)
    (h : ∀ u ∈ log.values, Q u) :
    ∀ u ∈ ((log.record now p.zone usage).prune now p.zone p.retentionHours).values, Q' u := by
  have hrecord : ∀ u ∈ (log.record now p.zone usage).values, Q' u := by
    intro u hmem
    obtain ⟨hour, hget⟩ := SortedMap.mem_values.mp hmem
    rw [HourlyLog.record, SortedMap.get?_adjust] at hget
    split_ifs at hget with hhour
    · obtain rfl := Option.some.inj hget
      refine hc.logged _ _ ?_ hu
      rw [SortedMap.getD]
      cases hold : log.get? (hourName now p.zone) with
      | none => exact hc.unlogged
      | some v => exact h v (SortedMap.mem_values.mpr ⟨_, hold⟩)
    · exact hc.stays u (h u (SortedMap.mem_values.mpr ⟨hour, hget⟩))
  intro u hmem
  unfold HourlyLog.prune at hmem
  split at hmem
  · exact hrecord u hmem
  · obtain ⟨hour, hget⟩ := SortedMap.mem_values.mp hmem
    rw [SortedMap.get?_filterKeys] at hget
    split_ifs at hget
    exact hrecord u (SortedMap.mem_values.mpr ⟨hour, hget⟩)

theorem spend (h : s.Every P Q) (p : LedgerPolicy) (key : LaneKey) (tenant : Option String)
    {usage : Usage} (hu : U usage) : (Ledger.spend p key tenant usage w now s).Every P' Q' := by
  refine ⟨fun scope key' => ?_, fun scope key' => ?_⟩
  · rw [cell_spend]
    split_ifs
    · exact Cell.every_adjust hc.fresh hc.kept
        (fun b hb => hc.latchedUnder (hc.used b usage hb hu) _ _) (h.bucket scope key.text)
    · exact (hc.every h).bucket scope key'
  · rw [LedgerState.hourly, hourly?_spend]
    split_ifs
    · exact hc.logging p hu (h.logged scope key.text)
    · exact (hc.every h).logged scope key'

end Carries

namespace Ledger

variable {U : Usage → Prop} {now : Instant} {P P' : Bucket → Prop} {Q Q' : Usage → Prop}
  {l : Ledger} {op : Operation}

theorem promised_step (h : ∀ id r, l.reservations.get? id = some r → U r.estimate)
    (hop : op.Enters U) (id : String) (r : Reservation)
    (hr : (l.step now op).ledger.reservations.get? id = some r) : U r.estimate := by
  rcases (l.effect_step now op).reservation hr with hr | ⟨q, rfl, rfl⟩
  · exact h id r hr
  · exact hop

theorem every_step (hc : Carries U now P P' Q Q')
    (hpromised : ∀ id r, l.reservations.get? id = some r → U r.estimate) (hop : op.Enters U)
    (h : l.state.Every P Q) : (l.step now op).ledger.state.Every P' Q' := by
  -- Asking only brings buckets into the window, which adds nothing to them.
  by_cases hask : op.asks = true
  · exact hc.every (keeps_step (fun s => s.Every P Q) (fun s scope key hs => hc.current hs scope key)
      h hask)
  cases op with
  | reserve id r =>
    change (l.reserve now id r).ledger.state.Every P' Q'
    unfold reserve
    split_ifs
    · exact hc.every h
    · exact hc.hold h r.key.text r.tenant hop
  | commit id key tenant actual =>
    change (l.commit now id key tenant actual).ledger.state.Every P' Q'
    unfold commit
    cases hid : l.reservations.get? id with
    | none => exact hc.spend h l.policy key tenant hop
    | some r => exact hc.spend (hc.release h (hpromised id r hid)) l.policy key tenant hop
  | rollback id mode =>
    change (l.rollback now id mode).ledger.state.Every P' Q'
    unfold rollback
    cases hid : l.reservations.get? id with
    | none => exact hc.every h
    | some r =>
      have hr := hpromised id r hid
      cases mode with
      | release => exact hc.every (hc.release h hr)
      | keep => exact hc.spend (hc.release h hr) l.policy r.key r.tenant hr
  | toggleUnlimited enabled tenant =>
    refine hc.every ⟨fun scope key => ?_, fun scope key => ?_⟩
    · change ∀ b ∈ ((l.toggleUnlimited enabled tenant).ledger.state.cell scope key).buckets, P b
      rw [cell_toggleUnlimited]
      exact h.bucket scope key
    · change ∀ u ∈ ((l.toggleUnlimited enabled tenant).ledger.state.hourly scope key).values, Q u
      rw [LedgerState.hourly, hourly?_toggleUnlimited]
      exact h.logged scope key
  | applyReport key start reported =>
    refine ⟨fun scope key' => ?_, fun scope key' => ?_⟩
    · change ∀ b ∈ ((l.applyReport now key start reported).ledger.state.cell scope key').buckets,
        P' b
      rw [cell_applyReport]
      split_ifs
      · split
        · exact Cell.every_adjust hc.fresh hc.kept hc.kept (h.bucket .shared key.text)
        · exact Cell.every_adjust hc.fresh hc.kept
            (fun b hb => hc.latchedUnder (hc.reported b _ hb) _ _) (h.bucket .shared key.text)
      · exact (hc.every h).bucket scope key'
    · change ∀ u ∈ ((l.applyReport now key start reported).ledger.state.hourly scope key').values,
        Q' u
      rw [LedgerState.hourly, hourly?_applyReport]
      exact (hc.every h).logged scope key'
  | _ => exact absurd rfl hask

theorem every_after {ops : Schedule} (hc : ∀ x ∈ ops, Carries U x.1 P P Q Q)
    (hpromised : ∀ id r, l.reservations.get? id = some r → U r.estimate)
    (hops : ∀ x ∈ ops, x.2.Enters U) (h : l.state.Every P Q) : (l.after ops).state.Every P Q := by
  induction ops generalizing l with
  | nil => exact h
  | cons x rest ih =>
    obtain ⟨now, op⟩ := x
    have hop := hops _ List.mem_cons_self
    exact ih (fun x hx => hc x (List.mem_cons_of_mem _ hx)) (promised_step hpromised hop)
      (fun x hx => hops x (List.mem_cons_of_mem _ hx))
      (every_step (hc _ List.mem_cons_self) hpromised hop h)

end Ledger

end LaneQuota
