import LaneQuota.Proofs.Lane.Texts
import LaneQuota.Proofs.Ledger.Contents
import LaneQuota.Proofs.Ledger.Reports

namespace LaneQuota

open Ledger

theorem SortedMap.mem_entries {α : Type} {m : SortedMap α} {k : String} {v : α} :
    (k, v) ∈ m.entries ↔ m.get? k = some v :=
  ⟨findEntry_of_mem m.sorted, mem_of_findEntry⟩

def BucketStatus.Before (r r' : BucketStatus) : Prop :=
  match r.tenant, r'.tenant with
  | none, none => r.key < r'.key
  | none, some _ => True
  | some _, none => False
  | some t, some t' => t < t' ∨ t = t' ∧ r.key < r'.key

theorem BucketStatus.Before.ne {r r' : BucketStatus} (h : r.Before r') :
    (r.tenant, r.key) ≠ (r'.tenant, r'.key) := by
  intro heq
  obtain ⟨htenant, hkey⟩ := Prod.mk.inj heq
  unfold BucketStatus.Before at h
  rw [htenant, hkey] at h
  cases ht : r'.tenant with
  | none =>
    rw [ht] at h
    exact String.lt_irrefl _ h
  | some t =>
    rw [ht] at h
    exact h.elim (String.lt_irrefl t) (fun h => String.lt_irrefl _ h.2)

namespace Ledger

variable {l : Ledger} {tenant : Option String} {buckets : Buckets} {r : BucketStatus}

theorem mem_rows : r ∈ l.rows tenant buckets ↔
    ∃ key b, buckets.get? key = some b ∧ r = l.row tenant key b := by
  constructor
  · intro hr
    obtain ⟨⟨key, b⟩, he, rfl⟩ := List.mem_map.mp hr
    exact ⟨key, b, SortedMap.mem_entries.mp he, rfl⟩
  · rintro ⟨key, b, hb, rfl⟩
    exact List.mem_map.mpr ⟨(key, b), SortedMap.mem_entries.mpr hb, rfl⟩

theorem mem_snapshot : r ∈ l.snapshot ↔
    ∃ tenant key b, l.state.bucket? (Scope.ofTenant tenant) key = some b ∧
      r = l.row tenant key b := by
  rw [snapshot, List.mem_append, List.mem_flatMap]
  constructor
  · rintro (hr | ⟨⟨t, buckets⟩, he, hr⟩)
    · exact ⟨none, mem_rows.mp hr⟩
    · obtain ⟨key, b, hb, rfl⟩ := mem_rows.mp hr
      have hfound : l.state.bucket? (.tenant t) key = some b := by
        rw [LedgerState.bucket?, SortedMap.mem_entries.mp he]
        exact hb
      exact ⟨some t, key, b, hfound, rfl⟩
  · rintro ⟨_ | t, key, b, hb, rfl⟩
    · exact Or.inl (mem_rows.mpr ⟨key, b, hb, rfl⟩)
    · obtain ⟨buckets, ht, hb⟩ := Option.bind_eq_some_iff.mp hb
      exact Or.inr ⟨(t, buckets), SortedMap.mem_entries.mpr ht, mem_rows.mpr ⟨key, b, hb, rfl⟩⟩

theorem tenant_of_mem_rows (hr : r ∈ l.rows tenant buckets) : r.tenant = tenant := by
  obtain ⟨key, b, -, rfl⟩ := mem_rows.mp hr
  rfl

theorem pairwise_rows (l : Ledger) (tenant : Option String) (buckets : Buckets) :
    (l.rows tenant buckets).Pairwise BucketStatus.Before := by
  refine List.pairwise_map.mpr (buckets.sorted.imp fun hlt => ?_)
  cases tenant with
  | none => exact hlt
  | some t => exact Or.inr ⟨rfl, hlt⟩

theorem pairwise_snapshot (l : Ledger) : l.snapshot.Pairwise BucketStatus.Before := by
  refine List.pairwise_append.mpr ⟨l.pairwise_rows none _, ?_, fun r hr r' hr' => ?_⟩
  · refine List.pairwise_flatMap.mpr ⟨fun e _ => l.pairwise_rows _ _, ?_⟩
    refine l.state.tenantBuckets.sorted.imp fun hlt r hr r' hr' => ?_
    rw [BucketStatus.Before, tenant_of_mem_rows hr, tenant_of_mem_rows hr']
    exact Or.inl hlt
  · obtain ⟨e, -, hr'⟩ := List.mem_flatMap.mp hr'
    rw [BucketStatus.Before, tenant_of_mem_rows hr, tenant_of_mem_rows hr']
    trivial

theorem exists_row_iff {key : String} :
    (∃ r ∈ l.snapshot, r.tenant = tenant ∧ r.key = key) ↔
      ∃ b, l.state.bucket? (Scope.ofTenant tenant) key = some b := by
  constructor
  · rintro ⟨r, hr, rfl, rfl⟩
    obtain ⟨tenant, key, b, hb, rfl⟩ := mem_snapshot.mp hr
    exact ⟨b, hb⟩
  · rintro ⟨b, hb⟩
    exact ⟨_, mem_snapshot.mpr ⟨tenant, key, b, hb, rfl⟩, rfl, rfl⟩

theorem answer_ask_of_today {α : Type} {now : Instant} {key : LaneKey} {b : Bucket}
    (hb : l.state.bucket? (Scope.ofTenant tenant) key.text = some b)
    (hday : b.day = (l.window now).day) (f : Bucket → Float → α) :
    (l.ask now key tenant f).answer =
      f b (l.state.historyCost (Scope.ofTenant tenant) key.text) := by
  have hcell : l.state.cell (Scope.ofTenant tenant) key.text =
      ⟨some b, l.state.history (Scope.ofTenant tenant) key.text⟩ := by
    rw [LedgerState.cell, hb]
  unfold ask
  dsimp only
  rw [LedgerState.bucket_current, LedgerState.historyCost_current, hcell, Cell.seen_mk hday,
    Cell.archive_mk hday, LedgerState.historyCost_eq, hcell]

theorem answer_usageRatio_of_today {now : Instant} {key : LaneKey} {b : Bucket}
    (hb : l.state.bucket? (Scope.ofTenant tenant) key.text = some b)
    (hday : b.day = (l.window now).day) :
    (l.usageRatio now key tenant).answer = (l.policy.limits.get? key).bind fun limits =>
      limits.usageRatio b (l.state.historyCost (Scope.ofTenant tenant) key.text) := by
  unfold usageRatio
  cases l.policy.limits.get? key with
  | none => rfl
  | some limits => exact answer_ask_of_today hb hday _

end Ledger

def LedgerState.NamesLanes (s : LedgerState) : Prop :=
  ∀ scope key b, s.bucket? scope key = some b → ∃ lane : LaneKey, lane.WellFormed ∧ lane.text = key

theorem LedgerState.namesLanes_empty : LedgerState.empty.NamesLanes := by
  intro scope key b hb
  cases scope <;> contradiction

namespace Ledger

variable {l : Ledger} {now : Instant} {op : Operation} {key : String}

theorem cell_step_elsewhere (hop : ∀ lane ∈ op.named?, lane.text ≠ key)
    (hopen : ∀ id r, l.reservations.get? id = some r → r.key.text ≠ key) (scope : Scope) :
    (l.step now op).ledger.state.cell scope key = l.state.cell scope key := by
  by_cases hask : op.asks = true
  · refine keeps_asked (fun s => s.cell scope key = l.state.cell scope key)
      (fun s scope' lane hlane hs => ?_) rfl hask
    rw [s.cell_current, if_neg (fun h => hop lane hlane h.2), hs]
  have hspend : ∀ (lane : LaneKey) (hne : lane.text ≠ key) tenant usage s,
      (spend l.policy lane tenant usage (l.window now) now s).cell scope key = s.cell scope key :=
    fun lane hne tenant usage s => by rw [cell_spend, if_neg (fun h => hne h.2)]
  have hrelease : ∀ id r, l.reservations.get? id = some r →
      (release l.state r (l.window now) now).cell scope key = l.state.cell scope key :=
    fun id r hr => by rw [cell_release, if_neg (fun h => hopen id r hr h.2)]
  cases op with
  | reserve id r =>
    change (l.reserve now id r).ledger.state.cell scope key = _
    unfold reserve
    split_ifs
    · rfl
    · exact (cell_hold ..).trans (if_neg (fun h => hop _ rfl h.2))
  | commit id lane tenant actual =>
    change (l.commit now id lane tenant actual).ledger.state.cell scope key = _
    unfold commit
    cases hr : l.reservations.get? id with
    | none => exact hspend lane (hop _ rfl) _ _ _
    | some r => exact (hspend lane (hop _ rfl) _ _ _).trans (hrelease id r hr)
  | rollback id mode =>
    change (l.rollback now id mode).ledger.state.cell scope key = _
    unfold rollback
    cases hr : l.reservations.get? id with
    | none => rfl
    | some r =>
      cases mode with
      | release => exact hrelease id r hr
      | keep => exact (hspend r.key (hopen id r hr) _ _ _).trans (hrelease id r hr)
  | toggleUnlimited enabled tenant => exact l.cell_toggleUnlimited enabled tenant scope key
  | applyReport lane start reported =>
    exact (l.cell_applyReport now lane start reported scope key).trans
      (if_neg (fun h => hop _ rfl h.2))
  | _ => exact absurd rfl hask

structure NamesLanes (l : Ledger) : Prop where
  state : l.state.NamesLanes
  reservations : ∀ id r, l.reservations.get? id = some r → r.key.WellFormed

theorem namesLanes_ofState (p : LedgerPolicy) {s : LedgerState} (h : s.NamesLanes) :
    (ofState p s).NamesLanes :=
  ⟨h, fun _ _ hr => by contradiction⟩

theorem NamesLanes.step (h : l.NamesLanes) (hop : ∀ lane ∈ op.named?, lane.WellFormed) :
    (l.step now op).ledger.NamesLanes := by
  refine ⟨fun scope key b hb => ?_, fun id r hr => ?_⟩
  · by_contra hnone
    have hstrange : ∀ lane : LaneKey, lane.WellFormed → lane.text ≠ key :=
      fun lane hlane htext => hnone ⟨lane, hlane, htext⟩
    have hcell : (l.step now op).ledger.state.cell scope key = l.state.cell scope key :=
      cell_step_elsewhere (fun lane hlane => hstrange lane (hop lane hlane))
        (fun id r hr => hstrange r.key (h.reservations id r hr)) scope
    exact hnone (h.state scope key b ((congrArg Cell.bucket hcell).symm.trans hb))
  · rcases (l.effect_step now op).reservation hr with hr | ⟨q, rfl, rfl⟩
    · exact h.reservations id r hr
    · exact hop q.key rfl

theorem NamesLanes.after (h : l.NamesLanes) {ops : Schedule}
    (hops : ∀ x ∈ ops, ∀ lane ∈ x.2.named?, lane.WellFormed) : (l.after ops).NamesLanes := by
  induction ops generalizing l with
  | nil => exact h
  | cons x ops ih =>
    exact ih (h.step (hops x List.mem_cons_self)) (fun y hy => hops y (List.mem_cons_of_mem _ hy))

/-- A ledger begins with any state that names lanes, be it empty or read from a file, and works on
lanes that their texts give back. Then its snapshot has one row for every live bucket, in order. A
row shows the limits of its lane, and what a row of today shows is what the ledger answers for the
lane. -/
theorem rows_agree_with_queries (p : LedgerPolicy) {s : LedgerState} (hs : s.NamesLanes)
    {ops : Schedule} (hops : ∀ x ∈ ops, ∀ lane ∈ x.2.named?, lane.WellFormed) (now : Instant) :
    let l := (ofState p s).after ops
    l.snapshot.Pairwise BucketStatus.Before ∧
      (l.snapshot.map (fun r => (r.tenant, r.key))).Nodup ∧
      (∀ tenant key, (∃ r ∈ l.snapshot, r.tenant = tenant ∧ r.key = key) ↔
        ∃ b, l.state.bucket? (Scope.ofTenant tenant) key = some b) ∧
      ∀ r ∈ l.snapshot,
        (∃ b, l.state.bucket? (Scope.ofTenant r.tenant) r.key = some b ∧
          (r.day, r.used, r.reserved, r.hardStopped) =
            (b.day, b.used, b.reserved, b.hardStopped)) ∧
        ∃ lane : LaneKey, lane.WellFormed ∧ lane.text = r.key ∧
          r.dailyTokens = (p.limits.get? lane).bind Limits.dailyTokens ∧
          r.lifetimeCost = (p.limits.get? lane).bind Limits.lifetimeCost ∧
          (r.day = (l.window now).day →
            r.used = (l.currentUsage now lane r.tenant).answer ∧
            r.reserved = (l.reservedUsage now lane r.tenant).answer ∧
            r.usageRatio = (l.usageRatio now lane r.tenant).answer) := by
  intro l
  have hpolicy : l.policy = p := policy_after _ _
  have hnames : l.NamesLanes := (namesLanes_ofState p hs).after hops
  have hordered := l.pairwise_snapshot
  refine ⟨hordered, List.pairwise_map.mpr (hordered.imp BucketStatus.Before.ne),
    fun tenant key => exists_row_iff, fun r hr => ?_⟩
  obtain ⟨tenant, key, b, hb, rfl⟩ := mem_snapshot.mp hr
  obtain ⟨lane, hlane, rfl⟩ := hnames.state _ key b hb
  have hlimits : (LaneKey.read? lane.text).bind l.policy.limits.get? = p.limits.get? lane := by
    rw [hlane.read?_text, hpolicy]
    rfl
  refine ⟨⟨b, hb, rfl⟩, lane, hlane, rfl, ?_, ?_, fun hday => ⟨?_, ?_, ?_⟩⟩
  · exact congrArg (Option.bind · Limits.dailyTokens) hlimits
  · exact congrArg (Option.bind · Limits.lifetimeCost) hlimits
  · exact (answer_ask_of_today hb hday (fun b _ => b.used)).symm
  · exact (answer_ask_of_today hb hday (fun b _ => b.reserved)).symm
  · have hratio := answer_usageRatio_of_today hb hday
    rw [hpolicy, ← hlimits] at hratio
    exact hratio.symm

def overTwoDays : Schedule := [
  (noon 1, .commit "a" sampleLane (some "ann") (.ofTokens 30 10)),
  (noon 2, .reserve "b" ⟨sampleLane, some "bob", .ofTokens 20 5⟩),
  (noon 2, .commit "c" ⟨"burn", "openai:large"⟩ none (.ofTokens 1 2))]

theorem rows_agree_with_queries_overTwoDays :
    LedgerState.empty.NamesLanes ∧
      (∀ x ∈ overTwoDays, ∀ lane ∈ x.2.named?, lane.WellFormed) ∧
      let l := (ofState (samplePolicy ⟨some 400, none, true⟩) .empty).after overTwoDays
      l.snapshot.map (fun r => (r.tenant, r.key, r.day)) = [
        (none, "burn:anthropic", "1970-01-03"), (none, "burn:openai:large", "1970-01-03"),
        (some "ann", "burn:anthropic", "1970-01-02"),
        (some "bob", "burn:anthropic", "1970-01-03")] ∧
      ∀ r ∈ l.snapshot, r.day = (l.window (noon 2)).day → ∃ lane : LaneKey, lane.text = r.key ∧
        r.used = (l.currentUsage (noon 2) lane r.tenant).answer := by
  have hops : ∀ x ∈ overTwoDays, ∀ lane ∈ x.2.named?, lane.WellFormed := by decide
  refine ⟨LedgerState.namesLanes_empty, hops, by decide +kernel, fun r hr hday => ?_⟩
  obtain ⟨-, -, -, hrows⟩ := rows_agree_with_queries (samplePolicy ⟨some 400, none, true⟩)
    LedgerState.namesLanes_empty hops (noon 2)
  obtain ⟨-, lane, -, htext, -, -, htoday⟩ := hrows r hr
  exact ⟨lane, htext, (htoday hday).1⟩

end Ledger

end LaneQuota
