import LaneQuota.Proofs.Ledger.Exhaustion
import LaneQuota.Proofs.Ledger.Turns
import LaneQuota.Proofs.Storage.Acceptance

/-!
# What clearing leaves

A ledger that is opened clears the live buckets of all that is reserved there, shared or a tenant's.
What is reserved counts as nothing where it has no tokens and a cost that is not above zero, so a
bucket of a state file whose reserved cost is below zero keeps it. Apart from such debts clearing is
complete, it touches nothing else, and it finds nothing to clear when it is done again. No run of a
ledger makes a debt.
-/

namespace LaneQuota

namespace Usage

variable {u : Usage}

structure Nothing (u : Usage) : Prop where
  tokensIn : u.tokensIn = 0
  tokensOut : u.tokensOut = 0
  cost : u.Costless

structure Owing (u : Usage) : Prop where
  tokensIn : u.tokensIn = 0
  tokensOut : u.tokensOut = 0
  cost : u.cost < 0.0

theorem nothing_zero : zero.Nothing := ⟨rfl, rfl, by decide +kernel⟩

theorem isZero_iff : u.isZero = true ↔ u.Nothing ∨ u.Owing := by
  simp only [isZero, Bool.and_eq_true, beq_iff_eq, decide_eq_true_eq, Double.float_le_zero_iff]
  constructor
  · rintro ⟨⟨hin, hout⟩, hcost | hcost⟩
    · exact Or.inl ⟨hin, hout, hcost⟩
    · exact Or.inr ⟨hin, hout, hcost⟩
  · rintro (h | h)
    · exact ⟨⟨h.tokensIn, h.tokensOut⟩, Or.inl h.cost⟩
    · exact ⟨⟨h.tokensIn, h.tokensOut⟩, Or.inr h.cost⟩

theorem Owing.not_nothing (h : u.Owing) : ¬u.Nothing := by
  intro hnothing
  have hzero := Double.denotes_zero_of_beq hnothing.cost
  exact lt_irrefl _ ((hzero.lt_iff Double.denotes_zero).mp h.cost)

end Usage

theorem SortedMap.mapValues_mapValues {α β γ : Type} (f : α → β) (g : β → γ) (m : SortedMap α) :
    (m.mapValues f).mapValues g = m.mapValues (fun v => g (f v)) := by
  apply eq_of_get?_eq
  intro k
  simp only [get?_mapValues, Option.map_map, Function.comp_def]

def Bucket.unreserved (b : Bucket) : Bucket := { b with reserved := Usage.zero }

namespace LedgerState

def unreserved (s : LedgerState) : LedgerState :=
  { s with
    sharedBuckets := s.sharedBuckets.mapValues Bucket.unreserved
    tenantBuckets := s.tenantBuckets.mapValues (fun m => m.mapValues Bucket.unreserved) }

/-- What clearing is for: nothing is reserved any more, nothing else has changed, and it is told
whether anything was reserved. -/
structure Clears (s : LedgerState) (found : Bool) (s' : LedgerState) : Prop where
  complete : ∀ scope key b, s'.bucket? scope key = some b → b.reserved.Nothing
  frame : s'.unreserved = s.unreserved
  told : found = true ↔ ∃ scope key b, s.bucket? scope key = some b ∧ ¬b.reserved.Nothing

section Bucket

variable {b : Bucket}

theorem clearBucket_of_isZero (h : b.reserved.isZero = true) : clearBucket b = b := if_pos h

theorem isZero_reserved_clearBucket (b : Bucket) : (clearBucket b).reserved.isZero = true := by
  unfold clearBucket
  split_ifs with h
  · exact h
  · exact Usage.isZero_iff.mpr (Or.inl Usage.nothing_zero)

theorem clearBucket_eq_iff_of_owing (h : b.reserved.Owing) {b' : Bucket} :
    clearBucket b' = b ↔ b' = b := by
  have hzero : b.reserved.isZero = true := Usage.isZero_iff.mpr (Or.inr h)
  constructor
  · rintro rfl
    unfold clearBucket at h ⊢
    split_ifs at h ⊢
    · rfl
    -- A bucket that was cleared holds nothing, so it does not owe.
    · exact absurd Usage.nothing_zero h.not_nothing
  · rintro rfl
    exact clearBucket_of_isZero hzero

theorem unreserved_clearBucket (b : Bucket) : (clearBucket b).unreserved = b.unreserved := by
  unfold clearBucket
  split_ifs <;> rfl

end Bucket

variable (s : LedgerState)

theorem unreserved_clearReserved : s.clearReserved.unreserved = s.unreserved := by
  simp only [unreserved, clearReserved, SortedMap.mapValues_mapValues, unreserved_clearBucket]

theorem holdsReserved_iff : s.holdsReserved = true ↔
    ∃ scope key b, s.bucket? scope key = some b ∧ b.reserved.isZero = false := by
  simp only [holdsReserved, Bool.or_eq_true, List.any_eq_true, Bool.not_eq_true',
    SortedMap.mem_values]
  constructor
  · rintro (⟨b, ⟨key, hb⟩, hzero⟩ | ⟨m, ⟨t, hm⟩, b, ⟨key, hb⟩, hzero⟩)
    · exact ⟨.shared, key, b, hb, hzero⟩
    · exact ⟨.tenant t, key, b, Option.bind_eq_some_iff.mpr ⟨m, hm, hb⟩, hzero⟩
  · rintro ⟨scope, key, b, hb, hzero⟩
    cases scope with
    | shared => exact Or.inl ⟨b, ⟨key, hb⟩, hzero⟩
    | tenant t =>
      obtain ⟨m, hm, hb⟩ := Option.bind_eq_some_iff.mp hb
      exact Or.inr ⟨m, ⟨t, hm⟩, b, ⟨key, hb⟩, hzero⟩

variable {s} {scope : Scope} {key : String} {b : Bucket}

theorem isZero_of_clearReserved (h : s.clearReserved.bucket? scope key = some b) :
    b.reserved.isZero = true := by
  rw [bucket?_clearReserved] at h
  obtain ⟨before, -, rfl⟩ := Option.map_eq_some_iff.mp h
  exact isZero_reserved_clearBucket before

theorem bucket?_clearReserved_of_owing (h : b.reserved.Owing) :
    s.clearReserved.bucket? scope key = some b ↔ s.bucket? scope key = some b := by
  rw [bucket?_clearReserved, Option.map_eq_some_iff]
  simp only [clearBucket_eq_iff_of_owing h, exists_eq_right]

theorem holdsReserved_clearReserved (s : LedgerState) : s.clearReserved.holdsReserved = false := by
  rw [← Bool.not_eq_true, holdsReserved_iff]
  rintro ⟨scope, key, b, hb, hzero⟩
  simp [isZero_of_clearReserved hb] at hzero

theorem nothing_or_owing_of_clearReserved (h : s.clearReserved.bucket? scope key = some b) :
    b.reserved.Nothing ∨ b.reserved.Owing := Usage.isZero_iff.mp (isZero_of_clearReserved h)

theorem holdsReserved_iff_exists : s.holdsReserved = true ↔
    ∃ scope key b, s.bucket? scope key = some b ∧ ¬b.reserved.Nothing ∧ ¬b.reserved.Owing := by
  simp only [holdsReserved_iff, ← Bool.not_eq_true, Usage.isZero_iff, not_or]

theorem clears_of_none_owes
    (h : ∀ scope key b, s.bucket? scope key = some b → ¬b.reserved.Owing) :
    s.Clears s.holdsReserved s.clearReserved := by
  refine ⟨fun scope key b hb => ?_, unreserved_clearReserved s, ?_⟩
  · refine (nothing_or_owing_of_clearReserved hb).resolve_right fun howing => ?_
    exact h scope key b ((bucket?_clearReserved_of_owing howing).mp hb) howing
  · rw [holdsReserved_iff_exists]
    constructor
    · rintro ⟨scope, key, b, hb, hsome, -⟩
      exact ⟨scope, key, b, hb, hsome⟩
    · rintro ⟨scope, key, b, hb, hsome⟩
      exact ⟨scope, key, b, hb, hsome, h scope key b hb⟩

/-- Clearing does what it is for exactly in the states where no live bucket owes. In every state it
leaves nothing reserved but the debts, and those as they are. It changes nothing else, it tells
whether anything but debts was reserved, and done again it finds nothing and changes nothing. -/
theorem clears_iff_none_owes (s : LedgerState) :
    (s.Clears s.holdsReserved s.clearReserved ↔
      ∀ scope key b, s.bucket? scope key = some b → ¬b.reserved.Owing) ∧
    (∀ scope key b, s.clearReserved.bucket? scope key = some b →
      b.reserved.Nothing ∨ b.reserved.Owing) ∧
    (∀ scope key b, b.reserved.Owing →
      (s.clearReserved.bucket? scope key = some b ↔ s.bucket? scope key = some b)) ∧
    s.clearReserved.unreserved = s.unreserved ∧
    (s.holdsReserved = true ↔ ∃ scope key b, s.bucket? scope key = some b ∧
      ¬b.reserved.Nothing ∧ ¬b.reserved.Owing) ∧
    s.clearReserved.holdsReserved = false ∧
    s.clearReserved.clearReserved = s.clearReserved := by
  have hagain := holdsReserved_clearReserved s
  refine ⟨⟨fun h scope key b hb howing => ?_, clears_of_none_owes⟩,
    fun _ _ _ => nothing_or_owing_of_clearReserved, fun _ _ _ => bucket?_clearReserved_of_owing,
    unreserved_clearReserved s, holdsReserved_iff_exists, hagain,
    clearReserved_of_holdsReserved hagain⟩
  have hb' := (bucket?_clearReserved_of_owing howing).mpr hb
  exact howing.not_nothing (h.complete scope key b hb')

end LedgerState

theorem Usage.not_owing_of_nonneg {u : Usage} (h : 0.0 ≤ u.cost) : ¬u.Owing := by
  intro howing
  obtain ⟨v, hv, hnonneg⟩ := Double.exists_denotes_of_nonneg h
  exact hnonneg.not_gt ((hv.lt_iff Double.denotes_zero).mp howing.cost)

theorem carries_reserved (now : Instant) : Carries (fun _ => True) now
    (fun b => 0.0 ≤ b.reserved.cost) (fun b => 0.0 ≤ b.reserved.cost) (fun _ => True)
    (fun _ => True) where
  fresh _ := Double.float_le_refl (by decide)
  kept _ hb := hb
  held _ _ hb _ := Double.zero_le_add hb (zero_le_soundCost _)
  released b r hb _ := by
    unfold Bucket.withoutHold
    dsimp only
    split_ifs
    · exact zero_le_aboveZero _
    · exact hb
  used _ _ hb _ := hb
  reported _ _ hb := hb
  latched _ hb := hb
  unlogged := trivial
  stays _ _ := trivial
  logged _ _ _ _ := trivial

theorem Ledger.clears_after {l : Ledger}
    (h : l.state.Every (fun b => 0.0 ≤ b.reserved.cost) (fun _ => True)) (ops : Schedule) :
    (l.after ops).state.Clears (l.after ops).state.holdsReserved
      (l.after ops).state.clearReserved := by
  have hafter : (l.after ops).state.Every (fun b => 0.0 ≤ b.reserved.cost) (fun _ => True) :=
    every_after (fun x _ => carries_reserved x.1) (fun _ _ _ => trivial)
      (fun x _ => by cases x.2 <;> trivial) h
  refine LedgerState.clears_of_none_owes fun scope key b hb => ?_
  have hlive := LedgerState.mem_buckets_cell.mpr (Or.inr hb)
  exact Usage.not_owing_of_nonneg (hafter.bucket scope key b hlive)

namespace DurableLedger

theorem openFile_store {path : String} {t t' : FileTree} {s s' : LedgerState}
    (h : StateFile.Ready path t) (hstore : StateFile.store path s t = .ok t')
    (hs : LedgerState.ofDocument? s.documentText = some s') (policy : LedgerPolicy) :
    ∃ t'', openFile policy path (StateFile.unlock t' path) =
      (.ok ⟨Ledger.ofState policy s'.clearReserved, false⟩, t'') := by
  have hread := FileTree.readText_writeText (mapError_eq_ok.mp hstore)
  refine (openFile_unlock policy (h.store hstore)).1 s' ?_
  simp only [StateFile.load, hread, hs]

def owingState : LedgerState :=
  { LedgerState.empty with
    sharedBuckets := (∅ : Buckets).insert sampleLane.text
      ⟨"1970-01-02", "1970-01", ⟨0, 0, 8.0⟩, ⟨0, 0, -5.0⟩, false, noon 1⟩ }

/-- The debt is still there when the file has been opened, and makes room for a call that passes the
limit of ten. -/
theorem debt_stays_owingState :
    let policy := samplePolicy ⟨none, some 10.0, true⟩
    let allows (s : LedgerState) : Bool := ((Ledger.ofState policy s).canCall (noon 1)
      ⟨sampleLane, none, .reported 0 0 6.0⟩).answer.allowed
    (∃ t t', StateFile.store samplePath owingState sampleTree = .ok t ∧
      openFile policy samplePath (StateFile.unlock t samplePath) =
        (.ok ⟨Ledger.ofState policy owingState.clearReserved, false⟩, t')) ∧
    ¬owingState.Clears owingState.holdsReserved owingState.clearReserved ∧
    owingState.holdsReserved = false ∧ owingState.clearReserved = owingState ∧
    allows owingState.clearReserved = true ∧ allows owingState.unreserved = false := by
  intro policy allows
  have hread : LedgerState.ofDocument? owingState.documentText = some owingState := by
    rw [LedgerState.ofDocument?_documentText
      (LedgerState.legible (by decide +kernel) (by decide +kernel))]
    exact LedgerState.reread?_eq_self (by decide +kernel)
  have hplace : sampleTree.locate samplePath = .ok ["state", "ledger.json"] := by decide +kernel
  have hstore : StateFile.store samplePath owingState sampleTree =
      .ok (sampleTree.put ["state", "ledger.json"] (.text owingState.documentText)) := by
    rw [StateFile.store, FileTree.writeText, hplace]
    rfl
  obtain ⟨locked, s, hopens⟩ := opens_openFile (openFile_sample policy)
  obtain ⟨t', hopen⟩ := openFile_store hopens.ready hstore hread policy
  refine ⟨⟨_, t', hstore, hopen⟩, fun h => ?_, by decide +kernel, by decide +kernel,
    by decide +kernel, by decide +kernel⟩
  have hcost := (h.complete .shared sampleLane.text _ rfl).cost
  revert hcost
  decide +kernel

end DurableLedger

end LaneQuota
