import LaneQuota.Proofs.Ledger.Clearing
import LaneQuota.Proofs.Ledger.Overflow
import LaneQuota.Proofs.Ledger.Stored
import LaneQuota.Proofs.Storage.Reopening

namespace LaneQuota

open Ledger

namespace LedgerState

variable {P : Bucket → Prop} {Q : Usage → Prop} {s s' : LedgerState}

theorem Lacks.every_left (h : s.Lacks s') (hs : s'.Every P Q) : s.Every P Q := by
  refine ⟨fun scope key b hb => ?_, fun scope key u hu => ?_⟩
  · rcases mem_buckets_cell.mp hb with ⟨bs, hbs, hmem⟩ | hlive
    · rw [h.history] at hbs
      exact hs.bucket scope key b (mem_buckets_cell.mpr (Or.inl ⟨bs, hbs, hmem⟩))
    · rcases h.bucket scope key with heq | ⟨hnone, -⟩
      · rw [heq] at hlive
        exact hs.bucket scope key b (mem_buckets_cell.mpr (Or.inr hlive))
      · rw [hnone] at hlive
        contradiction
  · rw [LedgerState.hourly, h.hourly] at hu
    exact hs.logged scope key u hu

theorem Lacks.every_right (h : s.Lacks s') (hunused : ∀ b : Bucket, b.Unused → P b)
    (hs : s.Every P Q) : s'.Every P Q := by
  refine ⟨fun scope key b hb => ?_, fun scope key u hu => ?_⟩
  · rcases mem_buckets_cell.mp hb with ⟨bs, hbs, hmem⟩ | hlive
    · rw [← h.history] at hbs
      exact hs.bucket scope key b (mem_buckets_cell.mpr (Or.inl ⟨bs, hbs, hmem⟩))
    · rcases h.bucket scope key with heq | ⟨-, hunused'⟩
      · rw [← heq] at hlive
        exact hs.bucket scope key b (mem_buckets_cell.mpr (Or.inr hlive))
      · exact hunused b (hunused' b hlive)
  · rw [LedgerState.hourly, ← h.hourly] at hu
    exact hs.logged scope key u hu

def Timed : LedgerState → Prop := LedgerState.Every (fun b => b.lastUpdate.IsValid) (fun _ => True)

instance : DecidablePred Timed := fun s => inferInstanceAs (Decidable (s.Every _ _))

theorem carries_timed {now : Instant} (h : now.IsValid) :
    Carries (fun _ => True) now (fun b => b.lastUpdate.IsValid) (fun b => b.lastUpdate.IsValid)
      (fun _ => True) (fun _ => True) where
  fresh _ := h
  kept _ hb := hb
  held _ _ _ _ := h
  released _ _ _ _ := h
  used _ _ _ _ := h
  reported _ _ _ := h
  latched _ hb := hb
  unlogged := trivial
  stays _ _ := trivial
  logged _ _ _ _ := trivial

theorem timed_after {l : Ledger} {ops : Schedule} (hl : l.state.Timed)
    (hops : ∀ x ∈ ops, x.1.IsValid) : (l.after ops).state.Timed := by
  have hc : ∀ x ∈ ops, Carries (fun _ => True) x.1 (fun b => b.lastUpdate.IsValid)
      (fun b => b.lastUpdate.IsValid) (fun _ => True) (fun _ => True) :=
    fun x hx => carries_timed (hops x hx)
  refine every_after hc (fun _ _ _ => trivial) (fun x _ => ?_) hl
  cases x.2 <;> trivial

theorem timed_clearReserved (h : s.Timed) : s.clearReserved.Timed := by
  refine every_clearReserved (fun b hb => ?_) h
  rw [lastUpdate_clearBucket]
  exact hb

theorem timed_of_load {t : FileTree} {path : String} (h : StateFile.load t path = .ok s) :
    s.Timed := by
  unfold StateFile.load at h
  split at h
  · split at h
    · next hread =>
      obtain rfl := Except.ok.inj h
      exact timed_of_ofDocument? hread
    · contradiction
  · obtain rfl := Except.ok.inj h
    refine ⟨fun scope key b hb => ?_, fun _ _ _ _ => trivial⟩
    cases scope <;> contradiction
  · contradiction

end LedgerState

namespace DurableLedger

variable {path : String} {fault : ℕ → Option Fault} {d : DurableLedger} {disk : Disk}

theorem Opens.timed {policy : LedgerPolicy} {t t' locked : FileTree} {s : LedgerState}
    (h : Opens policy path t d locked t' s) : d.ledger.state.Timed := by
  rw [h.ledger]
  exact LedgerState.timed_clearReserved (LedgerState.timed_of_load h.load)

def Wrote (path : String) (d : DurableLedger) (disk : Disk) : Prop :=
  disk.outcomes.head? = some true →
    ∃ s : LedgerState, disk.tree.readText path = .ok s.documentText ∧ s.Lacks d.ledger.state

theorem readText_save
    (h : (d.save (Medium.faulty path fault) disk).2.outcomes.head? = some true) :
    (d.save (Medium.faulty path fault) disk).2.tree.readText path =
      .ok d.ledger.state.documentText := by
  unfold save Medium.faulty Medium.file at h ⊢
  dsimp only at h ⊢
  cases hfault : fault disk.outcomes.length with
  | some cause => simp [hfault] at h
  | none =>
    cases hstore : StateFile.store path d.ledger.state disk.tree with
    | error cause => simp [hfault, hstore] at h
    | ok t => exact FileTree.readText_writeText (mapError_eq_ok.mp hstore)

theorem wrote_save (path : String) (fault : ℕ → Option Fault) (d : DurableLedger) (disk : Disk) :
    Wrote path (d.save (Medium.faulty path fault) disk).1
      (d.save (Medium.faulty path fault) disk).2 := by
  intro hwell
  refine ⟨_, readText_save hwell, ?_⟩
  rw [ledger_save]
  exact .refl _

theorem wrote_acts (h : Wrote path d disk) (actions : List Action) :
    Wrote path (d.acts (Medium.faulty path fault) disk actions).2.1
      (d.acts (Medium.faulty path fault) disk actions).2.2 := by
  refine keeps_acts (Wrote path) (fun _ d disk _ => wrote_save path fault d disk) ?_ h actions
  intro d disk now op h hdone hsaves hwell
  obtain ⟨s, hs, hlacks⟩ := h hwell
  exact ⟨s, hs, hlacks.trans (d.ledger.lacks_step now op hdone hsaves)⟩

end DurableLedger

namespace LedgerState

def Finite : LedgerState → Prop :=
  LedgerState.Every Bucket.Finite (fun u => u.cost.isFinite = true)

def ReadsAgain : LedgerState → Prop :=
  LedgerState.Every
    (fun b => LaneQuota.ReadsAgain b.used.cost ∧ LaneQuota.ReadsAgain b.reserved.cost)
    (fun u => LaneQuota.ReadsAgain u.cost)

instance : DecidablePred LedgerState.Finite := fun s =>
  inferInstanceAs (Decidable (s.Every _ _))

instance : DecidablePred LedgerState.ReadsAgain := fun s =>
  inferInstanceAs (Decidable (s.Every _ _))

variable {s s' : LedgerState}

theorem Lacks.finite_iff (h : s.Lacks s') : s.Finite ↔ s'.Finite := by
  refine ⟨fun hs => h.every_right (fun b hb => ⟨?_, ?_⟩) hs, fun hs => h.every_left hs⟩
  · rw [hb.used]
    rfl
  · rw [hb.reserved]
    rfl

theorem legible (htimed : s.Timed) (hreads : s.ReadsAgain) :
    s.Every Bucket.Legible (fun u => LaneQuota.ReadsAgain u.cost) :=
  ⟨fun scope key b hb => ⟨htimed.bucket scope key b hb, (hreads.bucket scope key b hb).1,
    (hreads.bucket scope key b hb).2⟩, hreads.logged⟩

theorem isSome_ofDocument?_iff (htimed : s.Timed) (hreads : s.ReadsAgain) :
    (ofDocument? s.documentText).isSome = true ↔ s.Finite := by
  have hlegible := legible htimed hreads
  rw [ofDocument?_documentText hlegible, isSome_reread? hlegible]
  rfl

theorem Within.finite {m : ℤ} {n : ℕ} (h : s.Within m n) : s.Finite :=
  ⟨fun scope key b hb => ⟨(h.bucket scope key b hb).used.isFinite,
      (h.bucket scope key b hb).reserved.isFinite⟩,
    fun scope key u hu => (h.logged scope key u hu).isFinite⟩

end LedgerState

namespace DurableLedger

variable {path : String} {fault : ℕ → Option Fault} {d : DurableLedger} {disk : Disk}

theorem openFile_of_wrote (hready : StateFile.Ready path disk.tree) (hwrote : Wrote path d disk)
    (hwell : disk.outcomes.head? = some true) (htimed : d.ledger.state.Timed)
    (hreads : d.ledger.state.ReadsAgain) (policy : LedgerPolicy) :
    (d.ledger.state.Finite →
      ∃ d' t, openFile policy path (StateFile.unlock disk.tree path) = (.ok d', t)) ∧
    (¬d.ledger.state.Finite → (openFile policy path (StateFile.unlock disk.tree path)).1 =
      .error (.corruptState path)) := by
  obtain ⟨s, hread, hlacks⟩ := hwrote hwell
  obtain ⟨haccepted, hrefused⟩ := openFile_unlock policy hready
  -- All that the file may lack are unused buckets, whose costs are zero.
  have haccept := LedgerState.isSome_ofDocument?_iff (hlacks.every_left htimed)
    (hlacks.every_left hreads)
  rw [hlacks.finite_iff] at haccept
  cases hdoc : LedgerState.ofDocument? s.documentText with
  | none =>
    have hload : StateFile.load disk.tree path = .error (.corruptState path) := by
      simp only [StateFile.load, hread, hdoc]
    rw [hdoc] at haccept
    exact ⟨fun hfinite => absurd (haccept.mpr hfinite) (by simp), fun _ => hrefused _ hload⟩
  | some s' =>
    have hload : StateFile.load disk.tree path = .ok s' := by
      simp only [StateFile.load, hread, hdoc]
    obtain ⟨t, ht⟩ := haccepted s' hload
    rw [hdoc] at haccept
    exact ⟨fun _ => ⟨_, t, ht⟩, fun hfinite => absurd (haccept.mp rfl) hfinite⟩

/-- After a write that went well, the file is accepted if every cost in it is finite and refused if
one is not. As long as the greatest cost times the number of operations is a double, all are. -/
theorem written_file_opens_iff_finite {policy : LedgerPolicy} {t t' : FileTree}
    (hopen : openFile policy path t = (.ok d, t')) (fault : ℕ → Option Fault)
    (actions : List Action) (hclock : ∀ x ∈ operations actions, x.1.IsValid)
    (hwell : (d.faultyRun path fault t' actions).2.2.outcomes.head? = some true)
    (hreads : (d.faultyRun path fault t' actions).2.1.ledger.state.ReadsAgain)
    (policy' : LedgerPolicy) :
    let run := d.faultyRun path fault t' actions
    (run.2.1.ledger.state.Finite →
      ∃ d' t'', openFile policy' path (StateFile.unlock run.2.2.tree path) = (.ok d', t'')) ∧
    (¬run.2.1.ledger.state.Finite →
      (openFile policy' path (StateFile.unlock run.2.2.tree path)).1 =
        .error (.corruptState path)) ∧
    ∀ m n, Double.HasMultiples m (n + (operations actions).length) → d.ledger.state.Within m n →
      (∀ x ∈ operations actions, x.2.Enters (fun u => Double.Within m 1 u.cost)) →
      run.2.1.ledger.state.Finite := by
  intro run
  obtain ⟨locked, s, hopens⟩ := opens_openFile hopen
  have hafter : run.2.1.ledger = d.ledger.after (d.ledger.completed (operations actions)) :=
    ledger_acts _ d _ actions
  have hdone := d.ledger.completed_prefix (operations actions)
  have hready : StateFile.Ready path run.2.2.tree := ready_acts hopens.ready d actions
  have hwrote : Wrote path run.2.1 run.2.2 := wrote_acts (by simp [Wrote]) actions
  have htimed := LedgerState.timed_after hopens.timed (fun x hx => hclock x (hdone.subset hx))
  rw [← hafter] at htimed
  obtain ⟨haccepted, hrefused⟩ := openFile_of_wrote hready hwrote hwell htimed hreads policy'
  refine ⟨haccepted, hrefused, fun m n hm hstart hcosts => ?_⟩
  rw [hafter]
  refine (within_after (hm.mono (Nat.add_le_add_left hdone.length_le n)) hstart (fun id r hr => ?_)
    (fun x hx => hcosts x (hdone.subset hx))).finite
  rw [hopens.ledger] at hr
  contradiction

def spentHalf : List Action := [
  .operate (noon 1) (.reserve "a" ⟨sampleLane, some "ann", .reported 20 5 2.5⟩),
  .operate (noon 1) (.commit "a" sampleLane (some "ann") (.reported 30 0 1.75)),
  .operate (noon 2) (.reserve "b" ⟨sampleLane, none, .reported 1 0 0.3⟩)]

def fullOnce (n : ℕ) : Option Fault := if n = 1 then some (.other "disk full") else none

theorem within_spentHalf :
    ∀ x ∈ operations spentHalf, x.2.Enters (fun u => Double.Within 2 1 u.cost) := by
  have hfour : Double.Denotes (4 : UInt64).toFloat ((4 : ℕ) : ℝ) :=
    Double.denotes_toFloat_nat (n := 4) (by decide)
  have hcosts : ∀ x ∈ operations spentHalf,
      x.2.Enters (fun u => 0.0 ≤ u.cost ∧ u.cost ≤ (4 : UInt64).toFloat) := by decide +kernel
  intro x hx
  exact (hcosts x hx).mono (fun u hu => Double.within_of_le hfour (by norm_num) hu.1 hu.2)

theorem written_file_opens_spentHalf :
    let run := sampleRun ⟨some 100, none, true⟩ fullOnce spentHalf
    run.2.2.outcomes = [true, false, true] ∧
    ∃ d' t'', openFile (samplePolicy ⟨some 100, none, true⟩) samplePath
      (StateFile.unlock run.2.2.tree samplePath) = (.ok d', t'') := by
  intro run
  obtain ⟨haccepted, -, hfinite⟩ := written_file_opens_iff_finite
    (openFile_sample (samplePolicy ⟨some 100, none, true⟩)) fullOnce spentHalf (by decide +kernel)
    (by decide +kernel) (by decide +kernel) (samplePolicy ⟨some 100, none, true⟩)
  have hmultiples : Double.HasMultiples 2 (0 + 3) :=
    Double.hasMultiples_of_le (by norm_num) (by norm_num) (by norm_num)
  refine ⟨by decide +kernel, haccepted (hfinite 2 0 hmultiples ?_ within_spentHalf)⟩
  exact ⟨fun scope key b hb => by cases scope <;> contradiction,
    fun scope key u hu => by cases scope <;> contradiction⟩

def twoHuge : List Action := [
  .operate (noon 1) (.reserve "a" ⟨sampleLane, none, .reported 0 0 1e308⟩),
  .operate (noon 1) (.reserve "b" ⟨sampleLane, none, .reported 0 0 1e308⟩)]

theorem written_file_refused_twoHuge :
    let run := sampleRun ⟨none, none, true⟩ (fun _ => none) twoHuge
    (∀ x ∈ operations twoHuge, x.2.Enters (fun u => u.cost.isFinite = true ∧ 0.0 ≤ u.cost)) ∧
    openFile (samplePolicy ⟨none, none, true⟩) samplePath .empty =
      (.ok (inMemory (samplePolicy ⟨none, none, true⟩)), sampleTree) ∧
    run.2.2.outcomes = [true, true] ∧
    (openFile (samplePolicy ⟨none, none, true⟩) samplePath
      (StateFile.unlock run.2.2.tree samplePath)).1 = .error (.corruptState samplePath) := by
  intro run
  have hopen := openFile_sample (samplePolicy ⟨none, none, true⟩)
  obtain ⟨locked, s, hopens⟩ := opens_openFile hopen
  have hready : StateFile.Ready samplePath run.2.2.tree := ready_acts hopens.ready _ twoHuge
  have hwrote : Wrote samplePath run.2.1 run.2.2 := wrote_acts (by simp [Wrote]) twoHuge
  obtain ⟨-, hrefused⟩ := openFile_of_wrote hready hwrote (by decide +kernel) (by decide +kernel)
    (by decide +kernel) (samplePolicy ⟨none, none, true⟩)
  exact ⟨by decide +kernel, hopen, by decide +kernel, hrefused (by decide +kernel)⟩

end DurableLedger

end LaneQuota
