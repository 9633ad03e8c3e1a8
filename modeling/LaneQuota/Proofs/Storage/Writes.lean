import LaneQuota.Proofs.Ledger.Unsaved
import LaneQuota.Proofs.Ledger.Runs
import LaneQuota.Proofs.Storage.Trees
import LaneQuota.Storage.DurableLedger

/-!
# Writes that fail

Any write of a state file may fail. The ledger is marked while its last write has failed; while it
is not, the file holds everything that was ever entered. What it answers depends on no write.
-/

namespace LaneQuota

structure Disk where
  tree : FileTree
  outcomes : List Bool

/-- A state file on a disk that fails write number `n` if `fault n` names a cause. -/
def Medium.faulty (path : String) (fault : ℕ → Option Fault) : Medium Disk where
  write := fun s disk =>
    match fault disk.outcomes.length with
    | some cause => (.error cause, ⟨disk.tree, false :: disk.outcomes⟩)
    | .none =>
      match (Medium.file path).write s disk.tree with
      | (.ok _, t) => (.ok (), ⟨t, true :: disk.outcomes⟩)
      | (.error cause, t) => (.error cause, ⟨t, false :: disk.outcomes⟩)
  report := (Medium.file path).report

inductive Action where
  | operate (now : Instant) (op : Operation)
  | flush

def Action.operation? : Action → Option (Instant × Operation)
  | operate now op => some (now, op)
  | flush => none

namespace Ledger

def completed (l : Ledger) : Schedule → Schedule
  | [] => []
  | (now, op) :: rest =>
    let s := l.step now op
    if s.answer.isFailure then [] else (now, op) :: s.ledger.completed rest

theorem completed_prefix (l : Ledger) (ops : Schedule) : l.completed ops <+: ops := by
  induction ops generalizing l with
  | nil => exact List.prefix_rfl
  | cons x rest ih =>
    unfold completed
    dsimp only
    split_ifs
    · exact List.nil_prefix
    · exact (List.prefix_cons_inj x).mpr (ih _)

end Ledger

namespace DurableLedger

variable {μ : Type}

def act (medium : Medium μ) (d : DurableLedger) (m : μ) : Action → List Answer × DurableLedger × μ
  | .operate now op =>
    let r := d.perform medium m now op
    ([r.1], r.2)
  | .flush => ([], (d.flush medium m).2)

/-- The answers of the operations among some actions, and what the actions leave behind. A run ends
before an operation that fails. -/
def acts (medium : Medium μ) (d : DurableLedger) (m : μ) :
    List Action → List Answer × DurableLedger × μ
  | [] => ([], d, m)
  | a :: rest =>
    let r := d.act medium m a
    if r.1.any Answer.isFailure then ([], d, m)
    else
      let later := acts medium r.2.1 r.2.2 rest
      (r.1 ++ later.1, later.2)

def operations (actions : List Action) : Schedule := actions.filterMap Action.operation?

theorem acts_cons (medium : Medium μ) (d : DurableLedger) (m : μ) {a : Action}
    (h : (d.act medium m a).1.any Answer.isFailure = false) (rest : List Action) :
    (d.acts medium m (a :: rest)).2 =
      ((d.act medium m a).2.1.acts medium (d.act medium m a).2.2 rest).2 := by
  change (if (d.act medium m a).1.any Answer.isFailure = true then ([], d, m) else _).2 = _
  rw [h]
  rfl

section Answers

variable (medium : Medium μ) (d : DurableLedger) (m : μ)

theorem ledger_save : (d.save medium m).1.ledger = d.ledger := by
  unfold save
  split <;> rfl

theorem flush_eq_save : (d.flush medium m).2 = d.save medium m := by
  unfold flush save
  split <;> rfl

theorem ledger_settle {α : Type} (s : Step α) : (d.settle medium m s).2.1.ledger = s.ledger := by
  unfold settle
  dsimp only
  split_ifs
  · exact ledger_save medium _ m
  · rfl

/-- An operation that fails has only looked. Nothing was written or marked, so whoever goes on after
it has a ledger whose live buckets may be retired in memory only. -/
theorem act_of_isFailure {now : Instant} {op : Operation}
    (h : (d.ledger.step now op).answer.isFailure = true) :
    (d.act medium m (.operate now op)).2.2 = m ∧
      (d.act medium m (.operate now op)).2.1.dirty = d.dirty ∧
      d.ledger.LooksTo now (d.act medium m (.operate now op)).2.1.ledger := by
  obtain ⟨hsaves, hlooks⟩ := d.ledger.looksTo_of_isFailure now h
  have hact : (d.act medium m (.operate now op)).2 =
      (⟨(d.ledger.step now op).ledger, d.dirty⟩, m) :=
    if_neg (by simp [hsaves])
  rw [hact]
  exact ⟨rfl, rfl, hlooks⟩

theorem acts_eq_run (actions : List Action) :
    (d.acts medium m actions).1 =
        (d.ledger.run (d.ledger.completed (operations actions))).2 ∧
      (d.acts medium m actions).2.1.ledger =
        d.ledger.after (d.ledger.completed (operations actions)) := by
  induction actions generalizing d m with
  | nil => exact ⟨rfl, rfl⟩
  | cons a rest ih =>
    obtain ⟨hanswers, hledger⟩ := ih (d.act medium m a).2.1 (d.act medium m a).2.2
    cases a with
    | operate now op =>
      have hstep : (d.act medium m (.operate now op)).2.1.ledger = (d.ledger.step now op).ledger :=
        ledger_settle medium d m _
      have hfails : (d.act medium m (.operate now op)).1.any Answer.isFailure =
          (d.ledger.step now op).answer.isFailure := Bool.or_false _
      rw [hstep] at hanswers hledger
      change _ = (d.ledger.run (d.ledger.completed ((now, op) :: operations rest))).2 ∧
        _ = d.ledger.after (d.ledger.completed ((now, op) :: operations rest))
      unfold acts Ledger.completed
      simp only [hfails]
      split_ifs
      · exact ⟨rfl, rfl⟩
      · exact ⟨congrArg ((d.ledger.step now op).answer :: ·) hanswers, hledger⟩
    | flush =>
      have hstep : (d.act medium m .flush).2.1.ledger = d.ledger := by
        change (d.flush medium m).2.1.ledger = d.ledger
        rw [flush_eq_save, ledger_save]
      rw [hstep] at hanswers hledger
      exact ⟨hanswers, hledger⟩

theorem ledger_acts (actions : List Action) : (d.acts medium m actions).2.1.ledger =
    d.ledger.after (d.ledger.completed (operations actions)) := (acts_eq_run medium d m actions).2

end Answers

end DurableLedger

def StateFile.Holds (path : String) (t : FileTree) (s : LedgerState) : Prop :=
  t.readText path = .ok s.documentText ∨ StateFile.load t path = .ok s

theorem StateFile.holds_store {path : String} {t t' : FileTree} {s : LedgerState}
    (h : store path s t = .ok t') : Holds path t' s := by
  unfold store at h
  cases hw : t.writeText path s.documentText with
  | error cause => simp [hw, Except.mapError] at h
  | ok written =>
    rw [hw] at h
    obtain rfl : written = t' := Except.ok.inj h
    exact Or.inl (FileTree.readText_writeText hw)

theorem SortedMap.mapValues_eq_self {α : Type} {f : α → α} {m : SortedMap α}
    (h : ∀ v ∈ m.values, f v = v) : m.mapValues f = m := by
  apply eq_of_get?_eq
  intro k
  rw [get?_mapValues]
  cases hv : m.get? k with
  | none => rfl
  | some v =>
    have hmem : v ∈ m.values := List.mem_map_of_mem (mem_of_findEntry hv)
    exact congrArg some (h v hmem)

theorem LedgerState.clearReserved_of_holdsReserved {s : LedgerState}
    (h : s.holdsReserved = false) : s.clearReserved = s := by
  simp only [holdsReserved, Bool.or_eq_false_iff, List.any_eq_false, Bool.not_eq_true',
    Bool.not_eq_false] at h
  have hclear : ∀ b : Bucket, b.reserved.isZero = true → clearBucket b = b :=
    fun b hb => if_pos hb
  have hshared : s.sharedBuckets.mapValues clearBucket = s.sharedBuckets :=
    SortedMap.mapValues_eq_self (fun b hb => hclear b (h.1 b hb))
  have htenants : s.tenantBuckets.mapValues (fun m => m.mapValues clearBucket) =
      s.tenantBuckets := by
    refine SortedMap.mapValues_eq_self (fun m hm => SortedMap.mapValues_eq_self (fun b hb => ?_))
    have hany := h.2 m hm
    simp only [List.any_eq_true, not_exists, not_and, Bool.not_eq_true', Bool.not_eq_false] at hany
    exact hclear b (hany b hb)
  rw [clearReserved, hshared, htenants]

namespace DurableLedger

structure Opens (policy : LedgerPolicy) (path : String) (t : FileTree) (d : DurableLedger)
    (locked t' : FileTree) (s : LedgerState) : Prop where
  lock : StateFile.lock t path = .ok locked
  load : StateFile.load locked path = .ok s
  ledger : d = ⟨Ledger.ofState policy s.clearReserved, false⟩
  kept : s.holdsReserved = false → t' = locked
  cleared : s.holdsReserved = true → StateFile.store path s.clearReserved locked = .ok t'

theorem opens_openFile {policy : LedgerPolicy} {path : String} {t t' : FileTree}
    {d : DurableLedger} (h : openFile policy path t = (.ok d, t')) :
    ∃ locked s, Opens policy path t d locked t' s := by
  unfold openFile at h
  cases hlock : StateFile.lock t path with
  | error fault => simp [hlock] at h
  | ok locked =>
    simp only [hlock] at h
    unfold load at h
    cases hload : StateFile.load locked path with
    | error fault => simp [hload, bind, Except.bind] at h
    | ok s =>
      refine ⟨locked, s, ?_⟩
      simp only [hload, bind, Except.bind, pure, Except.pure] at h
      cases hres : s.holdsReserved with
      | false =>
        simp only [hres, Bool.false_eq_true, if_false, Prod.mk.injEq, Except.ok.injEq] at h
        exact ⟨hlock, hload, h.1.symm, fun _ => h.2.symm, by simp [hres]⟩
      | true =>
        rw [hres] at h
        cases hstore : StateFile.store path s.clearReserved locked with
        | error fault => simp [hstore] at h
        | ok written =>
          simp only [hstore, if_true, Prod.mk.injEq, Except.ok.injEq] at h
          exact ⟨hlock, hload, h.1.symm, by simp [hres], fun _ => h.2 ▸ hstore⟩

theorem Opens.holds {policy : LedgerPolicy} {path : String} {t t' locked : FileTree}
    {d : DurableLedger} {s : LedgerState} (h : Opens policy path t d locked t' s) :
    StateFile.Holds path t' d.ledger.state := by
  rw [h.ledger]
  change StateFile.Holds path t' s.clearReserved
  cases hres : s.holdsReserved with
  | false =>
    rw [LedgerState.clearReserved_of_holdsReserved hres, h.kept hres]
    exact Or.inr h.load
  | true => exact StateFile.holds_store (h.cleared hres)

structure Marked (path : String) (d : DurableLedger) (disk : Disk) : Prop where
  dirty : d.dirty = true ↔ disk.outcomes.head? = some false
  saved : d.dirty = false → ∃ s, StateFile.Holds path disk.tree s ∧ s.Lacks d.ledger.state

variable {path : String} {fault : ℕ → Option Fault} {d : DurableLedger} {disk : Disk}

theorem marked_save (path : String) (fault : ℕ → Option Fault) (d : DurableLedger) (disk : Disk) :
    Marked path (d.save (Medium.faulty path fault) disk).1
      (d.save (Medium.faulty path fault) disk).2 := by
  unfold save Medium.faulty Medium.file
  dsimp only
  cases fault disk.outcomes.length with
  | some cause => exact ⟨by simp, by simp⟩
  | none =>
    dsimp only
    cases hstore : StateFile.store path d.ledger.state disk.tree with
    | error cause => exact ⟨by simp, by simp⟩
    | ok t => exact ⟨by simp, fun _ => ⟨_, StateFile.holds_store hstore, .refl _⟩⟩

section Keeps

variable (keeps : DurableLedger → Disk → Prop)
  (hsave : ∀ (d d' : DurableLedger) (disk : Disk), keeps d disk →
    keeps (d'.save (Medium.faulty path fault) disk).1 (d'.save (Medium.faulty path fault) disk).2)
  (hstep : ∀ (d : DurableLedger) (disk : Disk) (now : Instant) (op : Operation), keeps d disk →
    (d.ledger.step now op).answer.isFailure = false → (d.ledger.step now op).saves = false →
    keeps ⟨(d.ledger.step now op).ledger, d.dirty⟩ disk)

include hsave hstep

theorem keeps_act (h : keeps d disk) (a : Action)
    (hdone : (d.act (Medium.faulty path fault) disk a).1.any Answer.isFailure = false) :
    keeps (d.act (Medium.faulty path fault) disk a).2.1
      (d.act (Medium.faulty path fault) disk a).2.2 := by
  cases a with
  | flush =>
    change keeps (d.flush (Medium.faulty path fault) disk).2.1 (d.flush _ disk).2.2
    rw [flush_eq_save]
    exact hsave d d disk h
  | operate now op =>
    change keeps (d.settle (Medium.faulty path fault) disk (d.ledger.step now op)).2.1
      (d.settle _ disk (d.ledger.step now op)).2.2
    unfold settle
    cases hsaves : (d.ledger.step now op).saves with
    | true => exact hsave d ⟨_, d.dirty⟩ disk h
    | false =>
      have hanswer : (d.ledger.step now op).answer.isFailure = false := by
        rw [← Bool.or_false (d.ledger.step now op).answer.isFailure]
        exact hdone
      exact hstep d disk now op h hanswer hsaves

theorem keeps_acts (h : keeps d disk) (actions : List Action) :
    keeps (d.acts (Medium.faulty path fault) disk actions).2.1
      (d.acts (Medium.faulty path fault) disk actions).2.2 := by
  induction actions generalizing d disk with
  | nil => exact h
  | cons a rest ih =>
    unfold acts
    dsimp only
    split_ifs with hfails
    · exact h
    · exact ih (keeps_act keeps hsave hstep h a (Bool.eq_false_of_not_eq_true hfails))

end Keeps

theorem Marked.acts (h : Marked path d disk) (actions : List Action) :
    Marked path (d.acts (Medium.faulty path fault) disk actions).2.1
      (d.acts (Medium.faulty path fault) disk actions).2.2 := by
  refine keeps_acts (Marked path) (fun _ d disk _ => marked_save path fault d disk) ?_ h actions
  intro d disk now op h hdone hsaves
  refine ⟨h.dirty, fun hclean => ?_⟩
  obtain ⟨s, hs, hlacks⟩ := h.saved hclean
  exact ⟨s, hs, hlacks.trans (d.ledger.lacks_step now op hdone hsaves)⟩

def faultyRun (d : DurableLedger) (path : String) (fault : ℕ → Option Fault) (t : FileTree)
    (actions : List Action) : List Answer × DurableLedger × Disk :=
  d.acts (Medium.faulty path fault) ⟨t, []⟩ actions

theorem ledger_faultyRun (d : DurableLedger) (path : String) (fault : ℕ → Option Fault)
    (t : FileTree) (actions : List Action) : (d.faultyRun path fault t actions).2.1.ledger =
      d.ledger.after (d.ledger.completed (operations actions)) := ledger_acts _ _ _ _

theorem Opens.marked {policy : LedgerPolicy} {t t' locked : FileTree} {s : LedgerState}
    (h : Opens policy path t d locked t' s) : Marked path d ⟨t', []⟩ := by
  refine ⟨?_, fun _ => ⟨_, h.holds, .refl _⟩⟩
  rw [h.ledger]
  simp

section Sample

def samplePath : String := "state/ledger.json"

def sampleTree : FileTree :=
  ⟨[(["state", "ledger.json.lock"], .text ""), (["state"], .directory)],
    [["state", "ledger.json.lock"]]⟩

theorem openFile_sample (policy : LedgerPolicy) :
    openFile policy samplePath .empty = (.ok (inMemory policy), sampleTree) := by
  have hlock : StateFile.lock .empty samplePath = .ok sampleTree := by decide +kernel
  have hread : sampleTree.readText samplePath = .error .notFound := by decide +kernel
  have hload : StateFile.load sampleTree samplePath = .ok .empty := by
    rw [StateFile.load, hread]
  rw [openFile, hlock]
  dsimp only
  rw [load, hload]
  rfl

end Sample

def sampleRun (limits : Limits) (fault : ℕ → Option Fault) (actions : List Action) :
    List Answer × DurableLedger × Disk :=
  (inMemory (samplePolicy limits)).faultyRun samplePath fault sampleTree actions

end DurableLedger

end LaneQuota
