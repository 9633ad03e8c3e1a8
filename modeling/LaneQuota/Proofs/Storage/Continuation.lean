import LaneQuota.Proofs.Json.WholeDoubles
import LaneQuota.Proofs.Ledger.Exhaustion
import LaneQuota.Proofs.Storage.Acceptance

/-!
# Limits that stay used up

A ledger goes on by acting, or it is dropped after a write that went well and its file is opened
again. A lifetime limit that is used up stays so as long as no cost is read as a lesser one, which
moderate costs never are. Greater ones may be, and then a limit that was used up has room again.
-/

namespace LaneQuota

open Ledger Double

/-! ## What is read of a cell -/

def ReadsNoLess (x : Float) : Prop := ∀ y ∈ rereadCost? x, x ≤ y

instance (x : Float) : Decidable (ReadsNoLess x) := inferInstanceAs (Decidable (∀ _ ∈ _, _))

structure Moderate (x : Float) : Prop where
  whole : IsWhole x
  le : Double.whole x ≤ JsonNumber.wholeBound

theorem Moderate.exists_reread {x : Float} (h : Moderate x) :
    ∃ y, Json.rereadFloat? x = some y ∧ Denotes y (Double.whole x : ℝ) :=
  Json.exists_rereadFloat?_whole h.whole.denotes h.le

theorem Moderate.readsAgain {x : Float} (h : Moderate x) : ReadsAgain x := by
  obtain ⟨y, hy, -⟩ := h.exists_reread
  exact fun _ => Option.isSome_iff_exists.mpr ⟨y, hy⟩

theorem Moderate.readsNoLess {x : Float} (h : Moderate x) : ReadsNoLess x := by
  obtain ⟨y, hy, hval⟩ := h.exists_reread
  intro z hz
  rw [rereadCost?, if_pos ((isFinite_iff x).mpr ⟨_, h.whole.denotes⟩), hy] at hz
  obtain rfl := Option.some.inj hz
  exact (h.whole.denotes.le_iff hval).mpr le_rfl

structure Bucket.ReadsNoLess (b : Bucket) : Prop where
  used : LaneQuota.ReadsNoLess b.used.cost
  reserved : LaneQuota.ReadsNoLess b.reserved.cost

instance : DecidablePred Bucket.ReadsNoLess := fun b =>
  decidable_of_iff (LaneQuota.ReadsNoLess b.used.cost ∧ LaneQuota.ReadsNoLess b.reserved.cost)
    ⟨fun h => ⟨h.1, h.2⟩, fun h => ⟨h.used, h.reserved⟩⟩

theorem Usage.cost_le_of_reread? {u u' : Usage} (h : LaneQuota.ReadsNoLess u.cost)
    (hread : u.reread? = some u') : u.cost ≤ u'.cost := by
  obtain ⟨y, hy, hu⟩ := Option.bind_eq_some_iff.mp hread
  obtain rfl := Option.some.inj hu
  exact h y hy

theorem Bucket.costs_le_of_reread? {b b' : Bucket} (h : b.ReadsNoLess)
    (hread : b.reread? = some b') :
    b.used.cost ≤ b'.used.cost ∧ b.reserved.cost ≤ b'.reserved.cost := by
  obtain ⟨used, hused, hread⟩ := Option.bind_eq_some_iff.mp hread
  obtain ⟨reserved, hreserved, hread⟩ := Option.bind_eq_some_iff.mp hread
  obtain rfl := Option.some.inj hread
  exact ⟨Usage.cost_le_of_reread? h.used hused, Usage.cost_le_of_reread? h.reserved hreserved⟩

theorem Bucket.Nonneg.reread {b b' : Bucket} (h : b.Nonneg) (hreads : b.ReadsNoLess)
    (hread : b.reread? = some b') : b'.Nonneg := by
  obtain ⟨hused, hreserved⟩ := Bucket.costs_le_of_reread? hreads hread
  exact ⟨float_le_trans h.used hused, float_le_trans h.reserved hreserved⟩

namespace Cell

variable {c c' : Cell} {floor : Float}

theorem nonneg_of_reread {bs bs' : List Bucket}
    (h : List.Forall₂ (fun b b' => b.reread? = some b') bs bs')
    (hbs : ∀ b ∈ bs, b.Nonneg ∧ b.ReadsNoLess) : ∀ b' ∈ bs', b'.Nonneg := by
  induction h with
  | nil => simp
  | cons hb _ ih =>
    obtain ⟨hhead, hrest⟩ := List.forall_mem_cons.mp hbs
    exact List.forall_mem_cons.mpr ⟨hhead.1.reread hhead.2 hb, ih hrest⟩

theorem foldl_cost_le_of_reread {bs bs' : List Bucket}
    (h : List.Forall₂ (fun b b' => b.reread? = some b') bs bs')
    (hbs : ∀ b ∈ bs, b.Nonneg ∧ b.ReadsNoLess) {x x' : Float} (hx : 0.0 ≤ x) (hle : x ≤ x') :
    bs.foldl (fun sum b => sum + b.used.cost) x ≤
      bs'.foldl (fun sum b => sum + b.used.cost) x' := by
  induction h generalizing x x' with
  | nil => exact hle
  | cons hb _ ih =>
    obtain ⟨⟨hnonneg, hreads⟩, hrest⟩ := List.forall_mem_cons.mp hbs
    exact ih hrest (zero_le_add hx hnonneg.used)
      (add_le_add_of_zero_le hx hnonneg.used hle (Bucket.costs_le_of_reread? hreads hb).1)

theorem SpentFrom.reread (h : c.SpentFrom floor) (hreads : ∀ b ∈ c.buckets, b.ReadsNoLess)
    (hc : c.Reread c') : c'.SpentFrom floor := by
  have hboth : ∀ b ∈ c.buckets, b.Nonneg ∧ b.ReadsNoLess :=
    fun b hb => ⟨h.nonneg b hb, hreads b hb⟩
  have hhistory : ∀ b ∈ c.history, b.Nonneg ∧ b.ReadsNoLess :=
    fun b hb => hboth b (List.mem_append_left _ hb)
  have hlive : ∀ b ∈ c.bucket, b.Nonneg ∧ b.ReadsNoLess :=
    fun b hb => hboth b (List.mem_append_right _ (Option.mem_toList.mpr hb))
  have harchived := LaneQuota.zero_le_archivedCost (fun b hb => (hhistory b hb).1)
  have hle : archivedCost c.history ≤ archivedCost c'.history :=
    foldl_cost_le_of_reread hc.history hhistory (by decide) (by decide)
  have hnonneg := nonneg_of_reread hc.history hhistory
  have hbucket := hc.bucket
  cases hb : c.bucket with
  | none =>
    rw [hb, Option.map_none, eq_comm, Option.map_eq_none_iff] at hbucket
    refine ⟨by simpa [Nonneg, buckets, hbucket] using hnonneg, float_le_trans h.floor_le ?_⟩
    rw [cost, cost, hb, hbucket]
    exact add_le_add_of_zero_le harchived (by decide) hle (by decide)
  | some b =>
    rw [hb, Option.map_some] at hbucket
    obtain ⟨b', hb', hread⟩ := Option.map_eq_some_iff.mp hbucket.symm
    obtain ⟨hnonneg', hreads'⟩ := hlive b hb
    refine ⟨fun a ha => ?_, float_le_trans h.floor_le ?_⟩
    · rcases List.mem_append.mp ha with ha | ha
      · exact hnonneg a ha
      · rw [hb', Option.toList_some, List.mem_singleton] at ha
        rw [ha]
        exact hnonneg'.reread hreads' hread.symm
    · rw [cost, cost, hb, hb']
      exact add_le_add_of_zero_le harchived hnonneg'.used hle
        (Bucket.costs_le_of_reread? hreads' hread.symm).1

theorem SpentFrom.clearBucket (h : c.SpentFrom floor) :
    (⟨c.bucket.map LedgerState.clearBucket, c.history⟩ : Cell).SpentFrom floor := by
  refine ⟨fun b hb => ?_, ?_⟩
  · rcases List.mem_append.mp hb with hb | hb
    · exact h.nonneg b (List.mem_append_left _ hb)
    · obtain ⟨live, hlive, rfl⟩ := Option.map_eq_some_iff.mp (Option.mem_toList.mp hb)
      have hnonneg := h.nonneg live (List.mem_append_right _ (Option.mem_toList.mpr hlive))
      refine ⟨by rw [LedgerState.used_clearBucket]; exact hnonneg.used, ?_⟩
      unfold LedgerState.clearBucket
      split_ifs
      · exact hnonneg.reserved
      · exact float_le_refl (by decide)
  · have hcost : (⟨c.bucket.map LedgerState.clearBucket, c.history⟩ : Cell).cost = c.cost := by
      unfold cost
      cases c.bucket with
      | none => rfl
      | some b => simp
    rw [hcost]
    exact h.floor_le

end Cell

namespace LedgerState

variable {s s' : LedgerState} {floor : Float}

theorem Lacks.mem_buckets (h : s.Lacks s') {scope : Scope} {key : String} {b : Bucket}
    (hb : b ∈ (s.cell scope key).buckets) : b ∈ (s'.cell scope key).buckets := by
  rcases h.cell scope key with heq | ⟨heq, -⟩
  · rwa [heq] at hb
  · rw [heq] at hb
    exact List.mem_append_left _ (by simpa [Cell.buckets] using hb)

theorem Lacks.spentFrom (h : s.Lacks s') {scope : Scope} {key : String}
    (hs : (s'.cell scope key).SpentFrom floor) : (s.cell scope key).SpentFrom floor := by
  rcases h.cell scope key with heq | ⟨heq, hunused⟩
  · rw [heq]
    exact hs
  · have hcost : (⟨none, (s'.cell scope key).history⟩ : Cell).cost = (s'.cell scope key).cost := by
      unfold Cell.cost
      cases hb : (s'.cell scope key).bucket with
      | none => rfl
      | some b =>
        rw [Option.getD_some, (hunused b hb).used]
        rfl
    refine ⟨fun b hb => hs.nonneg b (h.mem_buckets hb), ?_⟩
    rw [heq, hcost]
    exact hs.floor_le

structure ReadsNoLess (key : String) (s : LedgerState) : Prop where
  again : s.ReadsAgain
  noLess : ∀ b ∈ (s.cell .shared key).buckets, b.ReadsNoLess

def Moderate : LedgerState → Prop :=
  LedgerState.Every (fun b => LaneQuota.Moderate b.used.cost ∧ LaneQuota.Moderate b.reserved.cost)
    (fun u => LaneQuota.Moderate u.cost)

theorem Moderate.readsNoLess (h : s.Moderate) (key : String) : s.ReadsNoLess key := by
  refine ⟨⟨fun scope key b hb => ?_, fun scope key u hu => (h.logged scope key u hu).readsAgain⟩,
    fun b hb => ?_⟩
  · obtain ⟨hused, hreserved⟩ := h.bucket scope key b hb
    exact ⟨hused.readsAgain, hreserved.readsAgain⟩
  · obtain ⟨hused, hreserved⟩ := h.bucket .shared key b hb
    exact ⟨hused.readsNoLess, hreserved.readsNoLess⟩

theorem reread?_of_load {path : String} {t : FileTree} (hholds : StateFile.Holds path t s)
    (htimed : s.Timed) (hreads : s.ReadsAgain) (hload : StateFile.load t path = .ok s') :
    s' = s ∨ s.reread? = some s' := by
  rcases hholds with htext | hsame
  · right
    rw [← ofDocument?_documentText (legible htimed hreads)]
    rw [StateFile.load, htext] at hload
    dsimp only at hload
    split at hload
    · next hread => rw [hread, Except.ok.inj hload]
    · contradiction
  · left
    exact Except.ok.inj (hload.symm.trans hsame)

end LedgerState

namespace DurableLedger

/-! ## Opening a file that was just written -/

section Reopening

variable {path : String} {fault : ℕ → Option Fault} {d : DurableLedger} {disk : Disk}
  {actions : List Action} {now : Instant} {op : Operation}

theorem readText_act (hsaves : (d.ledger.step now op).saves = true)
    (hwell : (d.act (Medium.faulty path fault) disk (.operate now op)).2.2.outcomes.head? =
      some true) :
    (d.act (Medium.faulty path fault) disk (.operate now op)).2.2.tree.readText path =
      .ok (d.act (Medium.faulty path fault) disk
        (.operate now op)).2.1.ledger.state.documentText := by
  have hact : (d.act (Medium.faulty path fault) disk (.operate now op)).2 =
      (⟨(d.ledger.step now op).ledger, d.dirty⟩ : DurableLedger).save (Medium.faulty path fault)
        disk := if_pos hsaves
  rw [hact] at hwell ⊢
  rw [readText_save hwell, ledger_save]

theorem acts_append {μ : Type} (medium : Medium μ) (d : DurableLedger) (m : μ)
    {first : List Action} (hdone : d.ledger.completed (operations first) = operations first)
    (rest : List Action) : (d.acts medium m (first ++ rest)).2 =
      ((d.acts medium m first).2.1.acts medium (d.acts medium m first).2.2 rest).2 := by
  induction first generalizing d m with
  | nil => rfl
  | cons a first ih =>
    have hfails : (d.act medium m a).1.any Answer.isFailure = false ∧
        (d.act medium m a).2.1.ledger.completed (operations first) = operations first := by
      cases a with
      | flush =>
        refine ⟨rfl, ?_⟩
        change (d.flush medium m).2.1.ledger.completed (operations first) = operations first
        rw [flush_eq_save, ledger_save]
        exact hdone
      | operate now op =>
        change d.ledger.completed ((now, op) :: operations first) = (now, op) :: operations first
          at hdone
        unfold Ledger.completed at hdone
        dsimp only at hdone
        split_ifs at hdone with hanswer
        refine ⟨(Bool.or_false _).trans (Bool.eq_false_of_not_eq_true hanswer), ?_⟩
        change (d.settle medium m (d.ledger.step now op)).2.1.ledger.completed _ = _
        rw [ledger_settle]
        exact List.tail_eq_of_cons_eq hdone
    rw [List.cons_append, acts_cons medium d m hfails.1, acts_cons medium d m hfails.1]
    exact ih _ _ hfails.2

theorem readText_acts
    (hdone : d.ledger.completed (operations actions) = operations actions)
    (hsaves : ((d.ledger.after (operations actions)).step now op).saves = true)
    (hwell : (d.acts (Medium.faulty path fault) disk
      (actions ++ [.operate now op])).2.2.outcomes.head? = some true) :
    (d.acts (Medium.faulty path fault) disk (actions ++ [.operate now op])).2.2.tree.readText path =
      .ok (d.acts (Medium.faulty path fault) disk
        (actions ++ [.operate now op])).2.1.ledger.state.documentText := by
  rw [acts_append _ _ _ hdone] at hwell ⊢
  rw [← hdone, ← ledger_acts (Medium.faulty path fault) d disk] at hsaves
  generalize d.acts (Medium.faulty path fault) disk actions = r at *
  have hfails : (r.2.1.ledger.step now op).answer.isFailure = false := by
    by_contra h
    rw [(looksTo_of_isFailure _ now (Bool.eq_true_of_not_eq_false h)).1] at hsaves
    contradiction
  have hact := acts_cons (Medium.faulty path fault) r.2.1 r.2.2 (a := .operate now op)
    ((Bool.or_false _).trans hfails) []
  rw [hact] at hwell ⊢
  exact readText_act hsaves hwell

theorem openFile_faultyRun_concat {policy : LedgerPolicy} {t t' : FileTree} {s : LedgerState}
    (hopen : openFile policy path t = (.ok d, t')) (actions : List Action) (now : Instant)
    (op : Operation)
    (hclock : ∀ x ∈ operations (actions ++ [.operate now op]), x.1.IsValid)
    (hdone : d.ledger.completed (operations actions) = operations actions)
    (hsaves : ((d.ledger.after (operations actions)).step now op).saves = true)
    (hwell : (d.faultyRun path fault t' (actions ++ [.operate now op])).2.2.outcomes.head? =
      some true)
    (hreads :
      (d.faultyRun path fault t' (actions ++ [.operate now op])).2.1.ledger.state.ReadsAgain)
    (hs : (d.faultyRun path fault t' (actions ++ [.operate now op])).2.1.ledger.state.reread? =
      some s) :
    ∃ t'', openFile policy path (StateFile.unlock
        (d.faultyRun path fault t' (actions ++ [.operate now op])).2.2.tree path) =
      (.ok ⟨ofState policy s.clearReserved, false⟩, t'') := by
  unfold faultyRun at hwell hreads hs ⊢
  obtain ⟨locked, _, hopens⟩ := opens_openFile hopen
  have htimed := LedgerState.timed_after hopens.timed
    (fun x hx => hclock x ((d.ledger.completed_prefix _).subset hx))
  rw [← ledger_acts (Medium.faulty path fault) d ⟨t', []⟩] at htimed
  have hread := readText_acts hdone hsaves hwell
  have hdoc := LedgerState.ofDocument?_documentText (LedgerState.legible htimed hreads)
  rw [hs] at hdoc
  refine (openFile_unlock policy (ready_acts hopens.ready d _)).1 s ?_
  simp only [StateFile.load, hread, hdoc]

end Reopening

/-! ## Going on -/

/-- A ledger goes on: it acts at proper times, with any failing writes, or it is dropped after a
write that went well and opened again, in a state with a property. -/
inductive Turn (policy : LedgerPolicy) (path : String) (P : LedgerState → Prop)
    (x : DurableLedger × Disk) : DurableLedger × Disk → Prop
  | acted (fault : ℕ → Option Fault) (actions : List Action)
      (hclock : ∀ a ∈ operations actions, a.1.IsValid) :
      Turn policy path P x (x.1.acts (Medium.faulty path fault) x.2 actions).2
  | reopened {d : DurableLedger} {t : FileTree} (hclean : x.1.dirty = false)
      (hstate : P x.1.ledger.state)
      (hopen : openFile policy path (StateFile.unlock x.2.tree path) = (.ok d, t)) :
      Turn policy path P x (d, ⟨t, []⟩)

theorem Turn.acts {policy : LedgerPolicy} {path : String} {P : LedgerState → Prop}
    (d : DurableLedger) (disk : Disk) (fault : ℕ → Option Fault) (actions : List Action)
    (hclock : ∀ a ∈ operations actions, a.1.IsValid) :
    Turn policy path P (d, disk) (d.acts (Medium.faulty path fault) disk actions).2 :=
  .acted fault actions hclock

structure Lasting (policy : LedgerPolicy) (path : String) (key : String) (floor : Float)
    (x : DurableLedger × Disk) : Prop where
  policy : x.1.ledger.policy = policy
  ready : StateFile.Ready path x.2.tree
  marked : Marked path x.1 x.2
  timed : x.1.ledger.state.Timed
  spent : (x.1.ledger.state.cell .shared key).SpentFrom floor

variable {policy : LedgerPolicy} {path key : String} {floor : Float} {x x' : DurableLedger × Disk}

theorem Opens.lasting {t t' locked : FileTree} {d : DurableLedger} {s : LedgerState}
    (h : Opens policy path t d locked t' s)
    (hspent : (d.ledger.state.cell .shared key).SpentFrom floor) :
    Lasting policy path key floor (d, ⟨t', []⟩) :=
  ⟨by rw [h.ledger]; rfl, h.ready, h.marked, h.timed, hspent⟩

theorem Lasting.turn (h : Lasting policy path key floor x)
    (hturn : Turn policy path (LedgerState.ReadsNoLess key) x x') :
    Lasting policy path key floor x' := by
  cases hturn with
  | acted fault actions hclock =>
    have hledger := ledger_acts (Medium.faulty path fault) x.1 x.2 actions
    refine ⟨?_, ready_acts h.ready x.1 actions, h.marked.acts actions, ?_, ?_⟩ <;> rw [hledger]
    · rw [policy_after]
      exact h.policy
    · exact LedgerState.timed_after h.timed
        (fun a ha => hclock a ((x.1.ledger.completed_prefix _).subset ha))
    · exact spentFrom_after h.spent
  | @reopened d t hclean hstate hopen =>
    obtain ⟨stored, hholds, hlacks⟩ := h.marked.saved hclean
    obtain ⟨locked, s, hopens⟩ := opens_openFile hopen
    have hload : StateFile.load x.2.tree path = .ok s := by
      obtain ⟨locked', hlock, hnodes⟩ := h.ready.lock_unlock
      obtain rfl := Except.ok.inj (hlock.symm.trans hopens.lock)
      rw [← StateFile.load_congr hnodes]
      exact hopens.load
    have hspent : (s.cell .shared key).SpentFrom floor := by
      have hstored := hlacks.spentFrom h.spent
      rcases LedgerState.reread?_of_load hholds (hlacks.every_left h.timed)
        (hlacks.every_left hstate.again) hload with rfl | hread
      · exact hstored
      · exact hstored.reread (fun b hb => hstate.noLess b (hlacks.mem_buckets hb))
          (LedgerState.reread_cell hread .shared key)
    refine hopens.lasting ?_
    rw [hopens.ledger]
    change (s.clearReserved.cell .shared key).SpentFrom floor
    rw [LedgerState.cell_clearReserved]
    exact hspent.clearBucket

theorem Lasting.turns (h : Lasting policy path key floor x)
    (hturns : Relation.ReflTransGen (Turn policy path (LedgerState.ReadsNoLess key)) x x') :
    Lasting policy path key floor x' := by
  induction hturns with
  | refl => exact h
  | tail _ hturn ih => exact ih.turn hturn

/-- If the lifetime limit of a lane has no room for a call, then it has none for this call ever
again, whoever makes it. All that the ledger has to do for that is to read no cost as a lesser one,
and it never does so with moderate costs. -/
theorem exhausted_limit_denies {t t₀ : FileTree} {d₀ : DurableLedger} {lane : LaneKey}
    {limits : Limits} {cap : Float} {estimate : Usage}
    (hopen : openFile policy path t = (.ok d₀, t₀))
    (hnonneg : (d₀.ledger.state.cell .shared lane.text).Nonneg)
    (hreach : Relation.ReflTransGen (Turn policy path (LedgerState.ReadsNoLess lane.text))
      (d₀, ⟨t₀, []⟩) x)
    (hlater : Relation.ReflTransGen (Turn policy path (LedgerState.ReadsNoLess lane.text)) x x')
    (hlimits : policy.limits.enforced? lane = some limits) (hcap : limits.lifetimeCost = some cap)
    (hestimate : 0.0 ≤ estimate.cost)
    (hover : cap < x.1.ledger.state.historyCost .shared lane.text +
      committedCost x.1.ledger.state .shared lane.text + estimate.cost) :
    (∀ (now : Instant) (tenant : Option String), x'.1.ledger.exemption? tenant = none →
      (x'.1.ledger.canCall now ⟨lane, tenant, estimate⟩).answer.allowed = false) ∧
    ∀ s : LedgerState, s.Moderate → s.ReadsNoLess lane.text := by
  refine ⟨fun now tenant hexempt => ?_, fun s hs => hs.readsNoLess lane.text⟩
  obtain ⟨locked, s, hopens⟩ := opens_openFile hopen
  have hstart : Lasting policy path lane.text _ (d₀, ⟨t₀, []⟩) := hopens.lasting hnonneg.spentFrom
  have hreached := hstart.turns hreach
  have hnow := hreached.spent.nonneg
  have hlast := Lasting.turns ⟨hreached.policy, hreached.ready, hreached.marked, hreached.timed,
    hnow.spentFrom⟩ hlater
  rw [← cost_cell] at hover
  have hlimits' : x'.1.ledger.policy.limits.enforced? lane = some limits := by
    rw [hlast.policy]
    exact hlimits
  exact denied_of_spentFrom hexempt hlimits' hcap hestimate hover hnow.zero_le_cost hlast.spent

def leftBy (limits : Limits) (fault : ℕ → Option Fault) (actions : List Action) :
    DurableLedger × Disk := (sampleRun limits fault actions).2

def spentOverTen : List Action := [
  .operate (noon 1) (.reserve "a" ⟨sampleLane, some "ann", .reported 20 5 2.5⟩),
  .operate (noon 1) (.commit "b" sampleLane (some "ann") (.reported 30 0 6.5)),
  .operate (noon 2) (.commit "c" sampleLane none (.reported 0 0 3.75))]

def afterRestart : List Action := [
  .operate (noon 1) (.currentUsage sampleLane none),
  .operate (noon 4) (.rollback "a" .release),
  .operate (noon 4) (.toggleUnlimited true (some "ann")),
  .flush]

def alwaysFull (_ : ℕ) : Option Fault := some (.other "disk full")

theorem exhausted_limit_denies_afterRestart :
    ∃ d t, openFile (samplePolicy ⟨none, some 10.0, true⟩) samplePath (StateFile.unlock
        (leftBy ⟨none, some 10.0, true⟩ fullOnce spentOverTen).2.tree samplePath) = (.ok d, t) ∧
      ((d.acts (Medium.faulty samplePath alwaysFull) ⟨t, []⟩ afterRestart).2.1.ledger.canCall
        (noon 5) ⟨sampleLane, some "bob", .ofTokens 1 0⟩).answer.allowed = false := by
  have hnonneg : ∀ key, ((inMemory (samplePolicy ⟨none, some 10.0, true⟩)).ledger.state.cell
      .shared key).Nonneg := by
    intro key b hb
    contradiction
  have hopen := openFile_sample (samplePolicy ⟨none, some 10.0, true⟩)
  have hlimits : (samplePolicy ⟨none, some 10.0, true⟩).limits.enforced? sampleLane =
      some ⟨none, some 10.0, true⟩ := by decide +kernel
  have hestimate : 0.0 ≤ (Usage.ofTokens 1 0).cost := by decide
  -- The state that is read is known by what it answers only.
  have hread : ((leftBy ⟨none, some 10.0, true⟩ fullOnce spentOverTen).1.ledger.state.reread?.map
      (fun s => ((ofState (samplePolicy ⟨none, some 10.0, true⟩) s.clearReserved).after
        ((ofState (samplePolicy ⟨none, some 10.0, true⟩) s.clearReserved).completed
          (operations afterRestart))).exemption? (some "bob"))) = some none := by decide +kernel
  obtain ⟨s, hs, hexempt⟩ := Option.map_eq_some_iff.mp hread
  obtain ⟨t, hreopen⟩ := openFile_faultyRun_concat hopen spentOverTen.dropLast (noon 2)
    (.commit "c" sampleLane none (.reported 0 0 3.75)) (by decide +kernel) (by decide +kernel) rfl
    (by decide +kernel) (by decide +kernel) hs
  rw [← ledger_acts (Medium.faulty samplePath alwaysFull) ⟨_, false⟩ ⟨t, []⟩] at hexempt
  obtain ⟨hdenied, -⟩ := exhausted_limit_denies hopen (hnonneg _)
    (.single (.acts _ _ fullOnce spentOverTen (by decide +kernel)))
    (.tail (.single (.reopened (by decide +kernel) ⟨by decide +kernel, by decide +kernel⟩ hreopen))
      (.acts _ _ alwaysFull afterRestart (by decide +kernel)))
    hlimits rfl hestimate (by decide +kernel)
  exact ⟨_, t, hreopen, hdenied (noon 5) (some "bob") hexempt⟩

/-! ## A limit that has room again -/

def almostAll : Float := (9007199254740990 : UInt64).toFloat

def spentAlmostAll : List Action := [
  .operate (noon 1) (.commit "a" sampleLane none (.reported 0 0 almostAll)),
  .operate (noon 1) (.commit "b" sampleLane none (.reported 0 0 (1 : UInt64).toFloat))]

/-- The sum is written with a zero after the point and all its digits are read as one number, which
is too great to be a double. -/
theorem exhausted_limit_reopens_spentAlmostAll :
    (∀ x ∈ operations spentAlmostAll, x.2.WholeCost) ∧
    (leftBy ⟨none, some almostAll, true⟩ (fun _ => none) spentAlmostAll).2.outcomes = [true, true] ∧
    Denotes ((leftBy ⟨none, some almostAll, true⟩ (fun _ => none)
        spentAlmostAll).1.ledger.state.historyCost .shared sampleLane.text +
      committedCost (leftBy ⟨none, some almostAll, true⟩ (fun _ => none)
        spentAlmostAll).1.ledger.state .shared sampleLane.text) ((2 ^ 53 - 1 : ℕ) : ℝ) ∧
    (∀ tenant ∈ [none, some "ann"],
      ((leftBy ⟨none, some almostAll, true⟩ (fun _ => none) spentAlmostAll).1.ledger.canCall
        (noon 1) ⟨sampleLane, tenant, .zero⟩).answer.allowed = false) ∧
    ∃ d t, openFile (samplePolicy ⟨none, some almostAll, true⟩) samplePath (StateFile.unlock
        (leftBy ⟨none, some almostAll, true⟩ (fun _ => none) spentAlmostAll).2.tree samplePath) =
          (.ok d, t) ∧
      ∀ tenant ∈ [none, some "ann"], d.ledger.exemption? tenant = none ∧
        (d.ledger.canCall (noon 2) ⟨sampleLane, tenant, .zero⟩).answer.allowed = true := by
  have hopen := openFile_sample (samplePolicy ⟨none, some almostAll, true⟩)
  have hread : ((leftBy ⟨none, some almostAll, true⟩ (fun _ => none)
      spentAlmostAll).1.ledger.state.reread?.map (fun s => decide (∀ tenant ∈ [none, some "ann"],
        (ofState (samplePolicy ⟨none, some almostAll, true⟩) s.clearReserved).exemption? tenant =
          none ∧
        ((ofState (samplePolicy ⟨none, some almostAll, true⟩) s.clearReserved).canCall (noon 2)
          ⟨sampleLane, tenant, .zero⟩).answer.allowed = true))) = some true := by decide +kernel
  obtain ⟨s, hs, hallowed⟩ := Option.map_eq_some_iff.mp hread
  obtain ⟨t, hreopen⟩ := openFile_faultyRun_concat hopen spentAlmostAll.dropLast (noon 1)
    (.commit "b" sampleLane none (.reported 0 0 (1 : UInt64).toFloat)) (by decide +kernel)
    (by decide +kernel) rfl (by decide +kernel) (by decide +kernel) hs
  refine ⟨?_, by decide +kernel, ?_, by decide +kernel, _, t, hreopen, of_decide_eq_true hallowed⟩
  · have hall : Denotes almostAll ((9007199254740990 : ℕ) : ℝ) := denotes_toFloat_nat (by decide)
    have hone : Denotes (1 : UInt64).toFloat ((1 : ℕ) : ℝ) := denotes_toFloat_nat (by decide)
    intro x hx
    have hmem : x = (noon 1, .commit "a" sampleLane none (.reported 0 0 almostAll)) ∨
        x = (noon 1, .commit "b" sampleLane none (.reported 0 0 (1 : UInt64).toFloat)) := by
      simpa [spentAlmostAll, operations, Action.operation?] using hx
    rcases hmem with rfl | rfl
    · exact ⟨9007199254740990, by norm_num, hall.soundCost⟩
    · exact ⟨1, by norm_num, hone.soundCost⟩
  · have hsum : (leftBy ⟨none, some almostAll, true⟩ (fun _ => none)
          spentAlmostAll).1.ledger.state.historyCost .shared sampleLane.text +
        committedCost (leftBy ⟨none, some almostAll, true⟩ (fun _ => none)
          spentAlmostAll).1.ledger.state .shared sampleLane.text =
        (9007199254740991 : UInt64).toFloat := by decide +kernel
    have htop : Denotes (9007199254740991 : UInt64).toFloat ((2 ^ 53 - 1 : ℕ) : ℝ) :=
      denotes_toFloat_nat (by decide)
    rw [hsum]
    exact htop

end DurableLedger

end LaneQuota
