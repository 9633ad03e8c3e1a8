import LaneQuota.Proofs.Ledger.Unwinding
import LaneQuota.Proofs.Storage.Acceptance

namespace LaneQuota

open Ledger

theorem SteadyCost.readsAgain {x : Float} (h : SteadyCost x) : ReadsAgain x := by
  intro hfinite
  have hreread := h.reread
  rw [rereadCost?, if_pos hfinite] at hreread
  rw [hreread]
  rfl

namespace LedgerState

variable {s : LedgerState}

theorem Steady.ofDocument?_documentText (h : s.Steady) (htimed : s.Timed) :
    ofDocument? s.documentText = some s := by
  have hlegible : s.Every Bucket.Legible (fun u => LaneQuota.ReadsAgain u.cost) := by
    refine ⟨fun scope key b hb => ?_, fun scope key u hu => (h.logged scope key u hu).readsAgain⟩
    have hsteady := h.bucket scope key b hb
    refine ⟨htimed.bucket scope key b hb, hsteady.used.readsAgain, ?_⟩
    rw [hsteady.reserved]
    exact steadyCost_zero.readsAgain
  rw [LedgerState.ofDocument?_documentText hlegible]
  refine reread?_eq_self ⟨fun scope key b hb => ?_, fun scope key u hu => (h.logged scope key u hu).reread⟩
  have hsteady := h.bucket scope key b hb
  refine ⟨hsteady.used.reread, ?_⟩
  rw [hsteady.reserved]
  exact steadyCost_zero.reread

end LedgerState

namespace DurableLedger

variable {path : String} {d : DurableLedger} {disk : Disk} {n : ℤ}

theorem load_of_holds {t : FileTree} {s : LedgerState} (h : StateFile.Holds path t s)
    (hsteady : s.Steady) (htimed : s.Timed) : StateFile.load t path = .ok s := by
  rcases h with hread | hload
  · simp only [StateFile.load, hread, hsteady.ofDocument?_documentText htimed]
  · exact hload

theorem Opens.orderly {policy : LedgerPolicy} {t t' locked : FileTree} {s : LedgerState}
    (h : Opens policy path t d locked t' s) (hsteady : d.ledger.state.Steady)
    (hdated : ∀ scope key, (d.ledger.state.cell scope key).Dated n) : d.ledger.Orderly n := by
  rw [h.ledger] at hsteady hdated ⊢
  exact orderly_opened policy hsteady hdated

section Tokens

variable {policy : LedgerPolicy} {t t' : FileTree} {fault : ℕ → Option Fault} {actions : List Action}
  (hopen : openFile policy path t = (.ok d, t')) (hsteady : d.ledger.state.Steady)
  (hcosts : ∀ x ∈ operations actions, x.2.Enters Usage.Costless)

theorem policy_openFile (hopen : openFile policy path t = (.ok d, t')) : d.ledger.policy = policy := by
  obtain ⟨locked, s, hopens⟩ := opens_openFile hopen
  rw [hopens.ledger]
  rfl

include hopen hsteady hcosts

theorem steady_faultyRun : (d.faultyRun path fault t' actions).2.1.ledger.state.Steady := by
  obtain ⟨locked, s, hopens⟩ := opens_openFile hopen
  have hpromised : ∀ id r, d.ledger.reservations.get? id = some r → r.estimate.Costless := by
    intro id r hr
    rw [hopens.ledger] at hr
    contradiction
  rw [ledger_faultyRun]
  exact every_after (fun x _ => carries_steady x.1) hpromised
    (fun x hx => hcosts x ((d.ledger.completed_prefix _).subset hx)) hsteady

theorem openFile_faultyRun (hclock : ∀ x ∈ operations actions, x.1.IsValid)
    (hclean : (d.faultyRun path fault t' actions).2.1.dirty = false) :
    ∃ (s : LedgerState) (d' : DurableLedger) (t'' : FileTree),
      openFile policy path (StateFile.unlock (d.faultyRun path fault t' actions).2.2.tree path) =
        (.ok d', t'') ∧
      d'.ledger = ofState policy s.clearReserved ∧ s.Steady ∧
      s.Lacks (d.faultyRun path fault t' actions).2.1.ledger.state := by
  obtain ⟨locked, _, hopens⟩ := opens_openFile hopen
  have hready : StateFile.Ready path (d.faultyRun path fault t' actions).2.2.tree :=
    ready_acts hopens.ready d actions
  have hmarked : Marked path (d.faultyRun path fault t' actions).2.1
      (d.faultyRun path fault t' actions).2.2 := hopens.marked.acts actions
  have htimed := LedgerState.timed_after hopens.timed
    (fun x hx => hclock x ((d.ledger.completed_prefix (operations actions)).subset hx))
  rw [← d.ledger_faultyRun path fault t' actions] at htimed
  obtain ⟨s, hholds, hlacks⟩ := hmarked.saved hclean
  have hs : s.Steady := hlacks.every_left (steady_faultyRun hopen hsteady hcosts)
  have hload := load_of_holds hholds hs (hlacks.every_left htimed)
  obtain ⟨t'', ht''⟩ := (openFile_unlock policy hready).1 s hload
  exact ⟨s, _, t'', ht'', rfl, hs, hlacks⟩

variable (hdated : ∀ scope key, (d.ledger.state.cell scope key).Dated n)
  (hfrom : ∀ x ∈ operations actions, n ≤ policy.zone.dayNumber x.1)
  (hasc : (operations actions).Ascending policy.zone)
  (hsums : ∀ before, before <+: operations actions → (d.ledger.after before).SumsFit)

include hdated hfrom hasc hsums

theorem orderly_faultyRun {m : ℤ}
    (hto : ∀ x ∈ operations actions, policy.zone.dayNumber x.1 ≤ m) (hnm : n ≤ m) :
    (d.faultyRun path fault t' actions).2.1.ledger.Orderly m := by
  obtain ⟨locked, s, hopens⟩ := opens_openFile hopen
  have hdone := d.ledger.completed_prefix (operations actions)
  rw [ledger_faultyRun]
  rw [← policy_openFile hopen] at hfrom hto hasc
  exact (hopens.orderly hsteady hdated).after (fun x hx => hfrom x (hdone.subset hx))
    (fun x hx => hto x (hdone.subset hx)) hnm
    (List.Pairwise.sublist (hdone.sublist.map _) hasc)
    (fun x hx => hcosts x (hdone.subset hx)) (fun before hb => hsums before (hb.trans hdone))

end Tokens

theorem reopened_answers_as_released {policy : LedgerPolicy} {t t' : FileTree}
    (hopen : openFile policy path t = (.ok d, t')) (hsteady : d.ledger.state.Steady)
    (hdated : ∀ scope key, (d.ledger.state.cell scope key).Dated n) (fault : ℕ → Option Fault)
    (actions : List Action) (hclock : ∀ x ∈ operations actions, x.1.IsValid)
    (hfrom : ∀ x ∈ operations actions, n ≤ policy.zone.dayNumber x.1)
    (hasc : (operations actions).Ascending policy.zone)
    (hcosts : ∀ x ∈ operations actions, x.2.Enters Usage.Costless)
    (hsums : ∀ before, before <+: operations actions → (d.ledger.after before).SumsFit)
    (hclean : (d.faultyRun path fault t' actions).2.1.dirty = false) :
    let run := d.faultyRun path fault t' actions
    ∃ d' t'', openFile policy path (StateFile.unlock run.2.2.tree path) = (.ok d', t'') ∧
      ∀ (now : Instant) (ids : List String) (later : Schedule),
        n ≤ policy.zone.dayNumber now →
        (∀ x ∈ operations actions, policy.zone.dayNumber x.1 ≤ policy.zone.dayNumber now) →
        (∀ x ∈ later, policy.zone.dayNumber now ≤ policy.zone.dayNumber x.1) →
        later.Ascending policy.zone →
        (∀ id r, run.2.1.ledger.reservations.get? id = some r → id ∈ ids) →
        (run.2.1.ledger.after (releases now ids)).outlook later = d'.ledger.outlook later := by
  intro run
  obtain ⟨s, d', t'', hopen', hd', hs, hlacks⟩ :=
    openFile_faultyRun hopen hsteady hcosts hclock hclean
  have horderly : ∀ m, (∀ x ∈ operations actions, policy.zone.dayNumber x.1 ≤ m) → n ≤ m →
      run.2.1.ledger.Orderly m :=
    fun m hto hnm => orderly_faultyRun hopen hsteady hcosts hdated hfrom hasc hsums hto hnm
  have hpolicy : run.2.1.ledger.policy = policy := by
    change (d.faultyRun path fault t' actions).2.1.ledger.policy = policy
    rw [ledger_faultyRun, policy_after, policy_openFile hopen]
  refine ⟨d', t'', hopen', fun now ids later hnow hto hlater hasc' hall => ?_⟩
  have halike := alike_opened (horderly _ hto hnow) (by rw [hpolicy]) hlacks hs hall
  have hlast : ((run.2.1.ledger.after (releases now ids)).withOrphans 0).policy = policy :=
    (policy_after _ _).trans hpolicy
  rw [hpolicy] at halike
  -- The old ledger may have counted orphans, which the new one knows nothing of.
  rw [hd', ← outlook_withOrphans _ 0]
  apply halike.outlook
  · rw [hlast]
    exact hlater
  · rw [hlast]
    exact hasc'

def heldOverMidnight : List Action := [
  .operate (noon 1) (.reserve "a" ⟨sampleLane, some "ann", .ofTokens 20 5⟩),
  .operate (noon 1) (.commit "b" sampleLane (some "ann") (.ofTokens 30 0)),
  .operate (noon 1) (.reserve "c" ⟨sampleLane, some "bob", .ofTokens 6 0⟩),
  .operate (noon 2) (.reserve "d" ⟨sampleLane, some "bob", .ofTokens 70 1⟩)]

def askedAfterwards : Schedule := [
  (noon 2, .reservedUsage sampleLane none),
  (noon 2, .canCall ⟨sampleLane, some "ann", .ofTokens 60 0⟩),
  (noon 2, .commit "d" sampleLane (some "bob") (.ofTokens 90 20)),
  (noon 3, .orphanedCommits),
  (noon 3, .applyReport sampleLane (Date.ofDayNumber 1) 300)]

theorem reopened_answers_heldOverMidnight :
    ∃ d' t'', openFile (samplePolicy ⟨some 100, none, true⟩) samplePath (StateFile.unlock
        (sampleRun ⟨some 100, none, true⟩ fullOnce heldOverMidnight).2.2.tree samplePath) =
          (.ok d', t'') ∧
      d'.ledger.outlook askedAfterwards = [.usage .zero, .decision (.allow "within quota"),
        .cost 0.0, .outcome ⟨true, 160⟩] := by
  have hsums : ∀ before ∈ (operations heldOverMidnight).inits,
      (((inMemory (samplePolicy ⟨some 100, none, true⟩)).ledger.after before).reservations.values.map
        (fun r => r.estimate.tokensIn.toNat)).sum < 2 ^ 64 ∧
      (((inMemory (samplePolicy ⟨some 100, none, true⟩)).ledger.after before).reservations.values.map
        (fun r => r.estimate.tokensOut.toNat)).sum < 2 ^ 64 := by decide +kernel
  have hfits : ∀ before, before <+: operations heldOverMidnight →
      ((inMemory (samplePolicy ⟨some 100, none, true⟩)).ledger.after before).SumsFit := by
    intro before hb
    obtain ⟨hin, hout⟩ := hsums before ((List.mem_inits _ _).mpr hb)
    exact SumsFit.of_all hin hout
  have hdated : ∀ scope key,
      ((inMemory (samplePolicy ⟨some 100, none, true⟩)).ledger.state.cell scope key).Dated 0 := by
    intro scope key b hb
    cases scope <;> contradiction
  have hopen : ∀ e ∈ (sampleRun ⟨some 100, none, true⟩ fullOnce
      heldOverMidnight).2.1.ledger.reservations.entries, e.1 ∈ ["d", "a", "c"] := by decide +kernel
  obtain ⟨d', t'', hopened, hsame⟩ := reopened_answers_as_released
    (openFile_sample (samplePolicy ⟨some 100, none, true⟩)) (by decide +kernel) hdated fullOnce
    heldOverMidnight (by decide +kernel) (by decide +kernel) (by decide +kernel)
    (by decide +kernel) hfits (by decide +kernel)
  refine ⟨d', t'', hopened, ?_⟩
  rw [← hsame (noon 2) ["d", "a", "c"] askedAfterwards (by decide +kernel) (by decide +kernel)
    (by decide +kernel) (by decide +kernel)
    (fun id r hr => hopen (id, r) (SortedMap.mem_of_findEntry hr))]
  decide +kernel

end DurableLedger

end LaneQuota
