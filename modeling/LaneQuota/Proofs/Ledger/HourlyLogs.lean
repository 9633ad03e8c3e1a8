import LaneQuota.Proofs.Calendar.HourOrder
import LaneQuota.Proofs.Ledger.Gains
import LaneQuota.Proofs.Ledger.Runs

/-!
# What hourly logs hold

Every spend writes its hour and drops the hours that are too old by then. On a clock that does not
go back, what an earlier spend has dropped is too old for the last one as well, so its cutoff alone
decides what is left.
-/

namespace LaneQuota

open Ledger

namespace HourlyLog

variable (log : HourlyLog) (t : Instant) (zone : Zone)

theorem get?_record (usage : Usage) (h : ℤ) : (log.record t zone usage).get? (hourText h) =
    if zone.hourNumber t = h then some (((log.get? (hourText h)).getD Usage.zero).plus usage)
    else log.get? (hourText h) := by
  rw [record, SortedMap.get?_adjust, hourName_eq_hourText]
  by_cases hour : zone.hourNumber t = h
  · rw [if_pos (congrArg hourText hour), if_pos hour, hour]
    rfl
  · rw [if_neg (fun heq => hour (hourText_injective heq)), if_neg hour]

variable {log t zone} {hours : ℕ} {name : String}

theorem get?_prune {oldest : Instant} (h : t.minusHours? hours = some oldest) :
    (log.prune t zone hours).get? name =
      if name < hourName oldest zone then none else log.get? name := by
  simp only [prune, h, SortedMap.get?_filterKeys, Bool.not_eq_true', decide_eq_false_iff_not,
    ite_not]

theorem get?_prune_of_kept
    (h : ∀ oldest ∈ t.minusHours? hours, ¬name < hourName oldest zone) :
    (log.prune t zone hours).get? name = log.get? name := by
  cases hold : t.minusHours? hours with
  | none => simp only [prune, hold]
  | some oldest => rw [get?_prune hold, if_neg (h oldest hold)]

theorem contains_of_contains_prune (h : (log.prune t zone hours).contains name = true) :
    log.contains name = true := by
  cases hold : t.minusHours? hours with
  | none => simpa only [prune, hold] using h
  | some oldest =>
    unfold SortedMap.contains at h ⊢
    rw [get?_prune hold] at h
    split_ifs at h
    · contradiction
    · exact h

theorem contains_record {usage : Usage} (h : (log.record t zone usage).contains name = true) :
    hourName t zone = name ∨ log.contains name = true := by
  unfold SortedMap.contains record at h
  rw [SortedMap.get?_adjust] at h
  split_ifs at h with hour
  · exact Or.inl hour
  · exact Or.inr h

end HourlyLog

def Charge.spent? : Charge → Option Usage
  | spent usage => some usage
  | _ => none

def LedgerPolicy.written (p : LedgerPolicy) (log : HourlyLog) (e : Instant × Usage) : HourlyLog :=
  (log.record e.1 p.zone e.2).prune e.1 p.zone p.retentionHours

def usagesIn (zone : Zone) (h : ℤ) (spends : List (Instant × Usage)) : List Usage :=
  (spends.filter (fun e => zone.hourNumber e.1 = h)).map Prod.snd

def entryOf (usages : List Usage) : Option Usage :=
  usages.foldl (fun entry u => some ((entry.getD Usage.zero).plus u)) none

theorem entryOf_concat (usages : List Usage) (u : Usage) :
    entryOf (usages ++ [u]) = some (((entryOf usages).getD Usage.zero).plus u) :=
  List.foldl_append

theorem entryOf_eq_none_iff {usages : List Usage} : entryOf usages = none ↔ usages = [] := by
  cases usages using List.reverseRecOn with
  | nil => exact iff_of_true rfl rfl
  | append_singleton usages u => simp [entryOf_concat]

theorem counts_entryOf {usages : List Usage} (hfit : Fits (usages.map Usage.counts).sum) :
    ((entryOf usages).getD Usage.zero).counts = (usages.map Usage.counts).sum := by
  induction usages using List.reverseRecOn with
  | nil => rfl
  | append_singleton usages u ih =>
    rw [List.map_append, List.sum_append] at hfit ⊢
    have ih := ih (hfit.mono le_self_add)
    rw [List.map_singleton, List.sum_singleton, ← ih] at hfit ⊢
    rw [entryOf_concat]
    exact counts_plus hfit

theorem map_counts_entryOf {usages : List Usage} (hfit : Fits (usages.map Usage.counts).sum) :
    (entryOf usages).map Usage.counts =
      if usages = [] then none else some (usages.map Usage.counts).sum := by
  rw [← counts_entryOf hfit]
  cases hentry : entryOf usages with
  | none => rw [if_pos (entryOf_eq_none_iff.mp hentry)]; rfl
  | some u =>
    have hne : usages ≠ [] := fun hnil => by
      rw [entryOf_eq_none_iff.mpr hnil] at hentry
      contradiction
    rw [if_neg hne]
    rfl

section Spends

variable {p : LedgerPolicy} {spends : List (Instant × Usage)} {h : ℤ}

theorem usagesIn_concat (zone : Zone) (h : ℤ) (spends : List (Instant × Usage))
    (e : Instant × Usage) : usagesIn zone h (spends ++ [e]) =
      usagesIn zone h spends ++ if zone.hourNumber e.1 = h then [e.2] else [] := by
  by_cases he : zone.hourNumber e.1 = h <;> simp [usagesIn, he]

theorem exists_of_usagesIn_ne_nil {zone : Zone} (hne : usagesIn zone h spends ≠ []) :
    ∃ e ∈ spends, zone.hourNumber e.1 = h := by
  obtain ⟨u, hu⟩ := List.exists_mem_of_ne_nil _ hne
  obtain ⟨e, he, -⟩ := List.mem_map.mp hu
  obtain ⟨he, hour⟩ := List.mem_filter.mp he
  exact ⟨e, he, of_decide_eq_true hour⟩

theorem get?_written {log : HourlyLog} {e : Instant × Usage}
    (hkept : ∀ oldest ∈ e.1.minusHours? p.retentionHours, ¬hourText h < hourName oldest p.zone) :
    (p.written log e).get? (hourText h) =
      if p.zone.hourNumber e.1 = h then some (((log.get? (hourText h)).getD Usage.zero).plus e.2)
      else log.get? (hourText h) := by
  rw [LedgerPolicy.written, HourlyLog.get?_prune_of_kept hkept, HourlyLog.get?_record]

theorem get?_foldl_written (hkept : ∀ e ∈ spends, ∀ oldest ∈ e.1.minusHours? p.retentionHours,
      ¬hourText h < hourName oldest p.zone) :
    (spends.foldl p.written ∅).get? (hourText h) = entryOf (usagesIn p.zone h spends) := by
  induction spends using List.reverseRecOn with
  | nil => rfl
  | append_singleton spends e ih =>
    have ih := ih (fun e' he' => hkept e' (List.mem_append_left _ he'))
    rw [List.foldl_append, List.foldl_cons, List.foldl_nil, get?_written (hkept e (by simp)), ih,
      usagesIn_concat]
    split_ifs
    · exact (entryOf_concat _ _).symm
    · rw [List.append_nil]

theorem exists_of_contains {name : String}
    (hname : (spends.foldl p.written ∅).contains name = true) :
    ∃ e ∈ spends, hourName e.1 p.zone = name := by
  induction spends using List.reverseRecOn with
  | nil => contradiction
  | append_singleton spends e ih =>
    rw [List.foldl_append] at hname
    rcases HourlyLog.contains_record (HourlyLog.contains_of_contains_prune hname) with h | h
    · exact ⟨e, by simp, h⟩
    · obtain ⟨e', he', hour⟩ := ih h
      exact ⟨e', List.mem_append_left _ he', hour⟩

theorem get?_foldl_written_of_nil (hnil : usagesIn p.zone h spends = []) :
    (spends.foldl p.written ∅).get? (hourText h) = none := by
  rw [← Option.not_isSome_iff_eq_none]
  intro hentry
  obtain ⟨e, he, hour⟩ := exists_of_contains hentry
  rw [hourName_eq_hourText, hourText_injective.eq_iff] at hour
  have hmem : e.2 ∈ usagesIn p.zone h spends :=
    List.mem_map_of_mem (List.mem_filter.mpr ⟨he, decide_eq_true hour⟩)
  rw [hnil] at hmem
  contradiction

theorem get?_foldl_written_concat {now oldest : Instant} {usage : Usage} (hzone : p.zone.IsFixed)
    (hclock : ∀ e ∈ spends ++ [(now, usage)], e.1 ≤ now)
    (hnanos : ∀ e ∈ spends ++ [(now, usage)], e.1.nanos < 2 * nanosPerSecond)
    (hyears : ∀ e ∈ spends ++ [(now, usage)], HourInFourDigits (p.zone.hourNumber e.1))
    (holdest : now.minusHours? p.retentionHours = some oldest) :
    ((spends ++ [(now, usage)]).foldl p.written ∅).get? (hourText h) =
      if p.zone.hourNumber oldest ≤ h then entryOf (usagesIn p.zone h (spends ++ [(now, usage)]))
      else none := by
  by_cases hnil : usagesIn p.zone h (spends ++ [(now, usage)]) = []
  · rw [get?_foldl_written_of_nil hnil, hnil]
    exact (ite_self none).symm
  obtain ⟨e, he, hour⟩ := exists_of_usagesIn_ne_nil hnil
  have hh : HourInFourDigits h := hour ▸ hyears e he
  have hlast : (now, usage) ∈ spends ++ [(now, usage)] := by simp
  have hnow : p.zone.hourNumber oldest ≤ p.zone.hourNumber now :=
    Zone.hourNumber_mono hzone (Instant.seconds_minusHours?_le holdest (hnanos _ hlast))
  -- No cutoff lies beyond the last time, so all of them can be compared with hours of four digits.
  have hcut : ∀ a, p.zone.hourNumber a ≤ p.zone.hourNumber oldest →
      (hourText h < hourName a p.zone ↔ h < p.zone.hourNumber a) := by
    intro a ha
    rw [hourName_eq_hourText]
    have hyear := Date.year_mono (Int.ediv_le_ediv (by norm_num : (0 : ℤ) < 24) (ha.trans hnow))
    exact hourText_lt_iff hh (hyear.trans (hyears _ hlast).2)
  split_ifs with hkept
  · refine get?_foldl_written (fun e he a ha => ?_)
    have hle : p.zone.hourNumber a ≤ p.zone.hourNumber oldest := Zone.hourNumber_mono hzone
      (Instant.seconds_minusHours?_mono (hclock e he) ha holdest (hnanos e he) (hnanos _ hlast))
    rw [hcut a hle]
    exact not_lt.mpr (hle.trans hkept)
  · rw [List.foldl_append, List.foldl_cons, List.foldl_nil, LedgerPolicy.written,
      HourlyLog.get?_prune holdest, if_pos ((hcut oldest le_rfl).mpr (not_le.mp hkept))]

end Spends

namespace Ledger

def spends (l : Ledger) (scope : Scope) (key : String) (ops : Schedule) : List (Instant × Usage) :=
  (l.charges scope key ops).filterMap (fun x => x.2.spent?.map (fun usage => (x.1, usage)))

section Runs

variable (l : Ledger) (scope : Scope) (key : String)

theorem hourly_after (ops : Schedule) : (l.after ops).state.hourly scope key =
    (l.spends scope key ops).foldl l.policy.written (l.state.hourly scope key) := by
  induction ops generalizing l with
  | nil => rfl
  | cons x rest ih =>
    obtain ⟨now, op⟩ := x
    have hlog := (l.charged_step now scope key op).hourly
    rw [after_cons, ih, (l.effect_step now op).policy, LedgerState.hourly, hlog, spends, spends,
      charges]
    cases l.charge now scope key op <;> rfl

theorem charges_append (ops ops' : Schedule) : l.charges scope key (ops ++ ops') =
    l.charges scope key ops ++ (l.after ops).charges scope key ops' := by
  induction ops generalizing l with
  | nil => rfl
  | cons x rest ih => exact congrArg (_ :: ·) (ih (l.step x.1 x.2).ledger)

variable {l scope key} {ops : Schedule}

theorem spends_concat {now : Instant} {op : Operation} {usage : Usage}
    (h : (l.after ops).charge now scope key op = .spent usage) :
    l.spends scope key (ops ++ [(now, op)]) = l.spends scope key ops ++ [(now, usage)] := by
  rw [spends, charges_append, charges, h, List.filterMap_append]
  rfl

theorem forall_spends (q : Instant → Prop) (h : ∀ x ∈ ops, q x.1) :
    ∀ e ∈ l.spends scope key ops, q e.1 := by
  induction ops generalizing l with
  | nil => exact fun _ he => by contradiction
  | cons x rest ih =>
    intro e he
    obtain ⟨c, hc, hspent⟩ := List.mem_filterMap.mp he
    rcases List.mem_cons.mp hc with rfl | hc
    · obtain ⟨usage, -, rfl⟩ := Option.map_eq_some_iff.mp hspent
      exact h x List.mem_cons_self
    · exact ih (fun y hy => h y (List.mem_cons_of_mem x hy)) e
        (List.mem_filterMap.mpr ⟨c, hc, hspent⟩)

end Runs

def spentIn (p : LedgerPolicy) (scope : Scope) (key : String) (run : Schedule) (h : ℤ) :
    List Usage :=
  usagesIn p.zone h ((start p).spends scope key run)

structure RecentSpend (p : LedgerPolicy) (run : Schedule) (oldest : Instant) (scope : Scope)
    (key : String) : Prop where
  entries : ∀ h, ((((start p).after run).state.hourly scope key).get? (hourText h)).map
      Usage.counts =
    if spentIn p scope key run h ≠ [] ∧ p.zone.hourNumber oldest ≤ h then
      some ((spentIn p scope key run h).map Usage.counts).sum
    else none
  hours : ∀ name, (((start p).after run).state.hourly scope key).contains name = true →
    ∃ h, name = hourText h
  undrifted : ∀ now lane first reported,
    ((start p).after (run ++ [(now, .applyReport lane first reported)])).state.hourly scope key =
      ((start p).after run).state.hourly scope key

theorem hourly_is_recent_spend (p : LedgerPolicy) (ops : Schedule) (now : Instant) (op : Operation)
    (usage : Usage) (oldest : Instant) (scope : Scope) (key : String) (hzone : p.zone.IsFixed)
    (hclock : ((ops ++ [(now, op)]).map Prod.fst).Pairwise (· ≤ ·))
    (hnanos : ∀ x ∈ ops ++ [(now, op)], x.1.nanos < 2 * nanosPerSecond)
    (hyears : ∀ x ∈ ops ++ [(now, op)],
      (Date.ofDayNumber (p.zone.dayNumber x.1)).InFourDigits)
    (hspent : ((start p).after ops).charge now scope key op = .spent usage)
    (holdest : now.minusHours? p.retentionHours = some oldest)
    (hfits : ∀ x ∈ ops ++ [(now, op)], Fits
      ((spentIn p scope key (ops ++ [(now, op)]) (p.zone.hourNumber x.1)).map Usage.counts).sum) :
    RecentSpend p (ops ++ [(now, op)]) oldest scope key := by
  have hrun : (start p).spends scope key (ops ++ [(now, op)]) =
      (start p).spends scope key ops ++ [(now, usage)] := spends_concat hspent
  have hlog : ((start p).after (ops ++ [(now, op)])).state.hourly scope key =
      ((start p).spends scope key ops ++ [(now, usage)]).foldl p.written ∅ := by
    have hempty : (start p).state.hourly scope key = ∅ := by cases scope <;> rfl
    rw [hourly_after, hrun, hempty]
    rfl
  have hlast : ∀ x ∈ ops ++ [(now, op)], x.1 ≤ now := by
    rw [List.map_append, List.pairwise_append] at hclock
    intro x hx
    rcases List.mem_append.mp hx with hx | hx
    · exact hclock.2.2 _ (List.mem_map_of_mem hx) now (by simp)
    · rw [List.mem_singleton.mp hx]
      exact Or.inr ⟨rfl, le_rfl⟩
  refine ⟨fun h => ?_, fun name hname => ?_, fun t lane first reported => ?_⟩
  · have hentry : (((start p).after (ops ++ [(now, op)])).state.hourly scope key).get?
        (hourText h) =
        if p.zone.hourNumber oldest ≤ h then entryOf (spentIn p scope key (ops ++ [(now, op)]) h)
        else none := by
      rw [spentIn, hlog, hrun]
      refine get?_foldl_written_concat hzone ?_ ?_ ?_ holdest <;> rw [← hrun]
      · exact forall_spends (· ≤ now) hlast
      · exact forall_spends (·.nanos < 2 * nanosPerSecond) hnanos
      · exact forall_spends (fun t => HourInFourDigits (p.zone.hourNumber t))
          (fun x hx => hourInFourDigits_iff.mpr (hyears x hx))
    by_cases hnil : spentIn p scope key (ops ++ [(now, op)]) h = []
    · rw [hentry, hnil]
      simp [entryOf]
    · obtain ⟨e, he, rfl⟩ := exists_of_usagesIn_ne_nil hnil
      have hfit := forall_spends
        (fun t => Fits ((spentIn p scope key _ (p.zone.hourNumber t)).map Usage.counts).sum)
        hfits e he
      rw [hentry, apply_ite (Option.map Usage.counts), map_counts_entryOf hfit, if_neg hnil]
      exact if_congr (and_iff_right hnil).symm rfl rfl
  · rw [hlog] at hname
    obtain ⟨e, -, hour⟩ := exists_of_contains hname
    exact ⟨_, hour.symm.trans (hourName_eq_hourText _ _)⟩
  · rw [after_concat]
    exact congrArg (·.getD ∅) (hourly?_applyReport _ _ _ _ _ _ _)

def twoDaysKept : LedgerPolicy := { samplePolicy ⟨none, none, true⟩ with retentionHours := 48 }

def acrossHours : Schedule := [
  (noon 1, .commit "a" sampleLane (some "ann") (.ofTokens 10 5)),
  (noon 2, .commit "b" sampleLane none (.ofTokens 1 1)),
  (noon 3, .reserve "c" ⟨sampleLane, some "ann", .ofTokens 20 0⟩),
  (noon 3, .applyReport sampleLane (Date.ofDayNumber 1) 40),
  (noon 4, .commit "d" sampleLane (some "bob") (.ofTokens 2 2))]

theorem hourly_is_recent_spend_acrossHours :
    RecentSpend twoDaysKept (acrossHours ++ [(noon 4, .rollback "c" .keep)]) (noon 2) .shared
        sampleLane.text ∧
      (((start twoDaysKept).after (acrossHours ++ [(noon 4, .rollback "c" .keep)])).state.hourly
        .shared sampleLane.text).keys = ["1970-01-03T12", "1970-01-05T12"] := by
  refine ⟨?_, by decide +kernel⟩
  exact hourly_is_recent_spend _ acrossHours (noon 4) (.rollback "c" .keep) (.ofTokens 20 0)
    (noon 2) .shared _ ⟨rfl, rfl⟩ (by decide +kernel) (by decide +kernel) (by decide +kernel)
    (by decide +kernel) (by decide +kernel) (by decide +kernel)

end Ledger

end LaneQuota
