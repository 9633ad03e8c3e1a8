import LaneQuota.Proofs.Double.Arithmetic
import LaneQuota.Proofs.Ledger.Gains
import LaneQuota.Proofs.Ledger.Hours
import LaneQuota.Proofs.Ledger.Lifecycles

/-!
# What turns leave behind

Turns of lifecycles without cost hold, give back and spend tokens. Once all lifecycles have ended,
a bucket, a cell or an hourly log does not show in which order they took their turns.
-/

namespace LaneQuota

open Ledger Double

/-! ## Usage without cost -/

def Usage.Costless (u : Usage) : Prop := (u.cost == 0.0) = true

instance (u : Usage) : Decidable u.Costless := inferInstanceAs (Decidable (_ = _))

theorem soundCost_of_beq_zero {c : Float} (h : (c == 0.0) = true) : soundCost c = 0.0 := by
  have hzero := denotes_zero_of_beq h
  have hlt : ¬0.0 < c := by
    rw [denotes_zero.lt_iff hzero]
    exact lt_irrefl 0
  simp [soundCost, hlt]

theorem addTokens_right_comm (a b c : UInt64) :
    addTokens (addTokens a b) c = addTokens (addTokens a c) b := by
  apply UInt64.toNat_inj.mp
  simp only [toNat_addTokens]
  omega

namespace Usage

variable {u v w : Usage}

theorem cost_plus (hv : v.Costless) : (u.plus v).cost = u.cost + 0.0 := by
  rw [plus, soundCost_of_beq_zero hv]

theorem plus_right_comm (hv : v.Costless) (hw : w.Costless) :
    (u.plus v).plus w = (u.plus w).plus v := by
  simp only [plus, soundCost_of_beq_zero hv, soundCost_of_beq_zero hw, mk.injEq, and_true]
  exact ⟨addTokens_right_comm _ _ _, addTokens_right_comm _ _ _⟩

theorem totalTokens_le_plus (u v : Usage) : u.totalTokens ≤ (u.plus v).totalTokens := by
  rw [UInt64.le_iff_toNat_le]
  simp only [totalTokens, plus, toNat_addTokens]
  omega

end Usage

/-! ## Spending -/

def Limits.reached (limits : Limits) (historyCost : Float) (used : Usage) : Bool :=
  limits.dailyTokens.any (fun d => d ≤ used.totalTokens) ||
    limits.lifetimeCost.any (fun cap => cap <= historyCost + used.cost)

theorem Limits.reached_plus {limits : Limits} {cost : Float} {u v w : Usage} (hv : v.Costless)
    (hw : w.Costless) (h : limits.reached cost (u.plus v) = true) :
    limits.reached cost ((u.plus v).plus w) = true := by
  have hcost : ((u.plus v).plus w).cost = (u.plus v).cost := by
    rw [Usage.cost_plus hw, Usage.cost_plus hv, add_zero_add_zero]
  have hmono := (u.plus v).totalTokens_le_plus w
  simp only [reached, hcost, Bool.or_eq_true, Option.any_eq_true, decide_eq_true_eq] at h ⊢
  rcases h with ⟨d, hd, hle⟩ | h
  · exact Or.inl ⟨d, hd, UInt64.le_trans hle hmono⟩
  · exact Or.inr h

namespace Lifecycle

structure Costless (c : Lifecycle) : Prop where
  estimate : c.request.estimate.Costless
  spent : ∀ usage, c.spent? = some usage → usage.Costless

def tallied (p : LedgerPolicy) (cost : Float) (t : Usage × Bool) (c : Lifecycle) : Usage × Bool :=
  match c.spent? with
  | none => t
  | some usage => (t.1.plus usage, t.2 ||
      (p.limits.enforced? c.request.key).any (fun l => l.reached cost (t.1.plus usage)))

def logged (p : LedgerPolicy) (now : Instant) (log : Option HourlyLog) (c : Lifecycle) :
    Option HourlyLog :=
  match c.spent? with
  | none => log
  | some usage => p.logging now usage log

variable {p : LedgerPolicy} {c d : Lifecycle}

theorem latch_once : ∀ stopped first second both : Bool, (first = true → both = true) →
    (second = true → both = true) →
      ((stopped || first) || both) = ((stopped || second) || both) := by
  decide

theorem tallied_right_comm (hc : c.Costless) (hd : d.Costless)
    (hkey : c.request.key = d.request.key) (cost : Float) (t : Usage × Bool) :
    tallied p cost (tallied p cost t c) d = tallied p cost (tallied p cost t d) c := by
  unfold tallied
  cases hu : c.spent? with
  | none => rfl
  | some u =>
    cases hv : d.spent? with
    | none => rfl
    | some v =>
      have hcu := hc.spent u hu
      have hdv := hd.spent v hv
      have hsum : (t.1.plus u).plus v = (t.1.plus v).plus u := Usage.plus_right_comm hcu hdv
      rw [← hkey]
      cases hl : p.limits.enforced? c.request.key with
      | none => simp [hsum]
      | some l =>
        -- Who reaches a limit first has reached it with both as well.
        have hfirst : l.reached cost (t.1.plus u) = true →
            l.reached cost ((t.1.plus u).plus v) = true := Limits.reached_plus hcu hdv
        have hsecond : l.reached cost (t.1.plus v) = true →
            l.reached cost ((t.1.plus v).plus u) = true := Limits.reached_plus hdv hcu
        rw [hsum] at hfirst
        refine Prod.ext hsum ?_
        simp only [Option.any_some, hsum]
        exact latch_once _ _ _ _ hfirst hsecond

theorem logging_right_comm {u v : Usage} (hu : u.Costless) (hv : v.Costless) (now : Instant)
    (log : Option HourlyLog) :
    p.logging now v (p.logging now u log) = p.logging now u (p.logging now v log) := by
  have hsum : ∀ t : Usage, (t.plus u).plus v = (t.plus v).plus u := fun t =>
    Usage.plus_right_comm hu hv
  have hgetD : ∀ (m : HourlyLog) k, m.getD k Usage.zero = (m.get? k).getD Usage.zero :=
    fun _ _ => rfl
  simp only [LedgerPolicy.logging, Option.getD_some, Option.some.injEq]
  apply SortedMap.eq_of_get?_eq
  intro hour
  unfold HourlyLog.prune
  cases now.minusHours? p.retentionHours with
  | none =>
    simp only [HourlyLog.record, SortedMap.get?_adjust, hgetD]
    by_cases h : hourName now p.zone = hour <;> simp [h, hsum]
  | some oldest =>
    simp only [HourlyLog.record, SortedMap.get?_filterKeys, SortedMap.get?_adjust, hgetD]
    by_cases h : hourName now p.zone = hour
    · subst h
      by_cases hkeep : hourName now p.zone < hourName oldest p.zone <;> simp [hkeep, hsum]
    · simp [h]

theorem logged_right_comm (hc : c.Costless) (hd : d.Costless) (now : Instant)
    (log : Option HourlyLog) :
    logged p now (logged p now log c) d = logged p now (logged p now log d) c := by
  unfold logged
  cases hu : c.spent? with
  | none => rfl
  | some u =>
    cases hv : d.spent? with
    | none => rfl
    | some v => exact logging_right_comm (hc.spent u hu) (hd.spent v hv) now log

end Lifecycle

/-! ## Holds -/

def promised (cs : List Lifecycle) : ℕ × ℕ := (cs.map (fun c => c.request.estimate.counts)).sum

theorem promised_append (cs ds : List Lifecycle) :
    promised (cs ++ ds) = promised cs + promised ds := by
  simp [promised]

theorem promised_singleton (c : Lifecycle) : promised [c] = c.request.estimate.counts := by
  simp [promised]

theorem promised_perm {cs ds : List Lifecycle} (h : cs.Perm ds) : promised cs = promised ds :=
  (h.map _).sum_eq

theorem promised_le_of_subperm {cs ds : List Lifecycle} (h : cs.Subperm ds) :
    promised cs ≤ promised ds := by
  obtain ⟨es, hperm, hsub⟩ := h
  rw [← promised_perm hperm]
  exact (hsub.map _).sum_le_sum (fun _ _ => zero_le)

namespace Interleaves

variable {family : List Lifecycle} {l r : List Turn}

theorem ne_nil (h : Interleaves family l) (hne : family ≠ []) : l ≠ [] := by
  rintro rfl
  exact hne (List.nil_perm.mp h.ended_perm)

theorem promised_begun_le (h : Interleaves family (l ++ r)) :
    promised (l.filterMap Turn.begun?) ≤ promised family := by
  rw [← promised_perm h.begun_perm]
  exact promised_le_of_subperm ((List.sublist_append_left l r).filterMap _).subperm

theorem promised_ended_le (h : Interleaves family (l ++ r)) (hf : family.Nodup) :
    promised (l.filterMap Turn.ended?) ≤ promised (l.filterMap Turn.begun?) := by
  have hnodup : (l.filterMap Turn.ended?).Nodup :=
    ((List.sublist_append_left l r).filterMap _).nodup (h.ended_perm.nodup_iff.mpr hf)
  apply promised_le_of_subperm
  apply hnodup.subperm
  intro c hc
  obtain ⟨x, hx, hxc⟩ := List.mem_filterMap.mp hc
  cases x with
  | begins d => contradiction
  | ends d =>
    obtain rfl : d = c := Option.some.inj hxc
    obtain ⟨l₁, l₂, rfl⟩ := List.append_of_mem hx
    rw [List.append_assoc] at h
    have hbegins := (h.begins_before hf).1
    exact List.mem_filterMap.mpr ⟨_, List.mem_append_left _ hbegins, rfl⟩

end Interleaves

/-- Costs that adding nothing has made plain. -/
def Settled (z : Float) : Prop := ∃ x, z = x + 0.0

namespace Settled

variable {z c : Float}

theorem add_zero (h : Settled z) : z + 0.0 = z := by
  obtain ⟨x, rfl⟩ := h
  exact add_zero_add_zero x

theorem sub (h : Settled z) (hc : (c == 0.0) = true) : z - c = z := by
  obtain ⟨x, rfl⟩ := h
  exact add_zero_sub x hc

theorem zero : Settled 0.0 := ⟨0.0, by decide +kernel⟩

theorem aboveZero (h : Settled z) : Settled (aboveZero z) := by
  unfold LaneQuota.aboveZero
  split_ifs
  · exact h
  · exact zero

theorem aboveZero_aboveZero (z : Float) :
    LaneQuota.aboveZero (LaneQuota.aboveZero z) = LaneQuota.aboveZero z := by
  have hzero : LaneQuota.aboveZero 0.0 = 0.0 := by decide +kernel
  by_cases hz : 0.0 < z
  · have h : LaneQuota.aboveZero z = z := if_pos hz
    rw [h, h]
  · have h : LaneQuota.aboveZero z = 0.0 := if_neg hz
    rw [h, hzero]

end Settled

namespace Usage

def turned (u : Usage) : Turn → Usage
  | .begins c => u.plus c.request.estimate
  | .ends c => u.minus c.request.estimate

theorem counts_minus (u v : Usage) :
    (u.minus v).counts = (u.counts.1 - v.counts.1, u.counts.2 - v.counts.2) :=
  Prod.ext (toNat_subTokens _ _) (toNat_subTokens _ _)

variable {family : List Lifecycle} {l r : List Turn} {u : Usage}

theorem counts_turned (h : Interleaves family (l ++ r)) (hf : family.Nodup)
    (hfit : Fits (u.counts + promised family)) :
    (l.foldl turned u).counts + promised (l.filterMap Turn.ended?) =
      u.counts + promised (l.filterMap Turn.begun?) := by
  induction l using List.reverseRecOn generalizing r with
  | nil => rfl
  | append_singleton l x ih =>
    have hih := ih (r := x :: r) (by simpa using h)
    have hbegun := h.promised_begun_le
    have hended := h.promised_ended_le hf
    rw [List.foldl_append, List.foldl_cons, List.foldl_nil]
    cases x with
    | begins c =>
      simp only [List.filterMap_append, List.filterMap_cons, List.filterMap_nil, Turn.begun?,
        Turn.ended?, promised_append, promised_singleton, List.append_nil] at *
      have hroom : (l.foldl turned u).counts + c.request.estimate.counts ≤
          u.counts + promised family := by
        simp only [Prod.ext_iff, Prod.le_def, Prod.fst_add, Prod.snd_add] at *
        omega
      rw [turned, counts_plus (hfit.mono hroom), add_right_comm, hih, add_assoc]
    | ends c =>
      simp only [List.filterMap_append, List.filterMap_cons, List.filterMap_nil, Turn.begun?,
        Turn.ended?, promised_append, promised_singleton, List.append_nil] at *
      rw [turned, counts_minus]
      simp only [Prod.ext_iff, Prod.le_def, Prod.fst_add, Prod.snd_add] at *
      omega

theorem cost_turned (h : Interleaves family (l ++ r)) (hf : family.Nodup)
    (hcost : ∀ c ∈ family, c.request.estimate.Costless) (hl : l ≠ []) :
    (l.foldl turned u).cost =
      if l.filterMap Turn.ended? = [] then u.cost + 0.0 else aboveZero (u.cost + 0.0) := by
  have hsettled : Settled (u.cost + 0.0) := ⟨u.cost, rfl⟩
  induction l using List.reverseRecOn generalizing r with
  | nil => contradiction
  | append_singleton l x ih =>
    rw [List.append_assoc, List.singleton_append] at h
    have hih := ih h
    rw [List.foldl_append, List.foldl_cons, List.foldl_nil, List.filterMap_append]
    cases x with
    | begins c =>
      have hc := hcost c (h.mem_iff.1.mp (List.mem_append_right l List.mem_cons_self))
      simp only [List.filterMap_cons, List.filterMap_nil, Turn.ended?, List.append_nil]
      rw [turned, cost_plus hc]
      by_cases hnil : l = []
      · simp [hnil]
      · rw [hih hnil]
        split_ifs
        · exact hsettled.add_zero
        · exact hsettled.aboveZero.add_zero
    | ends c =>
      have hc := hcost c (h.mem_iff.2.mp (List.mem_append_right l List.mem_cons_self))
      have hnil : l ≠ [] := List.ne_nil_of_mem (h.begins_before hf).1
      rw [if_neg (by simp [Turn.ended?])]
      change aboveZero ((l.foldl turned u).cost - c.request.estimate.cost) = _
      rw [hih hnil]
      split_ifs
      · rw [hsettled.sub hc]
      · rw [hsettled.aboveZero.sub hc, Settled.aboveZero_aboveZero]

theorem foldl_turned {turns : List Turn} (h : Interleaves family turns) (hf : family.Nodup)
    (hne : family ≠ []) (hcost : ∀ c ∈ family, c.request.estimate.Costless)
    (hfit : Fits (u.counts + promised family)) :
    turns.foldl turned u = ⟨u.tokensIn, u.tokensOut, aboveZero (u.cost + 0.0)⟩ := by
  have hall : Interleaves family (turns ++ []) := by rwa [List.append_nil]
  have hended : turns.filterMap Turn.ended? ≠ [] := by
    intro hnil
    exact hne (List.nil_perm.mp (hnil ▸ h.ended_perm))
  have hcounts := counts_turned hall hf hfit
  rw [promised_perm h.ended_perm, promised_perm h.begun_perm] at hcounts
  have hcount := Prod.ext_iff.mp (add_right_cancel hcounts)
  have hcosts := cost_turned (u := u) hall hf hcost (h.ne_nil hne)
  rw [if_neg hended] at hcosts
  refine (mk.injEq _ _ _ _ _ _).mpr ⟨?_, ?_, hcosts⟩
  · exact UInt64.toNat_inj.mp hcount.1
  · exact UInt64.toNat_inj.mp hcount.2

end Usage

/-! ## Buckets -/

namespace Bucket

variable (p : LedgerPolicy) (cost : Float) (day : String) (now : Instant)

def closing (b : Bucket) (c : Lifecycle) : Bucket :=
  match c.spent? with
  | none => b.withoutHold (c.reservation day) now
  | some usage => latchedUnder (p.limits.enforced? c.request.key) cost
      ((b.withoutHold (c.reservation day) now).withUse usage now)

def turned (b : Bucket) : Turn → Bucket
  | .begins c => b.withHold c.request.estimate now
  | .ends c => b.closing p cost day now c

def tally (b : Bucket) : Usage × Bool := (b.used, b.hardStopped)

def times (b : Bucket) : String × String × Instant := (b.day, b.month, b.lastUpdate)

theorem ext_tally {b b' : Bucket} (htally : b.tally = b'.tally)
    (hreserved : b.reserved = b'.reserved) (htimes : b.times = b'.times) : b = b' := by
  simp only [tally, times, Prod.mk.injEq] at htally htimes
  cases b
  cases b'
  simp_all

theorem tally_latchedUnder (limits : Option Limits) (b : Bucket) :
    (latchedUnder limits cost b).tally =
      (b.used, b.hardStopped || limits.any (fun l => l.reached cost b.used)) := by
  cases limits with
  | none => simp [latchedUnder, tally]
  | some l =>
    have hlatched : latched l cost b =
        if l.reached cost b.used = true then { b with hardStopped := true } else b := rfl
    rw [latchedUnder, hlatched, Option.any_some]
    split_ifs with h <;> simp [tally, h]

theorem times_latchedUnder (limits : Option Limits) (b : Bucket) :
    (latchedUnder limits cost b).times = b.times := by
  rcases latchedUnder_eq limits cost b with h | h
  · rw [h]
  · rw [h]
    rfl

theorem times_turned (b : Bucket) (x : Turn) :
    (b.turned p cost day now x).times = (b.day, b.month, now) := by
  cases x with
  | begins c => rfl
  | ends c =>
    rw [turned, closing]
    cases c.spent? with
    | none => rfl
    | some usage => exact times_latchedUnder cost _ _

theorem tally_closing (b : Bucket) (c : Lifecycle) :
    (b.closing p cost day now c).tally = c.tallied p cost b.tally := by
  rw [closing, Lifecycle.tallied]
  cases c.spent? with
  | none => rfl
  | some usage => exact tally_latchedUnder cost _ _

theorem reserved_turned (b : Bucket) (hday : b.day = day) (x : Turn) :
    (b.turned p cost day now x).reserved = b.reserved.turned x := by
  cases x with
  | begins c => rfl
  | ends c =>
    have hheld : (b.withoutHold (c.reservation day) now).reserved =
        b.reserved.minus c.request.estimate := if_pos hday
    rw [turned, closing]
    cases c.spent? with
    | none => exact hheld
    | some usage => exact (reserved_latchedUnder _ _ _).trans hheld

theorem day_turned (b : Bucket) (x : Turn) : (b.turned p cost day now x).day = b.day :=
  congrArg Prod.fst (times_turned p cost day now b x)

theorem tally_foldl_turned (turns : List Turn) (b : Bucket) :
    (turns.foldl (turned p cost day now) b).tally =
      (turns.filterMap Turn.ended?).foldl (Lifecycle.tallied p cost) b.tally := by
  induction turns generalizing b with
  | nil => rfl
  | cons x turns ih =>
    rw [List.foldl_cons, ih]
    cases x with
    | begins c => rfl
    | ends c =>
      exact congrArg (fun t => (turns.filterMap Turn.ended?).foldl (Lifecycle.tallied p cost) t)
        (tally_closing p cost day now b c)

theorem reserved_foldl_turned (turns : List Turn) (b : Bucket) (hday : b.day = day) :
    (turns.foldl (turned p cost day now) b).reserved = turns.foldl Usage.turned b.reserved := by
  induction turns generalizing b with
  | nil => rfl
  | cons x turns ih =>
    rw [List.foldl_cons, ih _ ((day_turned p cost day now b x).trans hday), List.foldl_cons,
      reserved_turned p cost day now b hday]

theorem times_foldl_turned {turns : List Turn} (hne : turns ≠ []) (b : Bucket) :
    (turns.foldl (turned p cost day now) b).times = (b.day, b.month, now) := by
  induction turns generalizing b with
  | nil => contradiction
  | cons x turns ih =>
    have hx := times_turned p cost day now b x
    rw [List.foldl_cons]
    by_cases h : turns = []
    · rw [h]
      exact hx
    · have hmonth : (b.turned p cost day now x).month = b.month := congrArg (fun t => t.2.1) hx
      rw [ih h, day_turned, hmonth]

variable {p cost day now}

theorem foldl_turned_eq {family : List Lifecycle} {turns turns' : List Turn} {b : Bucket}
    (h : Interleaves family turns) (h' : Interleaves family turns') (hf : family.Nodup)
    (hkeys : ∀ c ∈ family, ∀ d ∈ family, c.request.key = d.request.key)
    (hcost : ∀ c ∈ family, c.Costless) (hfit : Fits (b.reserved.counts + promised family))
    (hday : b.day = day) :
    turns.foldl (turned p cost day now) b = turns'.foldl (turned p cost day now) b := by
  by_cases hne : family = []
  · subst hne
    rw [List.perm_nil.mp h.perm, List.perm_nil.mp h'.perm]
  have hestimates := fun c hc => (hcost c hc).estimate
  apply ext_tally
  · rw [tally_foldl_turned, tally_foldl_turned]
    apply (h.ended_perm.trans h'.ended_perm.symm).foldl_eq'
    intro c hc d hd t
    have hc := h.ended_perm.mem_iff.mp hc
    have hd := h.ended_perm.mem_iff.mp hd
    exact Lifecycle.tallied_right_comm (hcost c hc) (hcost d hd) (hkeys c hc d hd) cost t
  · rw [reserved_foldl_turned p cost day now turns b hday,
      reserved_foldl_turned p cost day now turns' b hday,
      Usage.foldl_turned h hf hne hestimates hfit, Usage.foldl_turned h' hf hne hestimates hfit]
  · rw [times_foldl_turned p cost day now (h.ne_nil hne),
      times_foldl_turned p cost day now (h'.ne_nil hne)]

end Bucket

/-! ## Cells -/

namespace Cell

variable (p : LedgerPolicy) (w : Window) (now : Instant)

def turned (c : Cell) (x : Turn) : Cell :=
  c.adjust w now (fun b => b.turned p (archivedCost (c.archive w)) w.day now x)

theorem turned_ends (c : Cell) (x : Lifecycle) : c.turned p w now (.ends x) =
    match x.spent? with
    | none => c.releasing w now (x.reservation w.day)
    | some usage => (c.releasing w now (x.reservation w.day)).spending w now
        (p.limits.enforced? x.request.key) usage := by
  simp only [turned, Bucket.turned, Bucket.closing]
  cases x.spent? with
  | none => rfl
  | some usage => exact (c.spending_releasing w now _ _ _).symm

variable {p w now}

theorem foldl_turned {turns : List Turn} (hne : turns ≠ []) (c : Cell) :
    turns.foldl (turned p w now) c = c.adjust w now (fun b =>
      turns.foldl (Bucket.turned p (archivedCost (c.archive w)) w.day now) b) := by
  induction turns generalizing c with
  | nil => contradiction
  | cons x turns ih =>
    have hday : ∀ b : Bucket, (b.turned p (archivedCost (c.archive w)) w.day now x).day = b.day :=
      fun b => Bucket.day_turned _ _ _ _ b x
    rw [List.foldl_cons]
    by_cases h : turns = []
    · rw [h]
      rfl
    · rw [ih h, turned, c.archive_adjust hday, c.adjust_adjust hday]
      rfl

theorem foldl_turned_eq {family : List Lifecycle} {turns turns' : List Turn} {c : Cell}
    (h : Interleaves family turns) (h' : Interleaves family turns') (hf : family.Nodup)
    (hkeys : ∀ c ∈ family, ∀ d ∈ family, c.request.key = d.request.key)
    (hcost : ∀ c ∈ family, c.Costless)
    (hfit : Fits ((c.seen w now).reserved.counts + promised family)) :
    turns.foldl (turned p w now) c = turns'.foldl (turned p w now) c := by
  by_cases hne : family = []
  · subst hne
    rw [List.perm_nil.mp h.perm, List.perm_nil.mp h'.perm]
  · rw [foldl_turned (h.ne_nil hne), foldl_turned (h'.ne_nil hne), adjust, adjust,
      Bucket.foldl_turned_eq h h' hf hkeys hcost hfit (c.day_seen w now)]

end Cell

end LaneQuota
