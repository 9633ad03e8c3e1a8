import LaneQuota.Proofs.Ledger.Exhaustion
import LaneQuota.Proofs.Ledger.Revisits

/-!
# Histories

A history is written at its end only, with live buckets as they are when a later day is looked up.
While the days do not come back it is a calendar: its days are in order, they come before the day of
the live bucket, and those that have been left are there exactly if anything was charged on them.
-/

namespace LaneQuota

open Double Ledger

namespace Charge

def Nonzero : Charge → Prop
  | nothing => False
  | spent usage => usage.tokensIn ≠ 0 ∨ usage.tokensOut ≠ 0 ∨ 0.0 < soundCost usage.cost
  | drift tokens => tokens ≠ 0

instance : DecidablePred Nonzero := fun x => by
  cases x <;> unfold Nonzero <;> infer_instance

theorem addTokens_eq_zero_iff {a b : UInt64} : addTokens a b = 0 ↔ a = 0 ∧ b = 0 := by
  simp only [← UInt64.toNat_inj, toNat_addTokens, UInt64.toNat_zero, Word.maxUnsigned64]
  omega

theorem le_zero_iff_not_zero_lt {x : Float} (hx : 0.0 ≤ x) : x ≤ 0.0 ↔ ¬0.0 < x := by
  obtain ⟨v, hv, -⟩ := exists_denotes_of_nonneg hx
  rw [hv.le_iff denotes_zero, denotes_zero.lt_iff hv, not_lt]

theorem isZero_onto (x : Charge) {u : Usage} (hu : 0.0 ≤ u.cost) :
    (x.onto u).isZero = true ↔ u.isZero = true ∧ ¬x.Nonzero := by
  have hzero : ∀ v : Usage,
      v.isZero = true ↔ v.tokensIn = 0 ∧ v.tokensOut = 0 ∧ v.cost ≤ 0.0 := by
    intro v
    simp [Usage.isZero, and_assoc]
  rw [hzero, hzero]
  cases x with
  | nothing => simp [onto, Nonzero]
  | spent usage =>
    have hcost := zero_le_soundCost usage.cost
    simp only [onto, Nonzero, Usage.plus, addTokens_eq_zero_iff, add_le_zero_iff hu hcost,
      le_zero_iff_not_zero_lt hcost, not_or, not_not]
    tauto
  | drift tokens =>
    simp only [onto, Nonzero, addTokens_eq_zero_iff, not_not]
    tauto

end Charge

namespace Cell

variable {c c' : Cell} {w : Window} {now : Instant} {x : Charge} {day : String}

theorem Charged.history (h : c.Charged w now x c') : c'.history = c.history ∨
    ∃ b, c.bucket = some b ∧ c'.history = c.history ++ [b] := by
  rcases h with ⟨rfl, -⟩ | ⟨f, -, rfl⟩
  · exact Or.inl rfl
  · unfold adjust archive
    cases hb : c.bucket with
    | none => exact Or.inl rfl
    | some b =>
      dsimp only
      split_ifs
      · exact Or.inl rfl
      · exact Or.inr ⟨b, rfl, rfl⟩

def Records (c : Cell) (day : String) : Prop := ∃ b ∈ c.buckets, b.day = day ∧ b.used.isZero = false

theorem records_mk_some {b : Bucket} {bs : List Bucket} : (mk (some b) bs).Records day ↔
    (mk none bs).Records day ∨ b.day = day ∧ b.used.isZero = false := by
  simp only [Records, buckets, Option.toList_some, Option.toList_none, List.append_nil,
    List.mem_append, List.mem_singleton]
  constructor
  · rintro ⟨a, ha | rfl, h⟩
    · exact Or.inl ⟨a, ha, h⟩
    · exact Or.inr h
  · rintro (⟨a, ha, h⟩ | h)
    · exact ⟨a, Or.inl ha, h⟩
    · exact ⟨b, Or.inr rfl, h⟩

theorem records_moved (c : Cell) (w : Window) (now : Instant) (day : String) :
    (c.moved w now).Records day ↔ c.Records day := by
  have hfresh : (Bucket.fresh w now).used.isZero = true := by
    change Usage.zero.isZero = true
    decide
  obtain ⟨bucket, history⟩ := c
  cases bucket with
  | none => simp [moved, adjust, seen, archive, records_mk_some, hfresh]
  | some b =>
    by_cases hd : b.day = w.day
    · simp [moved, adjust, seen, archive, hd]
    · by_cases hz : b.used.isZero = true
      · simp [moved, adjust, seen, archive, hd, hz, records_mk_some, hfresh]
      · simp only [moved, adjust, seen, archive, hd, hz, records_mk_some, hfresh, id_eq, or_self,
          if_false, Bool.true_eq_false, and_false, or_false, Bool.false_eq_true]
        simp [Records, buckets, hz]

theorem Charged.records (h : c.Charged w now x c') (hc : c.Nonneg) :
    c'.Records day ↔ c.Records day ∨ w.day = day ∧ x.Nonzero := by
  rcases h with ⟨rfl, rfl⟩ | ⟨f, hf, rfl⟩
  · simp [Charge.Nonzero]
  · rw [← c.records_moved w now day, moved, adjust, adjust, records_mk_some, records_mk_some,
      (hf _).1, (hf _).2, id, c.day_seen, or_assoc, ← and_or_left]
    simp only [← Bool.not_eq_true, x.isZero_onto (hc.seen w now).used, not_and_or, not_not]

structure Calendar (c : Cell) (n : ℤ) : Prop where
  begun : c.Begun
  ordered : c.buckets.Pairwise (fun b b' => b.day < b'.day)
  dated : ∀ b ∈ c.buckets, ∃ m ≤ n, (Date.ofDayNumber m).InFourDigits ∧ b.day = dayText m
  used : ∀ b ∈ c.history, b.used.isZero = false

theorem sublist_archive (c : Cell) (w : Window) : (c.archive w).Sublist c.buckets := by
  unfold archive buckets
  cases c.bucket with
  | none => exact List.sublist_append_left _ _
  | some b =>
    dsimp only
    split_ifs
    · exact List.sublist_append_left _ _
    · exact List.Sublist.refl _

theorem Calendar.archive_lt {m n : ℤ} (h : c.Calendar m) (hw : w.day = dayText n) (hmn : m ≤ n)
    (hn : (Date.ofDayNumber n).InFourDigits) : ∀ b ∈ c.archive w, b.day < w.day := by
  intro b hb
  cases hlive : c.bucket with
  | none =>
    rw [h.begun.eq_mk hlive] at hb
    contradiction
  | some a =>
    have hbuckets : c.buckets = c.history ++ [a] := by simp [buckets, hlive]
    have hord := h.ordered
    rw [hbuckets, List.pairwise_append] at hord
    obtain ⟨k, hk, hdigits, hday⟩ := h.dated a (by simp [hbuckets])
    have hle : a.day ≤ w.day := by
      rw [hday, hw]
      rcases (hk.trans hmn).eq_or_lt with rfl | hlt
      · exact le_rfl
      · exact ((dayText_lt_iff hdigits hn).mpr hlt).le
    rcases mem_archive hb with hb | ⟨hb, hne⟩
    · exact (hord.2.2 b hb a (by simp)).trans_le hle
    · obtain rfl := Option.some.inj (hlive.symm.trans hb)
      exact lt_of_le_of_ne hle hne

theorem Calendar.charged {m n : ℤ} (h : c.Calendar m) (hx : c.Charged w now x c')
    (hw : w.day = dayText n) (hmn : m ≤ n) (hn : (Date.ofDayNumber n).InFourDigits) :
    c'.Calendar n := by
  have hdated : ∀ b ∈ c.buckets, ∃ k ≤ n, (Date.ofDayNumber k).InFourDigits ∧
      b.day = dayText k := by
    intro b hb
    obtain ⟨k, hk, hday⟩ := h.dated b hb
    exact ⟨k, hk.trans hmn, hday⟩
  rcases hx with ⟨rfl, -⟩ | ⟨f, hf, rfl⟩
  · exact ⟨h.begun, h.ordered, hdated, h.used⟩
  · have hnew : (f (c.seen w now)).day = w.day := (hf _).1.trans (c.day_seen w now)
    refine ⟨fun hnone => by contradiction, ?_, fun b hb => ?_, fun b hb => ?_⟩
    · refine List.pairwise_append.mpr ⟨h.ordered.sublist (c.sublist_archive w), by simp [adjust],
        fun a ha b hb => ?_⟩
      obtain rfl : b = f (c.seen w now) := by simpa [adjust] using hb
      rw [hnew]
      exact h.archive_lt hw hmn hn a ha
    · rcases List.mem_append.mp hb with hb | hb
      · exact hdated b ((c.sublist_archive w).subset hb)
      · obtain rfl : b = f (c.seen w now) := by simpa [adjust] using hb
        exact ⟨n, le_rfl, hn, hnew.trans hw⟩
    · unfold adjust archive at hb
      cases hlive : c.bucket with
      | none =>
        rw [hlive] at hb
        exact h.used b hb
      | some a =>
        simp only [hlive] at hb
        split_ifs at hb with hcase
        · exact h.used b hb
        · rcases List.mem_append.mp hb with hb | hb
          · exact h.used b hb
          · rw [List.mem_singleton.mp hb]
            exact Bool.eq_false_iff.mpr (fun hz => hcase (Or.inr hz))

end Cell

namespace Ledger

variable {l : Ledger} {ops : Schedule} {scope : Scope} {key : String} {n : ℤ}

theorem history_concat (l : Ledger) (ops : Schedule) (x : Instant × Operation) (scope : Scope)
    (key : String) :
    (l.after (ops ++ [x])).state.history scope key = (l.after ops).state.history scope key ∨
      ∃ b, (l.after ops).state.bucket? scope key = some b ∧
        (l.after (ops ++ [x])).state.history scope key =
          (l.after ops).state.history scope key ++ [b] := by
  rw [after_concat]
  exact ((l.after ops).charged_step x.1 scope key x.2).cell.history

theorem history_appended (l : Ledger) (ops : Schedule) (scope : Scope) (key : String) :
    l.state.history scope key <+: (l.after ops).state.history scope key := by
  induction ops using List.reverseRecOn with
  | nil => exact List.prefix_rfl
  | append_singleton ops x ih =>
    rcases l.history_concat ops x scope key with h | ⟨b, -, h⟩ <;> rw [h]
    · exact ih
    · exact ih.trans (List.prefix_append _ _)

def RetiredAt (l : Ledger) (ops : Schedule) (scope : Scope) (key : String) (i : ℕ) (b : Bucket) :
    Prop :=
  ∃ before x later, ops = before ++ x :: later ∧
    (l.after before).state.bucket? scope key = some b ∧
    (l.after before).state.history scope key = ((l.after ops).state.history scope key).take i ∧
    (l.after (before ++ [x])).state.history scope key =
      ((l.after ops).state.history scope key).take (i + 1)

theorem retiredAt_after (hl : l.state.history scope key = []) {i : ℕ} {b : Bucket}
    (hb : ((l.after ops).state.history scope key)[i]? = some b) :
    l.RetiredAt ops scope key i b := by
  induction ops using List.reverseRecOn with
  | nil =>
    change (l.state.history scope key)[i]? = some b at hb
    rw [hl] at hb
    contradiction
  | append_singleton ops x ih =>
    -- A bucket that was there before the last step was retired by an earlier one.
    have hold : ∀ new, (l.after (ops ++ [x])).state.history scope key =
        (l.after ops).state.history scope key ++ new →
        i < ((l.after ops).state.history scope key).length →
        l.RetiredAt (ops ++ [x]) scope key i b := by
      intro new hnew hi
      rw [hnew, List.getElem?_append_left hi] at hb
      obtain ⟨before, y, later, rfl, hlive, htake, htake'⟩ := ih hb
      refine ⟨before, y, later ++ [x], by simp, hlive, ?_, ?_⟩
      · rw [hnew, List.take_append_of_le_length hi.le]
        exact htake
      · rw [hnew, List.take_append_of_le_length hi]
        exact htake'
    rcases l.history_concat ops x scope key with h | ⟨a, hlive, h⟩
    · refine hold [] (by rw [h, List.append_nil]) ?_
      rw [h] at hb
      exact (List.getElem?_eq_some_iff.mp hb).1
    · by_cases hi : i < ((l.after ops).state.history scope key).length
      · exact hold [a] h hi
      · have hlen : i = ((l.after ops).state.history scope key).length := by
          have hbound := (List.getElem?_eq_some_iff.mp hb).1
          rw [h, List.length_append, List.length_singleton] at hbound
          omega
        rw [h, hlen, List.getElem?_concat_length] at hb
        obtain rfl := Option.some.inj hb
        exact ⟨ops, x, [], rfl, hlive, by rw [h, hlen, List.take_left], by
          rw [h, hlen, List.take_of_length_le (by simp)]⟩

theorem calendar_after {m : ℤ} (h : (l.state.cell scope key).Calendar m)
    (hm : ∀ x ∈ ops, m ≤ l.policy.zone.dayNumber x.1) (hasc : ops.Ascending l.policy.zone)
    (hyears : ∀ x ∈ ops, (Date.ofDayNumber (l.policy.zone.dayNumber x.1)).InFourDigits) :
    ∃ n, ((l.after ops).state.cell scope key).Calendar n := by
  induction ops generalizing l m with
  | nil => exact ⟨m, h⟩
  | cons x rest ih =>
    obtain ⟨now, op⟩ := x
    have hpolicy := (l.effect_step now op).policy
    obtain ⟨hle, hasc'⟩ := hasc.of_cons
    have hday : (l.window now).day = dayText (l.policy.zone.dayNumber now) := rfl
    have hstep := h.charged (l.charged_step now scope key op).cell hday
      (hm (now, op) List.mem_cons_self) (hyears (now, op) List.mem_cons_self)
    rw [after_cons]
    refine ih hstep ?_ ?_ ?_ <;> rw [hpolicy]
    · exact hle
    · exact hasc'
    · exact fun y hy => hyears y (List.mem_cons_of_mem _ hy)

theorem records_after (h : (l.state.cell scope key).Nonneg) :
    ((l.after ops).state.cell scope key).Records (dayText n) ↔
      (l.state.cell scope key).Records (dayText n) ∨
        ∃ x ∈ l.charges scope key ops, l.policy.zone.dayNumber x.1 = n ∧ x.2.Nonzero := by
  induction ops generalizing l with
  | nil => simp [charges, after, run]
  | cons x rest ih =>
    obtain ⟨now, op⟩ := x
    have hspent : ((l.after [(now, op)]).state.cell scope key).SpentFrom _ :=
      spentFrom_after h.spentFrom
    have hnonneg : ((l.step now op).ledger.state.cell scope key).Nonneg := hspent.nonneg
    have hday : (l.window now).day = dayText n ↔ l.policy.zone.dayNumber now = n :=
      ⟨dayText_injective, congrArg dayText⟩
    rw [after_cons, ih hnonneg, (l.charged_step now scope key op).cell.records h, hday, or_assoc,
      (l.effect_step now op).policy, charges]
    simp only [List.mem_cons, exists_eq_or_imp]

structure FaithfulHistory (p : LedgerPolicy) (ops : Schedule) (scope : Scope) (key : String) :
    Prop where
  ordered : (((start p).after ops).state.history scope key).Pairwise (fun b b' => b.day < b'.day)
  beforeLive : ∀ live ∈ ((start p).after ops).state.bucket? scope key,
    ∀ b ∈ ((start p).after ops).state.history scope key, b.day < live.day
  used : ∀ b ∈ ((start p).after ops).state.history scope key, b.used.isZero = false
  retired : ∀ i b, (((start p).after ops).state.history scope key)[i]? = some b →
    (start p).RetiredAt ops scope key i b
  appended : ∀ later, ((start p).after ops).state.history scope key <+:
    ((start p).after (ops ++ later)).state.history scope key
  /-- Of the days that have been left, those with a charge are there once, and no others. -/
  complete : ∀ n, (∀ live ∈ ((start p).after ops).state.bucket? scope key, live.day ≠ dayText n) →
    ((((start p).after ops).state.history scope key).map Bucket.day).count (dayText n) =
      if ∃ x ∈ (start p).charges scope key ops, p.zone.dayNumber x.1 = n ∧ x.2.Nonzero then 1 else 0

theorem history_faithful (p : LedgerPolicy) (ops : Schedule) (hclock : ops.Ascending p.zone)
    (hyears : ∀ x ∈ ops, (Date.ofDayNumber (p.zone.dayNumber x.1)).InFourDigits) (scope : Scope)
    (key : String) : FaithfulHistory p ops scope key := by
  have hempty : (start p).state.cell scope key = ⟨none, []⟩ := by cases scope <;> rfl
  have hpolicy : (start p).policy = p := rfl
  obtain ⟨first, hfirst⟩ := hclock.exists_le
  have hstart : ((start p).state.cell scope key).Calendar first := by
    rw [hempty]
    exact ⟨fun _ => rfl, List.Pairwise.nil, by simp [Cell.buckets], by simp⟩
  obtain ⟨last, hcal⟩ := calendar_after hstart hfirst hclock hyears
  have hnonneg : ((start p).state.cell scope key).Nonneg := by
    rw [hempty]
    simp [Cell.Nonneg, Cell.buckets]
  have hnone : ∀ day, ¬((start p).state.cell scope key).Records day := by
    rw [hempty]
    simp [Cell.Records, Cell.buckets]
  have hord := List.pairwise_append.mp hcal.ordered
  refine ⟨hord.1, fun live hlive b hb => hord.2.2 b hb live (Option.mem_toList.mpr hlive),
    hcal.used, fun i b hb => retiredAt_after (congrArg Cell.history hempty) hb, fun later => ?_,
    fun n hleft => ?_⟩
  · rw [after_append]
    exact history_appended _ _ _ _
  · have hrecords : (((start p).after ops).state.cell scope key).Records (dayText n) ↔ _ :=
      records_after hnonneg
    rw [or_iff_right (hnone _), hpolicy] at hrecords
    have hmem : dayText n ∈ (((start p).after ops).state.history scope key).map Bucket.day ↔
        (((start p).after ops).state.cell scope key).Records (dayText n) := by
      rw [List.mem_map]
      constructor
      · rintro ⟨b, hb, hday⟩
        exact ⟨b, List.mem_append_left _ hb, hday, hcal.used b hb⟩
      · rintro ⟨b, hb, hday, -⟩
        rcases List.mem_append.mp hb with hb | hb
        · exact ⟨b, hb, hday⟩
        · exact absurd hday (hleft b (Option.mem_toList.mp hb))
    have hnodup : ((((start p).after ops).state.history scope key).map Bucket.day).Nodup :=
      (List.pairwise_map.mpr hord.1).imp (fun h => ne_of_lt h)
    rw [hnodup.count]
    exact if_congr (hmem.trans hrecords) rfl rfl

def acrossDays : Schedule := [
  (noon 1, .commit "a" sampleLane (some "ann") (.ofTokens 10 5)),
  (noon 2, .canCall ⟨sampleLane, some "ann", .ofTokens 1 0⟩),
  (noon 4, .applyReport sampleLane (Date.ofDayNumber 1) 40),
  (noon 5, .currentUsage sampleLane none)]

theorem history_faithful_acrossDays :
    FaithfulHistory (samplePolicy ⟨some 100, none, true⟩) acrossDays .shared sampleLane.text ∧
      (((start (samplePolicy ⟨some 100, none, true⟩)).after acrossDays).state.history .shared
        sampleLane.text).map (fun b => (b.day, b.used.totalTokens)) =
          [(dayText 1, 15), (dayText 4, 25)] :=
  ⟨history_faithful _ acrossDays (by decide +kernel) (by decide +kernel) .shared _,
    by decide +kernel⟩

end Ledger

end LaneQuota
