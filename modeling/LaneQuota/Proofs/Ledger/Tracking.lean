import LaneQuota.Proofs.Calendar.DayOrder
import LaneQuota.Proofs.Ledger.Callers
import LaneQuota.Proofs.Ledger.Journal
import LaneQuota.Proofs.Ledger.Threshold

/-!
# Keeping up with the provider

A lane is also used past the ledger. Its provider counts all usage, its totals are fetched without
the ledger, and any time later the ledger is raised to them. What the ledger tracks stays between
the fetched totals that it was raised to and the provider's count.
-/

namespace LaneQuota

open Ledger

/-! ## Tokens of a cell -/

namespace Cell

def tokens (c : Cell) : ℕ := (c.buckets.map (fun b => b.used.tokens)).sum

theorem tokens_eq (c : Cell) :
    c.tokens = (c.usedOn (fun _ => True)).1 + (c.usedOn (fun _ => True)).2 := by
  have hsum : ∀ bs : List Bucket, (bs.map (fun b => b.used.tokens)).sum =
      (bs.map (fun b : Bucket => b.used.counts)).sum.1 +
        (bs.map (fun b : Bucket => b.used.counts)).sum.2 := by
    intro bs
    induction bs with
    | nil => rfl
    | cons b bs ih =>
      have hb : b.used.tokens = b.used.counts.1 + b.used.counts.2 := rfl
      simp only [List.map_cons, List.sum_cons, ih, hb, Prod.fst_add, Prod.snd_add]
      omega
  rw [tokens, hsum, usedOn]
  simp

variable {c c' : Cell} {w : Window} {now : Instant} {n : ℕ × ℕ}

theorem Gains.tokens (h : c.Gains w now n c') (hfit : c.tokens + (n.1 + n.2) < 2 ^ 64) :
    c'.tokens = c.tokens + (n.1 + n.2) := by
  rw [tokens_eq] at hfit
  have hused := h.usedOn (p := fun _ => True) (by
    rw [if_pos trivial]
    constructor
    · simp only [Prod.fst_add]
      omega
    · simp only [Prod.snd_add]
      omega)
  rw [tokens_eq, tokens_eq, hused, if_pos trivial, Prod.fst_add, Prod.snd_add]
  omega

theorem Gains.day (h : c.Gains w now n c') {b : Bucket} (hb : b ∈ c'.buckets) :
    b.day = w.day ∨ b ∈ c.buckets := by
  rcases h with ⟨rfl, -⟩ | ⟨f, hf, rfl⟩
  · exact Or.inr hb
  · rcases List.mem_append.mp hb with hb | hb
    · right
      unfold adjust archive at hb
      cases hc : c.bucket with
      | none =>
        rw [hc] at hb
        exact List.mem_append_left _ hb
      | some a =>
        rw [hc] at hb
        dsimp only at hb
        split_ifs at hb
        · exact List.mem_append_left _ hb
        · simpa [buckets, hc] using hb
    · left
      rw [adjust, Option.toList_some, List.mem_singleton] at hb
      rw [hb, (hf _).1, c.day_seen]

theorem tokens_moved (c : Cell) (w : Window) (now : Instant) :
    (c.moved w now).tokens = c.tokens := by
  rw [tokens_eq, tokens_eq, usedOn_moved]

end Cell

/-! ## What a report is compared with -/

def tokensOf (bs : List Bucket) : ℕ := (bs.map (fun b => b.used.tokens)).sum

def totalsOf (bs : List Bucket) : ℕ := (bs.map (fun b => b.used.totalTokens.toNat)).sum

theorem toNat_totalTokens_eq_min (u : Usage) : u.totalTokens.toNat = min u.tokens (2 ^ 64 - 1) :=
  toNat_addTokens _ _

theorem totalsOf_le_tokensOf (bs : List Bucket) : totalsOf bs ≤ tokensOf bs := by
  apply List.sum_le_sum
  intro b _
  rw [toNat_totalTokens_eq_min]
  exact min_le_left _ _

theorem tokensOf_eq_or_full (bs : List Bucket) :
    tokensOf bs = totalsOf bs ∨ 2 ^ 64 - 1 ≤ totalsOf bs := by
  induction bs with
  | nil => exact Or.inl rfl
  | cons b bs ih =>
    have hb := toNat_totalTokens_eq_min b.used
    simp only [tokensOf, totalsOf, List.map_cons, List.sum_cons] at ih ⊢
    omega

theorem sumTokens?_eq_some_iff {a b c : UInt64} :
    sumTokens? a b = some c ↔ c.toNat = a.toNat + b.toNat := by
  have hmax : Word.maxUnsigned64 = 2 ^ 64 - 1 := rfl
  have hc := c.toNat_lt
  unfold sumTokens?
  split_ifs with hfit
  · rw [Option.some.injEq, ← UInt64.toNat_inj, UInt64.toNat_add, Nat.mod_eq_of_lt (by omega)]
    exact eq_comm
  · exact iff_of_false (by simp) (by omega)

theorem foldlM_totalTokens_eq_some_iff {bs : List Bucket} {sum n : UInt64} :
    bs.foldlM (fun sum b => sumTokens? sum b.used.totalTokens) sum = some n ↔
      n.toNat = sum.toNat + totalsOf bs := by
  induction bs generalizing sum with
  | nil =>
    rw [List.foldlM_nil]
    change some sum = some n ↔ n.toNat = sum.toNat + 0
    rw [Option.some.injEq, ← UInt64.toNat_inj, Nat.add_zero]
    exact eq_comm
  | cons b bs ih =>
    have hcons : totalsOf (b :: bs) = b.used.totalTokens.toNat + totalsOf bs := List.sum_cons
    rw [List.foldlM_cons, hcons]
    change (sumTokens? sum b.used.totalTokens).bind _ = some n ↔ _
    rw [Option.bind_eq_some_iff]
    constructor
    · rintro ⟨sum', hsum, hrest⟩
      rw [ih.mp hrest, sumTokens?_eq_some_iff.mp hsum]
      omega
    · intro h
      have hword := n.toNat_lt
      have hsum : (UInt64.ofNat (sum.toNat + b.used.totalTokens.toNat)).toNat =
          sum.toNat + b.used.totalTokens.toNat := UInt64.toNat_ofNat_of_lt' (by
            change _ < 2 ^ 64
            omega)
      refine ⟨_, sumTokens?_eq_some_iff.mpr hsum, ih.mpr ?_⟩
      omega

theorem archivedTokens?_eq_some_iff {bs : List Bucket} {start : String} {n : UInt64} :
    archivedTokens? bs start = some n ↔
      n.toNat = totalsOf (bs.filter (fun b => !(b.day < start))) := by
  rw [archivedTokens?, foldlM_totalTokens_eq_some_iff, UInt64.toNat_zero, Nat.zero_add]

theorem exists_archivedTokens (bs : List Bucket) (start : String)
    (h : totalsOf (bs.filter (fun b => !(b.day < start))) < 2 ^ 64) :
    ∃ n, archivedTokens? bs start = some n ∧
      n.toNat = totalsOf (bs.filter (fun b => !(b.day < start))) := by
  have hn := UInt64.toNat_ofNat_of_lt' h
  exact ⟨_, archivedTokens?_eq_some_iff.mpr hn, hn⟩

theorem exists_known {c : Cell} (w : Window) (now : Instant) {start : String}
    (hdays : ∀ b ∈ c.buckets, ¬b.day < start) (h : c.tokens < 2 ^ 64) :
    ∃ n, c.known? w now start = some n ∧ n.toNat = c.tokens := by
  have hsplit : c.tokens = tokensOf (c.archive w) + (c.seen w now).used.tokens := by
    rw [← c.tokens_moved w now]
    simp [Cell.tokens, Cell.moved, Cell.adjust, Cell.buckets, tokensOf]
  have hall : (c.archive w).filter (fun b => !decide (b.day < start)) = c.archive w := by
    rw [List.filter_eq_self]
    intro b hb
    rcases Cell.mem_archive hb with hb | ⟨hb, -⟩
    · simpa using hdays b (List.mem_append_left _ hb)
    · simpa using hdays b (by simp [Cell.buckets, hb])
  have hle := totalsOf_le_tokensOf (c.archive w)
  have hfull := tokensOf_eq_or_full (c.archive w)
  obtain ⟨n, hn, hcount⟩ := exists_archivedTokens (c.archive w) start (by rw [hall]; omega)
  have hs := toNat_totalTokens_eq_min (c.seen w now).used
  rw [hall] at hcount
  refine ⟨_, congrArg (Option.map _) hn, ?_⟩
  rw [Quantity.toNat_addTokens_of_lt (by omega), hcount, hs]
  omega

/-! ## What is spent on a lane -/

def Operation.lane? : Operation → Option LaneKey
  | .reserve _ r => some r.key
  | .commit _ key _ _ => some key
  | .applyReport key _ _ => some key
  | _ => none

def Operation.reportsOn (key : LaneKey) : Operation → Prop
  | .applyReport lane _ _ => lane = key
  | _ => False

instance (key : LaneKey) : (op : Operation) → Decidable (op.reportsOn key)
  | .applyReport lane _ _ => inferInstanceAs (Decidable (lane = key))
  | .canCall _ | .reserve _ _ | .commit _ _ _ _ | .rollback _ _ | .toggleUnlimited _ _
  | .currentUsage _ _ | .reservedUsage _ _ | .usageRatio _ _ | .remainingBudget _ _ | .history _ _
  | .hourly _ _ | .snapshot | .isUnlimited _ | .unlimitedTenants | .reportRange _
  | .orphanedCommits => inferInstanceAs (Decidable False)

namespace Ledger

def spentOn (l : Ledger) (key : LaneKey) : Operation → ℕ
  | .commit _ lane _ actual => if lane = key then actual.tokens else 0
  | .rollback id .keep =>
    ((l.reservations.get? id).map (fun r => if r.key = key then r.estimate.tokens else 0)).getD 0
  | _ => 0

def NamesPlain (l : Ledger) : Prop := ∀ id r, l.reservations.get? id = some r → r.key.Plain

variable {l : Ledger} {now : Instant} {op : Operation} {key : LaneKey}

theorem namesPlain_start (p : LedgerPolicy) : (start p).NamesPlain := by
  intro id r h
  contradiction

theorem NamesPlain.step (h : l.NamesPlain) (hop : ∀ lane ∈ op.lane?, lane.Plain) :
    (l.step now op).ledger.NamesPlain := by
  intro id r hr
  rcases (l.effect_step now op).reservation hr with hr | ⟨q, rfl, rfl⟩
  · exact h id r hr
  · exact hop q.key rfl

theorem posted_shared (hkey : key.Plain) (hplain : l.NamesPlain)
    (hop : ∀ lane ∈ op.lane?, lane.Plain) (hreport : ¬op.reportsOn key) :
    (l.posted now op .shared key.text).1 + (l.posted now op .shared key.text).2 =
      l.spentOn key op := by
  have htext : ∀ lane : LaneKey, lane.Plain → (lane.text = key.text ↔ lane = key) := by
    intro lane hlane
    constructor
    · exact LaneKey.text_injective hlane hkey
    · exact congrArg LaneKey.text
  unfold posted
  cases op with
  | commit id lane tenant actual =>
    simp only [posting?, Option.map_some, Option.getD_some, Posting.amount,
      Posting.reaches_shared, true_and, htext lane (hop lane rfl), spentOn]
    split_ifs <;> rfl
  | rollback id mode =>
    cases mode with
    | release => rfl
    | keep =>
      cases hid : l.reservations.get? id with
      | none => simp [posting?, spentOn, hid]
      | some r =>
        simp only [posting?, hid, Option.map_some, Option.getD_some, Posting.amount,
          Posting.reaches_shared, true_and, htext r.key (hplain id r hid), spentOn]
        split_ifs <;> rfl
  | applyReport lane start reported =>
    have hno : lane.text ≠ key.text := fun h => hreport ((htext lane (hop lane rfl)).mp h)
    simp only [posting?, spentOn]
    cases l.drift? now lane start reported with
    | none => rfl
    | some drift => simp [Posting.amount, hno]
  | _ => rfl

end Ledger

/-! ## A lane and its provider -/

/-- A ledger together with what its provider knows of one lane: what was spent through the ledger
and past it, the totals that were fetched so far, and what reports have added to the ledger. -/
structure Tracking where
  ledger : Ledger
  spent : ℕ
  elsewhere : ℕ
  fetched : List UInt64
  added : ℕ

/-- Time passes between a fetch and the report that is applied with it. -/
inductive Event where
  | operation (now : Instant) (op : Operation)
  | elsewhere (tokens : ℕ)
  | fetch
  | apply (now : Instant) (reported : UInt64)

namespace Tracking

def start (p : LedgerPolicy) : Tracking := ⟨Ledger.start p, 0, 0, [], 0⟩

def truth (t : Tracking) : ℕ := t.spent + t.elsewhere

section Steps

variable (key : LaneKey) (first : ℤ)

def next (t : Tracking) : Event → Tracking
  | .operation now op =>
    { t with ledger := (t.ledger.step now op).ledger, spent := t.spent + t.ledger.spentOn key op }
  | .elsewhere tokens => { t with elsewhere := t.elsewhere + tokens }
  | .fetch => { t with fetched := UInt64.ofNat t.truth :: t.fetched }
  | .apply now reported =>
    { t with
      ledger := (t.ledger.applyReport now key (Date.ofDayNumber first) reported).ledger
      added := t.added +
        ((t.ledger.drift? now key (Date.ofDayNumber first) reported).getD 0).toNat }

def InRange (t : Tracking) (now : Instant) : Prop :=
  first ≤ t.ledger.policy.zone.dayNumber now ∧
    (Date.ofDayNumber (t.ledger.policy.zone.dayNumber now)).InFourDigits

instance (t : Tracking) (now : Instant) : Decidable (t.InRange first now) :=
  inferInstanceAs (Decidable (_ ∧ _))

def Allows (t : Tracking) : Event → Prop
  | .operation now op =>
    t.InRange first now ∧ (∀ lane ∈ op.lane?, lane.Plain) ∧ ¬op.reportsOn key
  | .apply now reported => t.InRange first now ∧ reported ∈ t.fetched
  | _ => True

instance (t : Tracking) (e : Event) : Decidable (t.Allows key first e) := by
  cases e <;> unfold Allows <;> infer_instance

inductive Reachable (p : LedgerPolicy) : Tracking → Prop
  | start : Reachable p (start p)
  | next {t : Tracking} {e : Event} (h : Reachable p t) (he : t.Allows key first e) :
      Reachable p (t.next key first e)

open Classical in
noncomputable def tracked (t : Tracking) : ℕ :=
  let c := t.ledger.state.cell .shared key.text
  ((c.history.filter (fun b => ∃ n, first ≤ n ∧ b.day = dayText n)).map
    (fun b => b.used.tokens)).sum + (c.bucket.toList.map (fun b => b.used.tokens)).sum

structure Sound (p : LedgerPolicy) (t : Tracking) : Prop where
  policy : t.ledger.policy = p
  plain : t.ledger.NamesPlain
  days : ∀ b ∈ (t.ledger.state.cell .shared key.text).buckets,
    ∃ n, first ≤ n ∧ (Date.ofDayNumber n).InFourDigits ∧ b.day = dayText n
  tokens : t.truth < 2 ^ 64 →
    (t.ledger.state.cell .shared key.text).tokens = t.spent + t.added ∧ t.added ≤ t.elsewhere
  fetched : t.truth < 2 ^ 64 → ∀ reported ∈ t.fetched, reported.toNat ≤ t.truth

variable {key : LaneKey} {first : ℤ} {p : LedgerPolicy} {t : Tracking} {e : Event}

theorem truth_le_next : t.truth ≤ (t.next key first e).truth := by
  cases e <;> simp only [truth, next] <;> omega

theorem sound_start : Sound key first p (start p) where
  policy := rfl
  plain := namesPlain_start p
  days := fun _ hb => absurd hb List.not_mem_nil
  tokens := fun _ => ⟨rfl, Nat.zero_le _⟩
  fetched := fun _ _ hr => absurd hr List.not_mem_nil

namespace Sound

theorem tracked_eq (h : Sound key first p t) :
    t.tracked key first = (t.ledger.state.cell .shared key.text).tokens := by
  have hall : ∀ b ∈ (t.ledger.state.cell .shared key.text).history,
      ∃ n, first ≤ n ∧ b.day = dayText n := by
    intro b hb
    obtain ⟨n, hle, -, hn⟩ := h.days b (List.mem_append_left _ hb)
    exact ⟨n, hle, hn⟩
  rw [tracked, List.filter_eq_self.mpr (by simpa using hall), Cell.tokens, Cell.buckets,
    List.map_append, List.sum_append]

theorem tokens_le (h : Sound key first p t) (hfit : t.truth < 2 ^ 64) :
    (t.ledger.state.cell .shared key.text).tokens ≤ t.truth := by
  obtain ⟨heq, hle⟩ := h.tokens hfit
  unfold truth
  omega

theorem toNat_drift (h : Sound key first p t) (hfirst : (Date.ofDayNumber first).InFourDigits)
    (hfit : t.truth < 2 ^ 64) (now : Instant) (reported : UInt64) :
    ((t.ledger.drift? now key (Date.ofDayNumber first) reported).getD 0).toNat =
      reported.toNat - (t.ledger.state.cell .shared key.text).tokens := by
  have hdays : ∀ b ∈ (t.ledger.state.cell .shared key.text).buckets,
      ¬b.day < (Date.ofDayNumber first).text := by
    intro b hb
    obtain ⟨n, hle, hn, hday⟩ := h.days b hb
    rw [hday]
    exact fun hlt => absurd ((dayText_lt_iff hn hfirst).mp hlt) (not_lt.mpr hle)
  obtain ⟨known, hknown, hcount⟩ := exists_known (t.ledger.window now) now hdays
    ((h.tokens_le hfit).trans_lt hfit)
  change t.ledger.known? now key _ = some known at hknown
  rw [drift?_eq, hknown, ← hcount, Option.bind_some]
  split_ifs with hle
  · rw [UInt64.le_iff_toNat_le] at hle
    simp only [Option.getD_none, UInt64.toNat_zero]
    omega
  · rw [UInt64.not_le, UInt64.lt_iff_toNat_lt] at hle
    rw [Option.getD_some, UInt64.toNat_sub_of_le _ _ (UInt64.le_iff_toNat_le.mpr hle.le)]

theorem days_of_gains (h : Sound key first p t) {now : Instant} (hnow : t.InRange first now)
    {c : Cell} {n : ℕ × ℕ}
    (hgain : (t.ledger.state.cell .shared key.text).Gains (t.ledger.window now) now n c) :
    ∀ b ∈ c.buckets, ∃ n, first ≤ n ∧ (Date.ofDayNumber n).InFourDigits ∧ b.day = dayText n := by
  intro b hb
  rcases hgain.day hb with hday | hb
  · exact ⟨_, hnow.1, hnow.2, hday⟩
  · exact h.days b hb

theorem next_operation (h : Sound key first p t) (hkey : key.Plain) {now : Instant}
    {op : Operation} (he : t.Allows key first (.operation now op)) :
    Sound key first p (t.next key first (.operation now op)) := by
  obtain ⟨hnow, hplain, hreport⟩ := he
  have hgain := t.ledger.gains_step now op .shared key.text
  refine ⟨(t.ledger.effect_step now op).policy.trans h.policy, h.plain.step hplain,
    h.days_of_gains hnow hgain, fun hfit => ?_, fun hfit reported hr => ?_⟩
  · obtain ⟨heq, hle⟩ := h.tokens (truth_le_next.trans_lt hfit)
    simp only [truth, next] at hfit
    have htokens := hgain.tokens (by
      rw [posted_shared hkey h.plain hplain hreport]
      omega)
    rw [posted_shared hkey h.plain hplain hreport, heq] at htokens
    refine ⟨htokens.trans ?_, hle⟩
    simp only [next]
    omega
  · exact (h.fetched (truth_le_next.trans_lt hfit) reported hr).trans truth_le_next

theorem tokens_apply (h : Sound key first p t) (hfirst : (Date.ofDayNumber first).InFourDigits)
    (hfit : t.truth < 2 ^ 64) (now : Instant) (reported : UInt64) :
    ((t.next key first (.apply now reported)).ledger.state.cell .shared key.text).tokens =
      max (t.ledger.state.cell .shared key.text).tokens reported.toNat := by
  have hgain :=
    t.ledger.gains_step now (.applyReport key (Date.ofDayNumber first) reported) .shared key.text
  have hposted : (t.ledger.posted now (.applyReport key (Date.ofDayNumber first) reported) .shared
        key.text).1 + (t.ledger.posted now (.applyReport key (Date.ofDayNumber first) reported)
        .shared key.text).2 =
      reported.toNat - (t.ledger.state.cell .shared key.text).tokens := by
    rw [← h.toNat_drift hfirst hfit now reported, posted, posting?]
    cases t.ledger.drift? now key (Date.ofDayNumber first) reported with
    | none => rfl
    | some drift => simp [Posting.amount, Posting.reaches_shared]
  have hle := h.tokens_le hfit
  have hlt := reported.toNat_lt
  have htokens := hgain.tokens (by omega)
  rw [hposted] at htokens
  refine htokens.trans ?_
  omega

theorem next_apply (h : Sound key first p t) (hfirst : (Date.ofDayNumber first).InFourDigits)
    {now : Instant} {reported : UInt64} (he : t.Allows key first (.apply now reported)) :
    Sound key first p (t.next key first (.apply now reported)) := by
  obtain ⟨hnow, hmem⟩ := he
  have heff := t.ledger.effect_step now (.applyReport key (Date.ofDayNumber first) reported)
  have hgain :=
    t.ledger.gains_step now (.applyReport key (Date.ofDayNumber first) reported) .shared key.text
  refine ⟨heff.policy.trans h.policy, fun id r hr => ?_, h.days_of_gains hnow hgain,
    fun hfit => ?_, fun hfit => h.fetched hfit⟩
  · rcases heff.reservation hr with hr | ⟨q, hq, -⟩
    · exact h.plain id r hr
    · contradiction
  · change t.truth < 2 ^ 64 at hfit
    obtain ⟨heq, hle⟩ := h.tokens hfit
    have hreported := h.fetched hfit reported hmem
    rw [h.tokens_apply hfirst hfit, heq]
    simp only [next, h.toNat_drift hfirst hfit, heq]
    unfold truth at hreported
    omega

theorem next (h : Sound key first p t) (hkey : key.Plain)
    (hfirst : (Date.ofDayNumber first).InFourDigits) (he : t.Allows key first e) :
    Sound key first p (t.next key first e) := by
  cases e with
  | operation now op => exact h.next_operation hkey he
  | apply now reported => exact h.next_apply hfirst he
  | elsewhere tokens =>
    refine ⟨h.policy, h.plain, h.days, fun hfit => ?_, fun hfit reported hr => ?_⟩
    · obtain ⟨heq, hle⟩ := h.tokens (truth_le_next.trans_lt hfit)
      exact ⟨heq, hle.trans (Nat.le_add_right _ _)⟩
    · exact (h.fetched (truth_le_next.trans_lt hfit) reported hr).trans truth_le_next
  | fetch =>
    refine ⟨h.policy, h.plain, h.days, h.tokens, fun hfit reported hr => ?_⟩
    rcases List.mem_cons.mp hr with rfl | hr
    · exact (UInt64.toNat_ofNat_of_lt' hfit).le
    · exact h.fetched hfit reported hr

end Sound

theorem Reachable.sound (h : Reachable key first p t) (hkey : key.Plain)
    (hfirst : (Date.ofDayNumber first).InFourDigits) : Sound key first p t := by
  induction h with
  | start => exact sound_start
  | next _ he ih => exact ih.next hkey hfirst he

theorem tracked_le_next (h : Reachable key first p t) (hkey : key.Plain)
    (hfirst : (Date.ofDayNumber first).InFourDigits) (he : t.Allows key first e)
    (hfit : (t.next key first e).truth < 2 ^ 64) :
    t.tracked key first ≤ (t.next key first e).tracked key first := by
  have hs := h.sound hkey hfirst
  have hs' := hs.next hkey hfirst he
  rw [hs.tracked_eq, hs'.tracked_eq, (hs.tokens (truth_le_next.trans_lt hfit)).1,
    (hs'.tokens hfit).1]
  cases e <;> simp only [Tracking.next] <;> omega

/-- What the ledger tracks holds all that was spent through it, never passes the provider's total
and never shrinks, and it reaches a total that was fetched once that is applied. So reports that
overlap do not add the same usage twice. -/
theorem tracked_upTo_truth (h : Reachable key first p t) (hkey : key.Plain)
    (hfirst : (Date.ofDayNumber first).InFourDigits) (hfit : t.truth < 2 ^ 64) :
    (t.tracked key first = t.spent + t.added ∧ t.added ≤ t.elsewhere ∧
      t.tracked key first ≤ t.truth) ∧
    ∀ e, t.Allows key first e → (t.next key first e).truth < 2 ^ 64 →
      t.tracked key first ≤ (t.next key first e).tracked key first ∧
      ∀ now reported, e = .apply now reported →
        reported.toNat ≤ (t.next key first e).tracked key first := by
  have hs := h.sound hkey hfirst
  obtain ⟨heq, hle⟩ := hs.tokens hfit
  refine ⟨⟨hs.tracked_eq.trans heq, hle, ?_⟩, fun e he hfit' => ?_⟩
  · rw [hs.tracked_eq]
    exact hs.tokens_le hfit
  · refine ⟨tracked_le_next h hkey hfirst he hfit', ?_⟩
    rintro now reported rfl
    rw [(hs.next hkey hfirst he).tracked_eq, hs.tokens_apply hfirst hfit]
    exact le_max_right _ _

def after (key : LaneKey) (first : ℤ) : Tracking → List Event → Tracking
  | t, [] => t
  | t, e :: es => (t.next key first e).after key first es

def AllowsAll (key : LaneKey) (first : ℤ) : Tracking → List Event → Prop
  | _, [] => True
  | t, e :: es => t.Allows key first e ∧ (t.next key first e).AllowsAll key first es

instance decidableAllowsAll (key : LaneKey) (first : ℤ) (t : Tracking) :
    (es : List Event) → Decidable (t.AllowsAll key first es)
  | [] => inferInstanceAs (Decidable True)
  | e :: es =>
    have := decidableAllowsAll key first (t.next key first e) es
    inferInstanceAs (Decidable (_ ∧ _))

theorem Reachable.after {es : List Event} (h : Reachable key first p t)
    (hes : t.AllowsAll key first es) : Reachable key first p (t.after key first es) := by
  induction es generalizing t with
  | nil => exact h
  | cons e es ih => exact ih (h.next hes.1) hes.2

def overlappingReports : List Event := [
  .operation (noon 10) (.reserve "a" ⟨sampleLane, some "ann", .ofTokens 30 10⟩),
  .elsewhere 100,
  .fetch,
  .operation (noon 10) (.commit "b" sampleLane (some "bob") (.ofTokens 20 30)),
  .fetch,
  .operation (noon 10) (.rollback "a" .keep),
  .apply (noon 10) 150,
  .elsewhere 25,
  .operation (noon 11) (.commit "c" sampleLane none (.ofTokens 5 5)),
  .fetch,
  .apply (noon 11) 100]

theorem tracked_upTo_truth_overlappingReports :
    let t := (start (samplePolicy ⟨some 400, none, true⟩)).after sampleLane 10 overlappingReports
    t.spent = 100 ∧ t.added = 60 ∧ t.elsewhere = 125 ∧ t.tracked sampleLane 10 = 160 ∧
      t.Allows sampleLane 10 (.apply (noon 12) 225) ∧
      225 ≤ (t.next sampleLane 10 (.apply (noon 12) 225)).tracked sampleLane 10 := by
  intro t
  have hrun : (start (samplePolicy ⟨some 400, none, true⟩)).AllowsAll sampleLane 10
      overlappingReports := by decide +kernel
  have hallowed : t.Allows sampleLane 10 (.apply (noon 12) 225) := by decide +kernel
  have hcounts : t.spent = 100 ∧ t.added = 60 ∧ t.elsewhere = 125 := by decide +kernel
  obtain ⟨⟨htracked, -, -⟩, hnext⟩ := tracked_upTo_truth (Reachable.start.after hrun)
    (by decide +kernel) (by decide +kernel) (by decide +kernel)
  obtain ⟨-, hreached⟩ := hnext _ hallowed (by decide +kernel)
  refine ⟨hcounts.1, hcounts.2.1, hcounts.2.2, ?_, hallowed, hreached _ _ rfl⟩
  rw [htracked, hcounts.1, hcounts.2.1]

end Steps

end Tracking

end LaneQuota
