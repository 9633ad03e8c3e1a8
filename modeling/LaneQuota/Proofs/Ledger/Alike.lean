import LaneQuota.Proofs.Calendar.Days
import LaneQuota.Proofs.Ledger.Gains
import LaneQuota.Proofs.Ledger.Hours

/-!
# Ledgers that are alike

A bucket may stay in its cell after its day, until somebody looks there. On a later day it tells the
same as the fresh bucket that would be there instead. Ledgers are alike on a day if their cells tell
the same in its window, whether or not buckets wait there, and alike ledgers answer alike.
-/

namespace LaneQuota

open Ledger

structure Account where
  day : String
  used : Usage
  reserved : Usage
  hardStopped : Bool

namespace Account

def blank (day : String) : Account := ⟨day, Usage.zero, Usage.zero, false⟩

end Account

namespace Bucket

def account (b : Bucket) : Account := ⟨b.day, b.used, b.reserved, b.hardStopped⟩

variable {b b' : Bucket}

theorem account_eq_iff : b.account = b'.account ↔
    b.day = b'.day ∧ b.used = b'.used ∧ b.reserved = b'.reserved ∧
      b.hardStopped = b'.hardStopped := Account.mk.injEq _ _ _ _ _ _ _ _ ▸ Iff.rfl

theorem heldTokens_congr (h : b.account = b'.account) : b.heldTokens = b'.heldTokens := by
  obtain ⟨-, hu, hr, -⟩ := account_eq_iff.mp h
  rw [heldTokens, heldTokens, hu, hr]

theorem heldCost_congr (h : b.account = b'.account) : b.heldCost = b'.heldCost := by
  obtain ⟨-, hu, hr, -⟩ := account_eq_iff.mp h
  rw [heldCost, heldCost, hu, hr]

theorem account_withHold (h : b.account = b'.account) (estimate : Usage) (now : Instant) :
    (b.withHold estimate now).account = (b'.withHold estimate now).account := by
  obtain ⟨hd, hu, hr, hs⟩ := account_eq_iff.mp h
  exact account_eq_iff.mpr ⟨hd, hu, by rw [withHold, withHold, hr], hs⟩

theorem account_withoutHold (h : b.account = b'.account) (r : Reservation) (now : Instant) :
    (b.withoutHold r now).account = (b'.withoutHold r now).account := by
  obtain ⟨hd, hu, hr, hs⟩ := account_eq_iff.mp h
  exact account_eq_iff.mpr ⟨hd, hu, by simp only [withoutHold, hd, hr], hs⟩

theorem account_withUse (h : b.account = b'.account) (usage : Usage) (now : Instant) :
    (b.withUse usage now).account = (b'.withUse usage now).account := by
  obtain ⟨hd, hu, hr, hs⟩ := account_eq_iff.mp h
  exact account_eq_iff.mpr ⟨hd, by rw [withUse, withUse, hu], hr, hs⟩

theorem account_withReport (h : b.account = b'.account) (drift : UInt64) (now : Instant) :
    (b.withReport drift now).account = (b'.withReport drift now).account := by
  obtain ⟨hd, hu, hr, hs⟩ := account_eq_iff.mp h
  exact account_eq_iff.mpr ⟨hd, by simp only [withReport, hu], hr, hs⟩

theorem account_latchedUnder (h : b.account = b'.account) (limits : Option Limits) (cost : Float) :
    (latchedUnder limits cost b).account = (latchedUnder limits cost b').account := by
  obtain ⟨hd, hu, hr, hs⟩ := account_eq_iff.mp h
  cases limits with
  | none => exact h
  | some limits =>
    simp only [latchedUnder, latched, hu]
    split_ifs
    · exact account_eq_iff.mpr ⟨hd, rfl, hr, rfl⟩
    · exact h

end Bucket

def Bucket.receipt (b : Bucket) : String × Usage := (b.day, b.used)

theorem archivedCost_congr {bs bs' : List Bucket}
    (h : bs.map Bucket.receipt = bs'.map Bucket.receipt) : archivedCost bs = archivedCost bs' := by
  have hfold : ∀ bs : List Bucket, archivedCost bs =
      (bs.map Bucket.receipt).foldl (fun sum a => sum + a.2.cost) (-0.0) := by
    intro bs
    rw [List.foldl_map]
    rfl
  rw [hfold, h, ← hfold]

theorem archivedTokens?_congr {bs bs' : List Bucket}
    (h : bs.map Bucket.receipt = bs'.map Bucket.receipt) (start : String) :
    archivedTokens? bs start = archivedTokens? bs' start := by
  have hfold : ∀ bs : List Bucket, archivedTokens? bs start =
      ((bs.map Bucket.receipt).filter (fun a => !(a.1 < start))).foldlM
        (fun sum a => sumTokens? sum a.2.totalTokens) 0 := by
    intro bs
    rw [List.filter_map, List.foldlM_map]
    rfl
  rw [hfold, h, ← hfold]

namespace Cell

/-- What a cell tells in a window: the bucket there, and those that are retired by then. -/
def accounts (c : Cell) (w : Window) : Account × List (String × Usage) :=
  (match c.bucket with
    | none => .blank w.day
    | some b => if b.day = w.day then b.account else .blank w.day,
   (c.archive w).map Bucket.receipt)

variable {c c' : Cell} {w w' : Window} {now : Instant}

theorem account_seen (c : Cell) (w : Window) (now : Instant) :
    (c.seen w now).account = (c.accounts w).1 := by
  unfold seen accounts
  cases c.bucket with
  | none => rfl
  | some b =>
    dsimp only
    split_ifs <;> rfl

theorem seen_congr (h : c.accounts w = c'.accounts w) (now : Instant) :
    (c.seen w now).account = (c'.seen w now).account := by
  rw [account_seen, h, account_seen]

theorem archivedCost_congr (h : c.accounts w = c'.accounts w) :
    archivedCost (c.archive w) = archivedCost (c'.archive w) :=
  LaneQuota.archivedCost_congr (congrArg Prod.snd h)

theorem accounts_adjust {f : Bucket → Bucket} (hf : ∀ b, (f b).day = b.day) :
    (c.adjust w now f).accounts w = ((f (c.seen w now)).account, (c.accounts w).2) := by
  apply Prod.ext
  · rw [← account_seen _ _ now, c.seen_adjust hf]
  · exact congrArg (List.map Bucket.receipt) (c.archive_adjust hf)

theorem accounts_moved (c : Cell) (w : Window) (now : Instant) :
    (c.moved w now).accounts w = c.accounts w := by
  rw [moved, accounts_adjust (f := id) (fun _ => rfl), id_eq, account_seen]

theorem accounts_adjust_congr {f f' : Bucket → Bucket} (hf : ∀ b, (f b).day = b.day)
    (hf' : ∀ b, (f' b).day = b.day)
    (hff' : ∀ b b', b.account = b'.account → (f b).account = (f' b').account)
    (h : c.accounts w = c'.accounts w) :
    (c.adjust w now f).accounts w = (c'.adjust w now f').accounts w := by
  rw [accounts_adjust hf, accounts_adjust hf', hff' _ _ (seen_congr h now), h]

theorem accounts_holding (h : c.accounts w = c'.accounts w) (estimate : Usage) :
    (c.holding w now estimate).accounts w = (c'.holding w now estimate).accounts w :=
  accounts_adjust_congr (fun _ => rfl) (fun _ => rfl)
    (fun _ _ hb => Bucket.account_withHold hb estimate now) h

theorem accounts_releasing (h : c.accounts w = c'.accounts w) (r : Reservation) :
    (c.releasing w now r).accounts w = (c'.releasing w now r).accounts w :=
  accounts_adjust_congr (fun _ => rfl) (fun _ => rfl)
    (fun _ _ hb => Bucket.account_withoutHold hb r now) h

theorem accounts_spending (h : c.accounts w = c'.accounts w) (limits : Option Limits)
    (usage : Usage) :
    (c.spending w now limits usage).accounts w = (c'.spending w now limits usage).accounts w := by
  refine accounts_adjust_congr (fun b => day_latchedUnder _ _ _) (fun b => day_latchedUnder _ _ _)
    (fun b b' hb => ?_) h
  rw [archivedCost_congr h]
  exact Bucket.account_latchedUnder (Bucket.account_withUse hb usage now) _ _

theorem accounts_reporting (h : c.accounts w = c'.accounts w) (limits : Option Limits)
    (drift : UInt64) :
    (c.reporting w now limits drift).accounts w =
      (c'.reporting w now limits drift).accounts w := by
  refine accounts_adjust_congr (fun b => day_latchedUnder _ _ _) (fun b => day_latchedUnder _ _ _)
    (fun b b' hb => ?_) h
  rw [archivedCost_congr h]
  exact Bucket.account_latchedUnder (Bucket.account_withReport hb drift now) _ _

theorem accounts_of_day (c : Cell) (hday : w.day = w'.day) : c.accounts w = c.accounts w' := by
  unfold accounts archive
  rw [hday]

theorem known?_congr (h : c.accounts w = c'.accounts w) (start : String) :
    c.known? w now start = c'.known? w now start := by
  obtain ⟨-, hu, -, -⟩ := Bucket.account_eq_iff.mp (seen_congr h now)
  rw [known?, known?, hu, archivedTokens?_congr (congrArg Prod.snd h)]

def Dated (c : Cell) (n : ℤ) : Prop := ∀ b, c.bucket = some b → ∃ m ≤ n, b.day = dayText m

theorem Dated.mono {m n : ℤ} (h : c.Dated m) (hle : m ≤ n) : c.Dated n := by
  intro b hb
  obtain ⟨k, hk, hday⟩ := h b hb
  exact ⟨k, hk.trans hle, hday⟩

theorem Gains.dated {n : ℤ} {k : ℕ × ℕ} (h : c.Gains w now k c') (hc : c.Dated n)
    (hw : w.day = dayText n) : c'.Dated n := by
  rcases h with ⟨rfl, -⟩ | ⟨f, hf, rfl⟩
  · exact hc
  · intro b hb
    rw [adjust, Option.some.injEq] at hb
    refine ⟨n, le_rfl, ?_⟩
    rw [← hb, (hf _).1, c.day_seen, hw]

theorem accounts_later {m n : ℤ} (hc : c.Dated m) (w : Window) (hw' : w'.day = dayText n)
    (hlt : m < n) : c.accounts w' = (.blank w'.day, (c.accounts w).2 ++
      if (c.accounts w).1.used.isZero then []
      else [((c.accounts w).1.day, (c.accounts w).1.used)]) := by
  have hzero : Usage.zero.isZero = true := by decide +kernel
  unfold accounts archive
  cases hb : c.bucket with
  | none => simp [Account.blank, hzero]
  | some b =>
    obtain ⟨k, hk, hday⟩ := hc b hb
    have hlater : b.day ≠ w'.day := by
      rw [hday, hw']
      intro heq
      have := dayText_injective heq
      omega
    by_cases hd : b.day = w.day
    · rw [hd] at hlater
      by_cases hz : b.used.isZero = true <;> simp [hd, hz, hlater, Bucket.account, Bucket.receipt]
    · by_cases hz : b.used.isZero = true <;> simp [hd, hz, hlater, Account.blank, Bucket.receipt, hzero]

end Cell

namespace LedgerState

structure Alike (w : Window) (s s' : LedgerState) : Prop where
  exemptions : s.exemptions = s'.exemptions
  hourly : ∀ scope key, s.hourly? scope key = s'.hourly? scope key
  cell : ∀ scope key, (s.cell scope key).accounts w = (s'.cell scope key).accounts w

namespace Alike

variable {w : Window} {now : Instant} {s s' : LedgerState}

theorem symm (h : s.Alike w s') : s'.Alike w s :=
  ⟨h.exemptions.symm, fun scope key => (h.hourly scope key).symm,
    fun scope key => (h.cell scope key).symm⟩

theorem window (h : s.Alike w s') {w' : Window} (hday : w.day = w'.day) : s.Alike w' s' := by
  refine ⟨h.exemptions, h.hourly, fun scope key => ?_⟩
  rw [← Cell.accounts_of_day _ hday, ← Cell.accounts_of_day _ hday]
  exact h.cell scope key

theorem current_left (h : s.Alike w s') (scope : Scope) (key : String) :
    (s.current scope key w now).state.Alike w s' := by
  refine ⟨(s.exemptions_current scope key w now).trans h.exemptions, fun scope' key' => ?_,
    fun scope' key' => ?_⟩
  · rw [s.hourly?_current]
    exact h.hourly scope' key'
  · rw [s.cell_current]
    split_ifs with hc
    · rw [Cell.accounts_moved, hc.1, hc.2]
      exact h.cell scope' key'
    · exact h.cell scope' key'

theorem current (h : s.Alike w s') (scope : Scope) (key : String) :
    (s.current scope key w now).state.Alike w (s'.current scope key w now).state :=
  ((h.current_left scope key).symm.current_left scope key).symm

theorem account_current (h : s.Alike w s') (now : Instant) (scope : Scope) (key : String) :
    (s.current scope key w now).bucket.account = (s'.current scope key w now).bucket.account := by
  rw [s.bucket_current, s'.bucket_current]
  exact Cell.seen_congr (h.cell scope key) now

theorem historyCost_current (h : s.Alike w s') (now : Instant) (scope : Scope) (key : String) :
    (s.current scope key w now).state.historyCost scope key =
      (s'.current scope key w now).state.historyCost scope key := by
  rw [LedgerState.historyCost_current, LedgerState.historyCost_current]
  exact Cell.archivedCost_congr (h.cell scope key)

theorem hold (h : s.Alike w s') (key : String) (tenant : Option String) (estimate : Usage) :
    (Ledger.hold s key tenant estimate w now).Alike w
      (Ledger.hold s' key tenant estimate w now) := by
  refine ⟨?_, fun scope key' => ?_, fun scope key' => ?_⟩
  · rw [exemptions_hold, exemptions_hold, h.exemptions]
  · rw [hourly?_hold, hourly?_hold, h.hourly]
  · rw [cell_hold, cell_hold]
    split_ifs
    · exact Cell.accounts_holding (h.cell scope key) estimate
    · exact h.cell scope key'

theorem release (h : s.Alike w s') (r : Reservation) :
    (Ledger.release s r w now).Alike w (Ledger.release s' r w now) := by
  refine ⟨?_, fun scope key' => ?_, fun scope key' => ?_⟩
  · rw [exemptions_release, exemptions_release, h.exemptions]
  · rw [hourly?_release, hourly?_release, h.hourly]
  · rw [cell_release, cell_release]
    split_ifs
    · exact Cell.accounts_releasing (h.cell scope r.key.text) r
    · exact h.cell scope key'

theorem spend (h : s.Alike w s') (p : LedgerPolicy) (key : LaneKey) (tenant : Option String)
    (usage : Usage) :
    (Ledger.spend p key tenant usage w now s).Alike w
      (Ledger.spend p key tenant usage w now s') := by
  refine ⟨?_, fun scope key' => ?_, fun scope key' => ?_⟩
  · rw [exemptions_spend, exemptions_spend, h.exemptions]
  · rw [hourly?_spend, hourly?_spend, h.hourly, h.hourly]
  · rw [cell_spend, cell_spend]
    split_ifs
    · exact Cell.accounts_spending (h.cell scope key.text) _ usage
    · exact h.cell scope key'

theorem committedCost_spend (h : s.Alike w s') (p : LedgerPolicy) (key : LaneKey)
    (tenant : Option String) (usage : Usage) :
    committedCost (Ledger.spend p key tenant usage w now s) (Scope.ofTenant tenant) key.text =
      committedCost (Ledger.spend p key tenant usage w now s') (Scope.ofTenant tenant)
        key.text := by
  have hcharged : Scope.ofTenant tenant ∈ Scope.charged tenant := by
    cases tenant <;> exact List.mem_cons_self
  have hcost : ∀ s : LedgerState,
      committedCost (Ledger.spend p key tenant usage w now s) (Scope.ofTenant tenant) key.text =
        (((s.cell (Scope.ofTenant tenant) key.text).seen w now).used.plus usage).cost := by
    intro s
    have hc := cell_spend tenant s w now (Scope.ofTenant tenant) p key usage key.text
    rw [if_pos ⟨hcharged, rfl⟩] at hc
    have hb := congrArg Cell.bucket hc
    change (Ledger.spend p key tenant usage w now s).bucket? _ _ = some _ at hb
    rw [committedCost, hb, Option.map_some, Option.getD_some, used_latchedUnder]
    rfl
  obtain ⟨-, hu, -, -⟩ := Bucket.account_eq_iff.mp
    (Cell.seen_congr (h.cell (Scope.ofTenant tenant) key.text) now)
  rw [hcost, hcost, hu]

end Alike

end LedgerState

structure LedgerState.TellAlike (R : LedgerState → LedgerState → Prop) (key : String) (w : Window)
    (now : Instant) : Prop where
  current : ∀ {s s'} scope, R s s' →
    R (s.current scope key w now).state (s'.current scope key w now).state
  account : ∀ {s s'} scope, R s s' → (s.current scope key w now).bucket.account =
    (s'.current scope key w now).bucket.account
  historyCost : ∀ {s s'} scope, R s s' → (s.current scope key w now).state.historyCost scope key =
    (s'.current scope key w now).state.historyCost scope key

theorem LedgerState.tellAlike_alike (w : Window) (now : Instant) (key : String) :
    TellAlike (Alike w) key w now where
  current scope h := h.current scope key
  account scope h := h.account_current now scope key
  historyCost scope h := h.historyCost_current now scope key

namespace Check

structure Related (R : LedgerState → LedgerState → Prop) (c c' : Check) : Prop where
  denial : c.denial = c'.denial
  state : R c.state c'.state

variable {R : LedgerState → LedgerState → Prop} {w : Window} {now : Instant}

theorem Related.andThen {c c' : Check} {next next' : LedgerState → Check} (h : c.Related R c')
    (hn : ∀ s s', R s s' → (next s).Related R (next' s')) :
    (c.andThen next).Related R (c'.andThen next') := by
  have hnext := hn _ _ h.state
  unfold Check.andThen
  rw [← h.denial]
  cases hd : c.denial with
  | some d => exact h
  | none => exact ⟨hnext.denial, hnext.state⟩

theorem related_denyIf {s s' : LedgerState} {key : String} (hR : LedgerState.TellAlike R key w now)
    (h : R s s') (scope : Scope) {condition condition' : Bool} (hc : condition = condition')
    (budget : ExhaustedBudget) {reason reason' : String} (hr : reason = reason') :
    (denyIf (s.current scope key w now) condition budget reason).Related R
      (denyIf (s'.current scope key w now) condition' budget reason') := by
  subst hc hr
  exact ⟨rfl, hR.current scope h⟩

end Check

theorem LedgerPolicy.exceedsDaily_congr (p : LedgerPolicy) {b b' : Bucket}
    (h : b.account = b'.account) (estimate : Usage) (daily : UInt64) :
    p.exceedsDaily b estimate daily = p.exceedsDaily b' estimate daily := by
  rw [exceedsDaily, exceedsDaily, Bucket.heldTokens_congr h]

namespace Request

variable (r : Request) (p : LedgerPolicy) {R : LedgerState → LedgerState → Prop} {w : Window}
  {now : Instant} {s s' : LedgerState} (hR : LedgerState.TellAlike R r.key.text w now)

include hR

theorem related_checkLatch (h : R s s') :
    (r.checkLatch w now s).Related R (r.checkLatch w now s') := by
  obtain ⟨hd, -, -, hs⟩ := Bucket.account_eq_iff.mp (hR.account r.ownScope h)
  exact Check.related_denyIf hR h _ hs _ (by rw [hd])

theorem related_checkDaily (daily : UInt64) (h : R s s') :
    (r.checkDaily p w now daily s).Related R (r.checkDaily p w now daily s') := by
  have hown : (r.checkOwnDaily p w now daily s).Related R (r.checkOwnDaily p w now daily s') :=
    Check.related_denyIf hR h _ (p.exceedsDaily_congr (hR.account _ h) _ _) _ rfl
  unfold checkDaily
  split_ifs
  · refine hown.andThen (fun s s' h => ?_)
    have hb := hR.account .shared h
    obtain ⟨-, -, -, hs⟩ := Bucket.account_eq_iff.mp hb
    refine Check.related_denyIf hR h _ ?_ _ rfl
    rw [hs, p.exceedsDaily_congr hb]
  · exact hown

theorem related_checkCost (cap : Float) (scope : Scope) (h : R s s') :
    (r.checkCost w now cap scope s).Related R (r.checkCost w now cap scope s') := by
  refine Check.related_denyIf hR h _ ?_ _ rfl
  rw [hR.historyCost _ h, Bucket.heldCost_congr (hR.account _ h)]

theorem related_checkLifetime (cap : Float) (h : R s s') :
    (r.checkLifetime w now cap s).Related R (r.checkLifetime w now cap s') := by
  have hown := r.related_checkCost hR cap r.ownScope h
  unfold checkLifetime
  split_ifs
  · exact hown.andThen (fun s s' h => r.related_checkCost hR cap .shared h)
  · exact hown

theorem related_check (limits : Limits) (h : R s s') :
    (r.check p w now limits s).Related R (r.check p w now limits s') := by
  have hlatch := r.related_checkLatch hR h
  have hdaily := fun d => hlatch.andThen (fun s s' h => r.related_checkDaily p hR d h)
  unfold check
  cases limits.dailyTokens with
  | none =>
    cases limits.lifetimeCost with
    | none => exact hlatch
    | some cap => exact hlatch.andThen (fun s s' h => r.related_checkLifetime hR cap h)
  | some d =>
    cases limits.lifetimeCost with
    | none => exact hdaily d
    | some cap => exact (hdaily d).andThen (fun s s' h => r.related_checkLifetime hR cap h)

end Request

theorem Ledger.related_canCall {R : LedgerState → LedgerState → Prop} {l l' : Ledger}
    {now : Instant} (r : Request) (hR : LedgerState.TellAlike R r.key.text (l.window now) now)
    (hpolicy : l.policy = l'.policy) (hexempt : l.state.exemptions = l'.state.exemptions)
    (h : R l.state l'.state) : (l.canCall now r).answer = (l'.canCall now r).answer ∧
      R (l.canCall now r).ledger.state (l'.canCall now r).ledger.state := by
  have hexemption : l.exemption? r.tenant = l'.exemption? r.tenant := by
    obtain ⟨h1, h2⟩ := Prod.mk.inj hexempt
    simp only [exemption?, h1, h2]
  have hwindow : l.window now = l'.window now := by rw [window, window, hpolicy]
  unfold canCall
  rw [← hexemption, ← hpolicy, ← hwindow]
  cases l.exemption? r.tenant with
  | some reason => exact ⟨rfl, h⟩
  | none =>
    dsimp only
    cases l.policy.limits.get? r.key with
    | none => exact ⟨rfl, h⟩
    | some limits =>
      dsimp only
      split_ifs
      · obtain ⟨hdenial, hstate⟩ := r.related_check l.policy hR limits h
        dsimp only
        rw [hdenial]
        exact ⟨rfl, hstate⟩
      · exact ⟨rfl, h⟩

end LaneQuota
