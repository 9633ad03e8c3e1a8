import LaneQuota.Proofs.Ledger.Alike
import LaneQuota.Proofs.Ledger.Journal

namespace LaneQuota

namespace Schedule

def EndsOn (zone : Zone) (ops : Schedule) (n : ℤ) : Prop :=
  ∃ before later, ops = before ++ later ∧ (∀ x ∈ before, zone.dayNumber x.1 ≠ n) ∧
    ∀ x ∈ later, zone.dayNumber x.1 = n

variable {zone : Zone} {ops : Schedule} {n : ℤ}

theorem Ascending.endsOn (h : ops.Ascending zone) (hn : ∀ x ∈ ops, zone.dayNumber x.1 ≤ n) :
    ops.EndsOn zone n := by
  induction ops with
  | nil => exact ⟨[], [], rfl, by simp, by simp⟩
  | cons x rest ih =>
    obtain ⟨hle, hasc⟩ := h.of_cons
    by_cases hx : zone.dayNumber x.1 = n
    · refine ⟨[], x :: rest, rfl, by simp, fun y hy => ?_⟩
      rcases List.mem_cons.mp hy with rfl | hrest
      · exact hx
      · have hxy : zone.dayNumber x.1 ≤ zone.dayNumber y.1 := hle y hrest
        have hyn := hn y hy
        omega
    · obtain ⟨before, later, rfl, hbefore, hlater⟩ :=
        ih hasc (fun y hy => hn y (List.mem_cons_of_mem x hy))
      refine ⟨x :: before, later, rfl, fun y hy => ?_, hlater⟩
      rcases List.mem_cons.mp hy with rfl | hy
      · exact hx
      · exact hbefore y hy

end Schedule

namespace Cell

variable {c c' : Cell} {w : Window} {now : Instant} {k : ℕ × ℕ} {day : String}

def Unretired (c : Cell) (day : String) : Prop := ∀ b ∈ c.history, b.day ≠ day

def Untouched (c : Cell) (day : String) : Prop := ∀ b ∈ c.buckets, b.day ≠ day

theorem Untouched.unretired (h : c.Untouched day) : c.Unretired day :=
  fun b hb => h b (List.mem_append_left _ hb)

theorem Unretired.archive (h : c.Unretired w.day) : ∀ b ∈ c.archive w, b.day ≠ w.day := by
  intro b hb
  rcases mem_archive hb with hb | ⟨-, hday⟩
  · exact h b hb
  · exact hday

theorem Gains.unretired (hg : c.Gains w now k c') (h : c.Unretired w.day) :
    c'.Unretired w.day := by
  rcases hg with ⟨rfl, -⟩ | ⟨f, -, rfl⟩
  · exact h
  · exact h.archive

theorem Gains.untouched (hg : c.Gains w now k c') (hw : w.day ≠ day) (h : c.Untouched day) :
    c'.Untouched day := by
  rcases hg with ⟨rfl, -⟩ | ⟨f, hf, rfl⟩
  · exact h
  · intro b hb
    rcases List.mem_append.mp hb with hb | hb
    · rcases mem_archive hb with hb | ⟨hlive, -⟩
      · exact h.unretired b hb
      · apply h b
        rw [buckets, hlive]
        simp
    · obtain rfl : b = f (c.seen w now) := by simpa [adjust] using hb
      rw [(hf _).1, c.day_seen]
      exact hw

theorem recorded_eq_retired_add_seen (c : Cell) (w : Window) (now : Instant) :
    c.recorded w.day = (mk none (c.archive w)).recorded w.day + (c.seen w now).used.counts := by
  rw [recorded, ← c.usedOn_moved w now, moved, adjust, usedOn_mk, id_eq, if_pos (c.day_seen w now)]
  rfl

theorem recorded_retired (h : c.Unretired w.day) : (mk none (c.archive w)).recorded w.day = 0 := by
  have hnone : (mk none (c.archive w)).buckets.filter (fun b => b.day = w.day) = [] := by
    rw [List.filter_eq_nil_iff]
    intro b hb
    simpa using h.archive b (by simpa [buckets] using hb)
  rw [recorded, usedOn, hnone]
  rfl

end Cell

theorem LedgerState.rolled_current_iff (s : LedgerState) (scope : Scope) (key : String) (w : Window)
    (now : Instant) : (s.current scope key w now).rolled = true ↔
      ∃ b, s.bucket? scope key = some b ∧ b.day ≠ w.day := by
  simp only [current, bucket?_makeRoom]
  cases s.bucket? scope key with
  | none => simp
  | some b =>
    dsimp only
    by_cases hd : b.day = w.day <;> simp [hd]

namespace Ledger

def usedToday (l : Ledger) (now : Instant) (scope : Scope) (key : String) : Usage :=
  (l.state.current scope key (l.window now) now).bucket.used

/-- Tokens in buckets that are of this day and were retired all the same. -/
def forgotten (l : Ledger) (now : Instant) (scope : Scope) (key : String) : ℕ × ℕ :=
  (Cell.mk none ((l.state.current scope key (l.window now) now).state.history scope key)).recorded
    (l.window now).day

section Today

variable (l : Ledger) (now : Instant) (scope : Scope) (key : String)

theorem usedToday_eq :
    l.usedToday now scope key = ((l.state.cell scope key).seen (l.window now) now).used := by
  rw [usedToday, LedgerState.bucket_current]

theorem forgotten_eq : l.forgotten now scope key =
    (Cell.mk none ((l.state.cell scope key).archive (l.window now))).recorded
      (l.window now).day := by
  have hcell := l.state.cell_current scope scope key key (l.window now) now
  rw [if_pos ⟨rfl, rfl⟩] at hcell
  have hhistory := congrArg Cell.history hcell
  exact congrArg (fun bs => (Cell.mk none bs).recorded (l.window now).day) hhistory

end Today

section Runs

variable {l : Ledger} {ops : Schedule} {scope : Scope} {key : String} {n : ℤ}

theorem untouched_after (h : (l.state.cell scope key).Untouched (dayText n))
    (hops : ∀ x ∈ ops, l.policy.zone.dayNumber x.1 ≠ n) :
    ((l.after ops).state.cell scope key).Untouched (dayText n) := by
  induction ops generalizing l with
  | nil => exact h
  | cons x rest ih =>
    obtain ⟨now, op⟩ := x
    have hpolicy := (l.effect_step now op).policy
    have hday : (l.window now).day ≠ dayText n := fun hd =>
      hops _ List.mem_cons_self (dayText_injective hd)
    rw [after_cons]
    apply ih ((l.gains_step now op scope key).untouched hday h)
    intro y hy
    rw [hpolicy]
    exact hops y (List.mem_cons_of_mem _ hy)

theorem unretired_after (h : (l.state.cell scope key).Unretired (dayText n))
    (hops : ∀ x ∈ ops, l.policy.zone.dayNumber x.1 = n) :
    ((l.after ops).state.cell scope key).Unretired (dayText n) := by
  induction ops generalizing l with
  | nil => exact h
  | cons x rest ih =>
    obtain ⟨now, op⟩ := x
    have hpolicy := (l.effect_step now op).policy
    have hday : (l.window now).day = dayText n := congrArg dayText (hops _ List.mem_cons_self)
    have hstep := (l.gains_step now op scope key).unretired (by rwa [hday])
    rw [hday] at hstep
    rw [after_cons]
    apply ih hstep
    intro y hy
    rw [hpolicy]
    exact hops y (List.mem_cons_of_mem _ hy)

theorem dated_after (h : ∀ scope key, (l.state.cell scope key).Dated n)
    (hops : ∀ x ∈ ops, l.policy.zone.dayNumber x.1 ≤ n) (scope : Scope) (key : String) :
    ((l.after ops).state.cell scope key).Dated n := by
  induction ops generalizing l with
  | nil => exact h scope key
  | cons x rest ih =>
    obtain ⟨now, op⟩ := x
    have hpolicy := (l.effect_step now op).policy
    rw [after_cons]
    refine ih (fun scope key b hb => ?_) (fun y hy => ?_)
    · rcases l.gains_step now op scope key with ⟨hc, -⟩ | ⟨f, hf, hc⟩ <;> rw [hc] at hb
      · exact h scope key b hb
      · refine ⟨_, hops _ List.mem_cons_self, ?_⟩
        rw [← Option.some.inj hb, (hf _).1, Cell.day_seen]
        rfl
    · rw [hpolicy]
      exact hops y (List.mem_cons_of_mem _ hy)

theorem forgotten_of_endsOn (p : LedgerPolicy) (now : Instant) (scope : Scope) (key : String)
    (h : ops.EndsOn p.zone (p.zone.dayNumber now)) :
    ((start p).after ops).forgotten now scope key = 0 := by
  obtain ⟨before, later, rfl, hbefore, hlater⟩ := h
  have hstart : ((start p).state.cell scope key).Untouched (dayText (p.zone.dayNumber now)) := by
    intro b hb
    cases scope <;> contradiction
  have hun := untouched_after hstart hbefore
  have hlater' : ∀ x ∈ later, ((start p).after before).policy.zone.dayNumber x.1 =
      p.zone.dayNumber now := by
    rw [policy_after]
    exact hlater
  have hret := unretired_after hun.unretired hlater'
  rw [← after_append] at hret
  have hday : (((start p).after (before ++ later)).window now).day =
      dayText (p.zone.dayNumber now) := by
    rw [window, policy_after]
    rfl
  rw [forgotten_eq]
  exact Cell.recorded_retired (by rwa [hday])

end Runs

/-- What a lookup finds used on a day, whatever was looked at before, and what was forgotten of the
day are all that was posted on it. Nothing is forgotten if the day was not left before, so in
particular while the days do not go back; and then only a bucket of an earlier day is replaced. -/
theorem usedToday_add_forgotten_eq_entered (p : LedgerPolicy) (ops : Schedule) (now : Instant)
    (scope : Scope) (key : String)
    (hfit : Fits (Posting.entered ((start p).journal ops) .shared key
      ((start p).window now).day)) :
    (∀ s, Looked ((start p).window now) now ((start p).after ops).state s →
      (s.current scope key ((start p).window now) now).bucket.used =
        ((start p).after ops).usedToday now scope key) ∧
    (((start p).after ops).usedToday now scope key).counts +
        ((start p).after ops).forgotten now scope key =
      Posting.entered ((start p).journal ops) scope key ((start p).window now).day ∧
    (ops.EndsOn p.zone (p.zone.dayNumber now) →
      (((start p).after ops).usedToday now scope key).counts =
        Posting.entered ((start p).journal ops) scope key ((start p).window now).day) ∧
    (ops.Ascending p.zone → (∀ x ∈ ops, p.zone.dayNumber x.1 ≤ p.zone.dayNumber now) →
      ops.EndsOn p.zone (p.zone.dayNumber now) ∧
      ((((start p).after ops).state.current scope key ((start p).window now) now).rolled = true →
        ∃ b, ((start p).after ops).state.bucket? scope key = some b ∧
          ∃ m < p.zone.dayNumber now, b.day = dayText m)) := by
  have hwindow : ((start p).after ops).window now = (start p).window now := by
    rw [window, policy_after]
    rfl
  have hle := Posting.enteredOn_le_shared (fun d => d = ((start p).window now).day)
    ((start p).journal ops) scope key
  have hrecorded := usedOn_after (fun d => d = ((start p).window now).day) scope key (start p) ops
  rw [usedOn_start, zero_add] at hrecorded
  have hsum : (((start p).after ops).usedToday now scope key).counts +
      ((start p).after ops).forgotten now scope key =
      Posting.entered ((start p).journal ops) scope key ((start p).window now).day := by
    rw [usedToday_eq, forgotten_eq, hwindow, add_comm, ← Cell.recorded_eq_retired_add_seen]
    exact hrecorded (hfit.mono hle)
  refine ⟨fun s hs => ?_, hsum, fun hends => ?_, fun hasc hbound =>
    ⟨hasc.endsOn hbound, fun hrolled => ?_⟩⟩
  · rw [LedgerState.bucket_current, hs.seen, usedToday_eq, hwindow]
  · rw [← hsum, forgotten_of_endsOn p now scope key hends, add_zero]
  · obtain ⟨b, hb, hday⟩ := (LedgerState.rolled_current_iff _ _ _ _ _).mp hrolled
    have hstart : ∀ scope key, ((start p).state.cell scope key).Dated (p.zone.dayNumber now) := by
      intro scope key b hb
      cases scope <;> contradiction
    obtain ⟨m, hm, hbday⟩ := dated_after hstart hbound scope key b hb
    refine ⟨b, hb, m, lt_of_le_of_ne hm (fun heq => hday ?_), hbday⟩
    rw [hbday, heq]
    rfl

def setBackOnce : Schedule := [
  (noon 3, .commit "x" sampleLane (some "bob") (.ofTokens 30 5)),
  (noon 2, .commit "y" sampleLane (some "ann") (.ofTokens 4 1)),
  (noon 2, .canCall ⟨sampleLane, some "bob", .ofTokens 1 0⟩)]

theorem usedToday_setBackOnce :
    (((start (samplePolicy ⟨some 100, none, true⟩)).after setBackOnce).usedToday (noon 2) .shared
      sampleLane.text).counts = (4, 1) ∧
    ∃ b, ((start (samplePolicy ⟨some 100, none, true⟩)).after setBackOnce.tail).state.bucket?
        .shared sampleLane.text = some b ∧ ∃ m < (3 : ℤ), b.day = dayText m := by
  have hback := usedToday_add_forgotten_eq_entered (samplePolicy ⟨some 100, none, true⟩) setBackOnce
    (noon 2) .shared sampleLane.text (by decide +kernel)
  have hforward := usedToday_add_forgotten_eq_entered (samplePolicy ⟨some 100, none, true⟩)
    setBackOnce.tail (noon 3) .shared sampleLane.text (by decide +kernel)
  constructor
  · rw [hback.2.2.1 ⟨setBackOnce.take 1, setBackOnce.drop 1, rfl, by decide +kernel,
      by decide +kernel⟩]
    decide +kernel
  · have hday : (samplePolicy ⟨some 100, none, true⟩).zone.dayNumber (noon 3) = 3 := by
      decide +kernel
    have hold := (hforward.2.2.2 (by decide +kernel) (by decide +kernel)).2 (by decide +kernel)
    rwa [hday] at hold

def leftAndBack : Schedule := [
  (noon 2, .commit "x" sampleLane none (.ofTokens 100 0)),
  (noon 3, .currentUsage sampleLane none)]

/-- A limit of one hundred tokens a day, all of them spent: the day comes back and with it the whole
limit, since a bucket of a later day is replaced. -/
theorem limit_returns_leftAndBack :
    Fits (Posting.entered ((start (samplePolicy ⟨some 100, none, true⟩)).journal leftAndBack)
      .shared sampleLane.text (dayText 2)) ∧
    Posting.entered ((start (samplePolicy ⟨some 100, none, true⟩)).journal leftAndBack) .shared
      sampleLane.text (dayText 2) = (100, 0) ∧
    ((((start (samplePolicy ⟨some 100, none, true⟩)).after leftAndBack).currentUsage (noon 2)
      sampleLane none).answer).counts = (0, 0) ∧
    (((start (samplePolicy ⟨some 100, none, true⟩)).after leftAndBack).canCall (noon 2)
      ⟨sampleLane, none, .ofTokens 90 0⟩).answer.allowed = true ∧
    ((((start (samplePolicy ⟨some 100, none, true⟩)).after leftAndBack).state.bucket? .shared
      sampleLane.text).map Bucket.day = some (dayText 3)) ∧
    (((start (samplePolicy ⟨some 100, none, true⟩)).after leftAndBack).state.current .shared
      sampleLane.text ((start (samplePolicy ⟨some 100, none, true⟩)).window (noon 2))
      (noon 2)).rolled = true := by
  decide +kernel

end Ledger

end LaneQuota
