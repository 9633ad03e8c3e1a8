import LaneQuota.Proofs.Ledger.Alike
import LaneQuota.Proofs.Ledger.Journal

namespace LaneQuota

def Operation.showsWaiting : Operation → Bool
  | .history _ _ => true
  | .snapshot => true
  | _ => false

structure Step.Alike {α : Type} (w : Window) (x x' : Step α) : Prop where
  answer : x.answer = x'.answer
  eq : x'.ledger = { x.ledger with state := x'.ledger.state }
  state : x.ledger.state.Alike w x'.ledger.state

namespace Ledger

section Replies

variable (l : Ledger) (now : Instant) {s' : LedgerState}

theorem answer_canCall_congr (h : l.state.Alike (l.window now) s') (r : Request) :
    (l.canCall now r).answer = (canCall { l with state := s' } now r).answer := by
  have hR := LedgerState.tellAlike_alike (l.window now) now r.key.text
  refine (related_canCall r hR ?_ ?_ ?_).1
  · rfl
  · exact h.exemptions
  · exact h

theorem answer_ask_congr {α : Type} (h : l.state.Alike (l.window now) s') (key : LaneKey)
    (tenant : Option String) {f : Bucket → Float → α}
    (hf : ∀ b b' cost, b.account = b'.account → f b cost = f b' cost) :
    (l.ask now key tenant f).answer = (ask { l with state := s' } now key tenant f).answer := by
  have hcost := h.historyCost_current now (Scope.ofTenant tenant) key.text
  exact (hf _ _ _ (h.account_current now (Scope.ofTenant tenant) key.text)).trans
    (congrArg _ hcost)

theorem answer_usageRatio_congr (h : l.state.Alike (l.window now) s') (key : LaneKey)
    (tenant : Option String) :
    (l.usageRatio now key tenant).answer =
      (usageRatio { l with state := s' } now key tenant).answer := by
  unfold usageRatio
  dsimp only
  cases l.policy.limits.get? key with
  | none => rfl
  | some limits =>
    apply l.answer_ask_congr now h
    intro b b' cost hb
    obtain ⟨-, hu, -, -⟩ := Bucket.account_eq_iff.mp hb
    simp only [Limits.usageRatio, hu]

theorem answer_remainingBudget_congr (h : l.state.Alike (l.window now) s') (key : LaneKey)
    (tenant : Option String) :
    (l.remainingBudget now key tenant).answer =
      (remainingBudget { l with state := s' } now key tenant).answer := by
  apply l.answer_ask_congr now h
  intro b b' cost hb
  simp only [LedgerPolicy.remaining, Bucket.heldTokens_congr hb, Bucket.heldCost_congr hb]

theorem answer_asks_congr (h : l.state.Alike (l.window now) s') {op : Operation}
    (hask : op.asks = true) (hshow : op.showsWaiting = false) :
    (l.step now op).answer = (step { l with state := s' } now op).answer := by
  obtain ⟨h1, h2⟩ := Prod.mk.inj h.exemptions
  cases op with
  | reserve _ _ => contradiction
  | commit _ _ _ _ => contradiction
  | rollback _ _ => contradiction
  | toggleUnlimited _ _ => contradiction
  | applyReport _ _ _ => contradiction
  | history _ _ => contradiction
  | snapshot => contradiction
  | canCall r => exact congrArg Answer.decision (l.answer_canCall_congr now h r)
  | usageRatio key tenant =>
    exact congrArg Answer.ratio (l.answer_usageRatio_congr now h key tenant)
  | remainingBudget key tenant =>
    exact congrArg Answer.remaining (l.answer_remainingBudget_congr now h key tenant)
  | currentUsage key tenant =>
    exact congrArg Answer.usage (l.answer_ask_congr now h key tenant
      (fun _ _ _ hb => (Bucket.account_eq_iff.mp hb).2.1))
  | reservedUsage key tenant =>
    exact congrArg Answer.usage (l.answer_ask_congr now h key tenant
      (fun _ _ _ hb => (Bucket.account_eq_iff.mp hb).2.2.1))
  | hourly key tenant =>
    have hlog := h.hourly (Scope.ofTenant tenant) key.text
    exact congrArg (fun log => Answer.log (log.getD ∅)) hlog
  | isUnlimited tenant => simp only [step, look, isUnlimited, h1, h2]
  | unlimitedTenants => simp only [step, look, unlimitedTenants, h2]
  | reportRange days => rfl
  | orphanedCommits => rfl

end Replies

section Steps

variable (l : Ledger) (now : Instant) {s' : LedgerState}

theorem alike_reserve (h : l.state.Alike (l.window now) s') (id : String) (r : Request) :
    (l.reserve now id r).Alike (l.window now) (reserve { l with state := s' } now id r) := by
  unfold reserve
  dsimp only
  split_ifs
  · exact ⟨rfl, rfl, h⟩
  · exact ⟨rfl, rfl, h.hold r.key.text r.tenant r.estimate⟩

theorem alike_commit (h : l.state.Alike (l.window now) s') (id : String) (key : LaneKey)
    (tenant : Option String) (actual : Usage) :
    (l.commit now id key tenant actual).Alike (l.window now)
      (commit { l with state := s' } now id key tenant actual) := by
  unfold commit
  dsimp only
  cases l.reservations.get? id with
  | none => exact ⟨h.committedCost_spend l.policy key tenant actual, rfl, h.spend _ _ _ _⟩
  | some r =>
    have hr : (release l.state r (l.window now) now).Alike (l.window now)
        (release s' r (l.window now) now) := h.release r
    exact ⟨hr.committedCost_spend l.policy key tenant actual, rfl, hr.spend _ _ _ _⟩

theorem alike_rollback (h : l.state.Alike (l.window now) s') (id : String) (mode : RollbackMode) :
    (l.rollback now id mode).Alike (l.window now)
      (rollback { l with state := s' } now id mode) := by
  unfold rollback
  dsimp only
  cases l.reservations.get? id with
  | none => exact ⟨rfl, rfl, h⟩
  | some r =>
    have hr : (release l.state r (l.window now) now).Alike (l.window now)
        (release s' r (l.window now) now) := h.release r
    cases mode with
    | release => exact ⟨rfl, rfl, hr⟩
    | keep => exact ⟨rfl, rfl, hr.spend _ _ _ _⟩

theorem alike_applyReport (h : l.state.Alike (l.window now) s') (key : LaneKey) (start : Date)
    (reported : UInt64) :
    (l.applyReport now key start reported).Alike (l.window now)
      (applyReport { l with state := s' } now key start reported) := by
  have hknown : l.known? now key start = known? { l with state := s' } now key start :=
    Cell.known?_congr (h.cell .shared key.text) start.text
  refine ⟨?_, ?_, ?_, fun scope key' => ?_, fun scope key' => ?_⟩
  · rw [answer_applyReport, answer_applyReport, hknown]
  · rw [ledger_applyReport, ledger_applyReport l]
  · rw [exemptions_applyReport, exemptions_applyReport, h.exemptions]
  · rw [hourly?_applyReport, hourly?_applyReport, h.hourly]
  · rw [cell_applyReport, cell_applyReport, drift?_eq, drift?_eq, hknown]
    split_ifs
    · split
      · rw [Cell.accounts_moved]
        exact (h.cell .shared key.text).trans (Cell.accounts_moved _ _ now).symm
      · exact Cell.accounts_reporting (h.cell .shared key.text) _ _
    · exact h.cell scope key'

theorem alike_toggleUnlimited {w : Window} (h : l.state.Alike w s') (enabled : Bool)
    (tenant : Option String) :
    (l.toggleUnlimited enabled tenant).Alike w
      (toggleUnlimited { l with state := s' } enabled tenant) := by
  obtain ⟨h1, h2⟩ := Prod.mk.inj h.exemptions
  refine ⟨rfl, ?_, ?_, fun scope key => ?_, fun scope key => ?_⟩
  · cases tenant with
    | none => rfl
    | some t => cases enabled <;> rfl
  · cases tenant with
    | none => exact Prod.ext rfl h2
    | some t => cases enabled <;> simp [toggleUnlimited, LedgerState.exemptions, h1, h2]
  · rw [hourly?_toggleUnlimited, hourly?_toggleUnlimited, h.hourly]
  · rw [cell_toggleUnlimited, cell_toggleUnlimited]
    exact h.cell scope key

theorem alike_acts (h : l.state.Alike (l.window now) s') {op : Operation} (hact : op.asks = false) :
    (l.step now op).Alike (l.window now) (step { l with state := s' } now op) := by
  have hmap : ∀ {α : Type} {x x' : Step α} (f : α → Answer), x.Alike (l.window now) x' →
      (x.map f).Alike (l.window now) (x'.map f) := fun f hx =>
    ⟨congrArg f hx.answer, hx.eq, hx.state⟩
  cases op with
  | reserve id r => exact hmap (fun _ => .done) (l.alike_reserve now h id r)
  | commit id key tenant actual => exact hmap _ (l.alike_commit now h id key tenant actual)
  | rollback id mode => exact hmap (fun _ => .done) (l.alike_rollback now h id mode)
  | toggleUnlimited enabled tenant =>
    exact hmap (fun _ => .done) (l.alike_toggleUnlimited h enabled tenant)
  | applyReport key start reported => exact hmap _ (l.alike_applyReport now h key start reported)
  | _ => contradiction

end Steps

structure Alike (n : ℤ) (l l' : Ledger) : Prop where
  eq : l' = { l with state := l'.state }
  state : ∀ w, w.day = dayText n → l.state.Alike w l'.state
  dated : ∀ scope key, (l.state.cell scope key).Dated n
  dated' : ∀ scope key, (l'.state.cell scope key).Dated n

section Runs

variable {l l' : Ledger} {n : ℤ} {now : Instant} {op : Operation}

theorem day_window (hn : l.policy.zone.dayNumber now = n) : (l.window now).day = dayText n := by
  rw [← hn]
  rfl

theorem dated_step (h : ∀ scope key, (l.state.cell scope key).Dated n)
    (hn : l.policy.zone.dayNumber now = n) (op : Operation) (scope : Scope) (key : String) :
    ((l.step now op).ledger.state.cell scope key).Dated n :=
  (l.gains_step now op scope key).dated (h scope key) (day_window hn)

namespace Alike

theorem policy (h : l.Alike n l') : l'.policy = l.policy := by
  rw [h.eq]

theorem symm (h : l.Alike n l') : l'.Alike n l := by
  refine ⟨?_, fun w hw => (h.state w hw).symm, h.dated', h.dated⟩
  rw [h.eq]

theorem start (p : LedgerPolicy) (n : ℤ) : (start p).Alike n (start p) := by
  have hdated : ∀ scope key, ((Ledger.start p).state.cell scope key).Dated n := by
    intro scope key b hb
    cases scope <;> contradiction
  exact ⟨rfl, fun w _ => ⟨rfl, fun _ _ => rfl, fun _ _ => rfl⟩, hdated, hdated⟩

theorem mono (h : l.Alike n l') {m : ℤ} (hle : n ≤ m) : l.Alike m l' := by
  rcases hle.eq_or_lt with rfl | hlt
  · exact h
  have hnow := h.state ⟨dayText n, ""⟩ rfl
  refine ⟨h.eq, fun w hw => ⟨hnow.exemptions, hnow.hourly, fun scope key => ?_⟩,
    fun scope key => (h.dated scope key).mono hle, fun scope key => (h.dated' scope key).mono hle⟩
  rw [Cell.accounts_later (h.dated scope key) ⟨dayText n, ""⟩ hw hlt,
    Cell.accounts_later (h.dated' scope key) ⟨dayText n, ""⟩ hw hlt, hnow.cell]

theorem asked (h : l.Alike n l') (hn : l.policy.zone.dayNumber now = n) (hask : op.asks = true) :
    (l.step now op).ledger.Alike n l' := by
  obtain ⟨s, -, heq⟩ := l.looksTo_step now hask
  refine ⟨?_, fun w hw => ?_, dated_step h.dated hn op, h.dated'⟩
  · rw [heq, h.eq]
  · refine LedgerState.Alike.window ?_ ((day_window hn).trans hw.symm)
    exact keeps_step (fun s => s.Alike (l.window now) l'.state)
      (fun s scope key hs => hs.current_left scope key) (h.state _ (day_window hn)) hask

theorem step (h : l.Alike n l') (hn : l.policy.zone.dayNumber now = n) (op : Operation) :
    (l.step now op).ledger.Alike n (l'.step now op).ledger := by
  have hn' : l'.policy.zone.dayNumber now = n := by rw [h.policy, hn]
  cases hask : op.asks with
  | true => exact ((h.asked hn hask).symm.asked hn' hask).symm
  | false =>
    have hacts := l.alike_acts now (h.state _ (day_window hn)) hask
    rw [← h.eq] at hacts
    exact ⟨hacts.eq, fun w hw => hacts.state.window ((day_window hn).trans hw.symm),
      dated_step h.dated hn op, dated_step h.dated' hn' op⟩

theorem answer (h : l.Alike n l') (hn : l.policy.zone.dayNumber now = n)
    (hshow : op.showsWaiting = false) : (l.step now op).answer = (l'.step now op).answer := by
  have hstate := h.state _ (day_window hn)
  rw [h.eq]
  cases hask : op.asks with
  | true => exact l.answer_asks_congr now hstate hask hshow
  | false => exact (l.alike_acts now hstate hask).answer

end Alike

end Runs

end Ledger

structure Call where
  now : Instant
  op : Operation
  extra : Bool

namespace Ledger

def schedule (calls : List Call) : Schedule := calls.map (fun c => (c.now, c.op))

def replies (l : Ledger) (calls : List Call) : List Answer :=
  ((calls.zip (l.run (schedule calls)).2).filter
    (fun x => !x.1.extra && !x.1.op.showsWaiting)).map Prod.snd

variable {l l' : Ledger} {n : ℤ}

theorem replies_cons (l : Ledger) (c : Call) (calls : List Call) : l.replies (c :: calls) =
    (if !c.extra && !c.op.showsWaiting then [(l.step c.now c.op).answer] else []) ++
      (l.step c.now c.op).ledger.replies calls := by
  simp only [replies, schedule, List.map_cons, run, List.zip_cons_cons, List.filter_cons]
  split_ifs <;> rfl

theorem Alike.replies {calls : List Call} (h : l.Alike n l')
    (hn : ∀ c ∈ calls, n ≤ l.policy.zone.dayNumber c.now)
    (hclock : (schedule calls).Ascending l.policy.zone)
    (hextra : ∀ c ∈ calls, c.extra = true → c.op.asks = true) :
    l.replies calls = l'.replies (calls.filter (fun c => !c.extra)) := by
  induction calls generalizing l l' n with
  | nil => rfl
  | cons c calls ih =>
    have hnow := h.mono (hn c List.mem_cons_self)
    obtain ⟨hle, hclock'⟩ := List.pairwise_cons.mp hclock
    have hpolicy := (l.effect_step c.now c.op).policy
    have hrest : ∀ l'', (l.step c.now c.op).ledger.Alike (l.policy.zone.dayNumber c.now) l'' →
        (l.step c.now c.op).ledger.replies calls =
          l''.replies (calls.filter (fun c => !c.extra)) := by
      intro l'' h''
      refine ih h'' (fun d hd => ?_) ?_ (fun d hd => hextra d (List.mem_cons_of_mem c hd))
      · rw [hpolicy]
        exact hle _ (List.mem_map_of_mem (List.mem_map_of_mem (f := fun c => (c.now, c.op)) hd))
      · rw [hpolicy]
        exact hclock'
    rw [replies_cons]
    cases hx : c.extra with
    | true =>
      have hask := hextra c List.mem_cons_self hx
      simpa [hx] using hrest _ (hnow.asked rfl hask)
    | false =>
      simp only [List.filter_cons, hx, Bool.not_false, if_true, replies_cons, Bool.true_and]
      rw [hrest _ (hnow.step rfl c.op)]
      cases hshow : c.op.showsWaiting with
      | true => rfl
      | false => rw [hnow.answer rfl hshow]

theorem replies_without_queries (p : LedgerPolicy) (calls : List Call)
    (hclock : (schedule calls).Ascending p.zone)
    (hextra : ∀ c ∈ calls, c.extra = true → c.op.asks = true) :
    (start p).replies (calls.filter (fun c => !c.extra)) = (start p).replies calls := by
  obtain ⟨n, hn⟩ := hclock.exists_le
  refine ((Alike.start p n).replies (fun c hc => ?_) hclock hextra).symm
  exact hn _ (List.mem_map_of_mem hc)

def askedOverMidnight : List Call := [
  ⟨noon 1, .canCall ⟨sampleLane, some "ann", .ofTokens 40 0⟩, false⟩,
  ⟨noon 1, .reserve "a" ⟨sampleLane, some "ann", .ofTokens 40 0⟩, false⟩,
  ⟨noon 1, .commit "b" sampleLane (some "bob") (.ofTokens 90 20), false⟩,
  ⟨noon 1, .canCall ⟨sampleLane, some "ann", .ofTokens 40 0⟩, false⟩,
  ⟨noon 2, .currentUsage sampleLane none, true⟩,
  ⟨noon 2, .canCall ⟨sampleLane, some "ann", .ofTokens 1 0⟩, true⟩,
  ⟨noon 2, .commit "a" sampleLane (some "ann") (.ofTokens 60 0), false⟩,
  ⟨noon 3, .usageRatio sampleLane (some "bob"), true⟩,
  ⟨noon 3, .applyReport sampleLane (Date.ofDayNumber 1) 300, false⟩,
  ⟨noon 3, .canCall ⟨sampleLane, none, .ofTokens 1 0⟩, false⟩]

theorem replies_without_queries_overMidnight :
    (start (samplePolicy ⟨some 100, none, true⟩)).replies askedOverMidnight = [
      .decision (.allow "within quota"), .done, .cost 0.0,
      .decision (.deny .sharedDailyTokens "shared daily token limit reached for burn:anthropic"
        LedgerSettings.standard.fallbackKey),
      .cost 0.0, .outcome ⟨true, 130⟩,
      .decision (.deny .hardStopped "burn:anthropic is hard-stopped for 1970-01-04"
        LedgerSettings.standard.fallbackKey)] := by
  rw [← replies_without_queries _ askedOverMidnight (by decide +kernel) (by decide +kernel)]
  decide +kernel

end Ledger

end LaneQuota
