import LaneQuota.Proofs.Ledger.Cell

namespace LaneQuota

structure Looked (w : Window) (now : Instant) (s s' : LedgerState) : Prop where
  exemptions : s'.exemptions = s.exemptions
  cell : ∀ scope key, s'.cell scope key = s.cell scope key ∨
    s'.cell scope key = (s.cell scope key).moved w now

namespace Looked

variable {w : Window} {now : Instant} {s s' s'' : LedgerState}

theorem refl (w : Window) (now : Instant) (s : LedgerState) : Looked w now s s :=
  ⟨rfl, fun _ _ => Or.inl rfl⟩

theorem seen (h : Looked w now s s') (scope : Scope) (key : String) :
    (s'.cell scope key).seen w now = (s.cell scope key).seen w now := by
  rcases h.cell scope key with h | h
  · rw [h]
  · rw [h, Cell.seen_moved]

theorem archive (h : Looked w now s s') (scope : Scope) (key : String) :
    (s'.cell scope key).archive w = (s.cell scope key).archive w := by
  rcases h.cell scope key with h | h
  · rw [h]
  · rw [h, Cell.archive_moved]

theorem trans (h : Looked w now s s') (h' : Looked w now s' s'') : Looked w now s s'' := by
  refine ⟨h'.exemptions.trans h.exemptions, fun scope key => ?_⟩
  rcases h'.cell scope key with h'' | h''
  · rw [h'']
    exact h.cell scope key
  · right
    rw [h'', Cell.moved, Cell.moved, Cell.adjust, Cell.adjust, h.seen, h.archive]

theorem current (s : LedgerState) (scope : Scope) (key : String) (w : Window) (now : Instant) :
    Looked w now s (s.current scope key w now).state := by
  refine ⟨s.exemptions_current scope key w now, fun scope' key' => ?_⟩
  rw [LedgerState.cell_current]
  split_ifs with h
  · rw [← h.1, ← h.2]
    exact Or.inr rfl
  · exact Or.inl rfl

end Looked

def Cell.spent (c : Cell) (w : Window) (now : Instant) : Float :=
  archivedCost (c.archive w) + (c.seen w now).heldCost

abbrev Grounds := List (Bool × ExhaustedBudget)

def Grounds.first (gs : Grounds) : Option ExhaustedBudget := (gs.find? Prod.fst).map Prod.snd

namespace Grounds

variable {gs gs' : Grounds}

theorem first_cons (found : Bool) (b : ExhaustedBudget) (gs : Grounds) :
    first ((found, b) :: gs) = if found then some b else first gs := by
  cases found <;> rfl

theorem first_append : (gs ++ gs').first = gs.first.or gs'.first := by
  rw [first, List.find?_append, Option.map_or]
  rfl

theorem first_eq_none_iff : gs.first = none ↔ ∀ g ∈ gs, g.1 = false := by
  rw [first, Option.map_eq_none_iff, List.find?_eq_none]
  simp only [Bool.not_eq_true]

end Grounds

namespace Check

variable {w : Window} {now : Instant} {s : LedgerState} {gs gs' : Grounds}

/-- A check denies on the first of its grounds and only looks at buckets. -/
def Weighs (w : Window) (now : Instant) (s : LedgerState) (c : Check) (gs : Grounds) : Prop :=
  Looked w now s c.state ∧ c.denial.map Prod.fst = gs.first

theorem Weighs.andThen {c : Check} {next : LedgerState → Check} (hc : c.Weighs w now s gs)
    (hn : ∀ s', Looked w now s s' → (next s').Weighs w now s gs') :
    (c.andThen next).Weighs w now s (gs ++ gs') := by
  obtain ⟨hlook, hfirst⟩ := hc
  unfold Weighs Check.andThen
  rw [Grounds.first_append, ← hfirst]
  cases hd : c.denial with
  | some d =>
    rw [hd]
    exact ⟨hlook, rfl⟩
  | none => exact hn c.state hlook

theorem weighs_denyIf {s' : LedgerState} (scope : Scope) (key : String) {condition found : Bool}
    (budget : ExhaustedBudget) (reason : String) (hs : Looked w now s s')
    (hfound : condition = found) :
    (denyIf (s'.current scope key w now) condition budget reason).Weighs w now s
      [(found, budget)] := by
  refine ⟨hs.trans (Looked.current s' scope key w now), ?_⟩
  subst hfound
  cases condition <;> rfl

end Check

namespace Request

variable (r : Request) (p : LedgerPolicy) (w : Window) (now : Instant) {s s' : LedgerState}

def dailyGrounds (s : LedgerState) (d : UInt64) : Grounds :=
  let own := (s.cell r.ownScope r.key.text).seen w now
  let shared := (s.cell .shared r.key.text).seen w now
  if r.tenant.isSome then
    [(p.exceedsDaily own r.estimate d, .dailyTokens),
      (shared.hardStopped || p.exceedsDaily shared r.estimate d, .sharedDailyTokens)]
  else [(p.exceedsDaily own r.estimate d, .sharedDailyTokens)]

def costGrounds (s : LedgerState) (cap : Float) : Grounds :=
  (Scope.charged r.tenant).map (fun scope =>
    (decide (cap < (s.cell scope r.key.text).spent w now + r.estimate.cost), .lifetimeCost))

def grounds (limits : Limits) (s : LedgerState) : Grounds :=
  (((s.cell r.ownScope r.key.text).seen w now).hardStopped, .hardStopped) ::
    (limits.dailyTokens.elim [] (r.dailyGrounds p w now s) ++
      limits.lifetimeCost.elim [] (r.costGrounds w now s))

theorem weighs_checkCost (cap : Float) (scope : Scope) (hs : Looked w now s s') :
    (r.checkCost w now cap scope s').Weighs w now s
      [(decide (cap < (s.cell scope r.key.text).spent w now + r.estimate.cost), .lifetimeCost)] := by
  refine Check.weighs_denyIf _ _ _ _ hs ?_
  rw [LedgerState.bucket_current, LedgerState.historyCost_current, hs.seen, hs.archive]
  rfl

theorem weighs_checkDaily (d : UInt64) (hs : Looked w now s s') :
    (r.checkDaily p w now d s').Weighs w now s (r.dailyGrounds p w now s d) := by
  have hseen : ∀ {s'} scope, Looked w now s s' → (s'.current scope r.key.text w now).bucket =
      (s.cell scope r.key.text).seen w now := by
    intro s' scope h
    rw [LedgerState.bucket_current, h.seen]
  have hown : (r.checkOwnDaily p w now d s').Weighs w now s
      [(p.exceedsDaily ((s.cell r.ownScope r.key.text).seen w now) r.estimate d,
        if r.tenant.isSome then .dailyTokens else .sharedDailyTokens)] :=
    Check.weighs_denyIf _ _ _ _ hs (by rw [hseen _ hs])
  unfold checkDaily dailyGrounds
  split_ifs with ht
  · rw [if_pos ht] at hown
    refine hown.andThen (fun s' h => Check.weighs_denyIf _ _ _ _ h ?_)
    rw [hseen _ h]
  · rwa [if_neg ht] at hown

theorem weighs_checkLifetime (cap : Float) (hs : Looked w now s s') :
    (r.checkLifetime w now cap s').Weighs w now s (r.costGrounds w now s cap) := by
  have hown := r.weighs_checkCost w now cap r.ownScope hs
  unfold checkLifetime costGrounds
  cases ht : r.tenant with
  | none =>
    rw [ownScope, ht] at hown ⊢
    exact hown
  | some t =>
    rw [ownScope, ht] at hown ⊢
    exact hown.andThen (fun _ h => r.weighs_checkCost w now cap .shared h)

theorem weighs_check (limits : Limits) (s : LedgerState) :
    (r.check p w now limits s).Weighs w now s (r.grounds p w now limits s) := by
  have hlatch : (r.checkLatch w now s).Weighs w now s
      [(((s.cell r.ownScope r.key.text).seen w now).hardStopped, .hardStopped)] :=
    Check.weighs_denyIf _ _ _ _ (Looked.refl w now s) (by rw [LedgerState.bucket_current])
  have hdaily := fun d => hlatch.andThen (fun _ h => r.weighs_checkDaily p w now d h)
  have hlifetime := fun cap {s'} (h : Looked w now s s') => r.weighs_checkLifetime w now cap h
  unfold check grounds
  cases limits.dailyTokens with
  | none =>
    cases limits.lifetimeCost with
    | none => exact hlatch
    | some cap => exact hlatch.andThen (fun _ h => hlifetime cap h)
  | some d =>
    cases limits.lifetimeCost with
    | none => simpa using hdaily d
    | some cap => simpa using (hdaily d).andThen (fun _ h => hlifetime cap h)

structure Admitted (limits : Limits) (s : LedgerState) : Prop where
  latch : ((s.cell r.ownScope r.key.text).seen w now).hardStopped = false
  daily : ∀ d, limits.dailyTokens = some d →
    p.exceedsDaily ((s.cell r.ownScope r.key.text).seen w now) r.estimate d = false ∧
      (r.tenant.isSome = true → ((s.cell .shared r.key.text).seen w now).hardStopped = false ∧
        p.exceedsDaily ((s.cell .shared r.key.text).seen w now) r.estimate d = false)
  lifetime : ∀ cap, limits.lifetimeCost = some cap →
    (¬cap < (s.cell r.ownScope r.key.text).spent w now + r.estimate.cost) ∧
      (r.tenant.isSome = true →
        ¬cap < (s.cell .shared r.key.text).spent w now + r.estimate.cost)

variable {r p w now} in
theorem Admitted.looked {limits : Limits} (h : r.Admitted p w now limits s)
    (hs : Looked w now s s') : r.Admitted p w now limits s' := by
  obtain ⟨hlatch, hdaily, hlife⟩ := h
  refine ⟨?_, ?_, ?_⟩
  · rw [hs.seen]
    exact hlatch
  · simpa only [hs.seen] using hdaily
  · simpa only [Cell.spent, hs.seen, hs.archive] using hlife

theorem forall_dailyGrounds (d : UInt64) : (∀ g ∈ r.dailyGrounds p w now s d, g.1 = false) ↔
    p.exceedsDaily ((s.cell r.ownScope r.key.text).seen w now) r.estimate d = false ∧
      (r.tenant.isSome = true → ((s.cell .shared r.key.text).seen w now).hardStopped = false ∧
        p.exceedsDaily ((s.cell .shared r.key.text).seen w now) r.estimate d = false) := by
  unfold dailyGrounds
  dsimp only
  split_ifs with ht <;> simp [ht]

theorem forall_costGrounds (cap : Float) : (∀ g ∈ r.costGrounds w now s cap, g.1 = false) ↔
    (¬cap < (s.cell r.ownScope r.key.text).spent w now + r.estimate.cost) ∧
      (r.tenant.isSome = true →
        ¬cap < (s.cell .shared r.key.text).spent w now + r.estimate.cost) := by
  unfold costGrounds
  cases ht : r.tenant <;> simp [ownScope, ht, Scope.charged, Scope.ofTenant]

theorem first_grounds_eq_none_iff (limits : Limits) :
    (r.grounds p w now limits s).first = none ↔ r.Admitted p w now limits s := by
  rw [Grounds.first_eq_none_iff, grounds, List.forall_mem_cons, List.forall_mem_append]
  constructor
  · rintro ⟨hlatch, hdaily, hcost⟩
    refine ⟨hlatch, fun d hd => ?_, fun cap hcap => ?_⟩
    · rw [hd] at hdaily
      exact (r.forall_dailyGrounds p w now d).mp hdaily
    · rw [hcap] at hcost
      exact (r.forall_costGrounds w now cap).mp hcost
  · rintro ⟨hlatch, hdaily, hcost⟩
    refine ⟨hlatch, ?_, ?_⟩
    · cases hd : limits.dailyTokens with
      | none => simp
      | some d => exact (r.forall_dailyGrounds p w now d).mpr (hdaily d hd)
    · cases hcap : limits.lifetimeCost with
      | none => simp
      | some cap => exact (r.forall_costGrounds w now cap).mpr (hcost cap hcap)

end Request

namespace Ledger

def LooksTo (l : Ledger) (now : Instant) (l' : Ledger) : Prop :=
  ∃ s, Looked (l.window now) now l.state s ∧ l' = { l with state := s }

variable (l : Ledger) (now : Instant)

theorem looksTo_self : l.LooksTo now l := ⟨l.state, Looked.refl _ _ _, rfl⟩

theorem looksTo_canCall (r : Request) : l.LooksTo now (l.canCall now r).ledger := by
  unfold canCall
  split
  · exact l.looksTo_self now
  · split
    · exact l.looksTo_self now
    · rename_i limits _
      split_ifs
      · exact ⟨_, (r.weighs_check l.policy (l.window now) now limits l.state).1, rfl⟩
      · exact l.looksTo_self now

theorem allowed_canCall_iff {r : Request} {limits : Limits}
    (hexempt : l.exemption? r.tenant = none)
    (hlimits : l.policy.limits.enforced? r.key = some limits) :
    (l.canCall now r).answer.allowed = true ↔
      r.Admitted l.policy (l.window now) now limits l.state := by
  obtain ⟨hget, hstop⟩ := Option.filter_eq_some_iff.mp hlimits
  have hweighs := (r.weighs_check l.policy (l.window now) now limits l.state).2
  simp only [canCall, hexempt, hget, hstop, if_true]
  rw [← r.first_grounds_eq_none_iff, ← hweighs]
  cases (r.check l.policy (l.window now) now limits l.state).denial with
  | none => simp [CallDecision.allow]
  | some d => simp [CallDecision.deny]

theorem allowed_canCall_of_unenforced {r : Request}
    (h : l.policy.limits.enforced? r.key = none) : (l.canCall now r).answer.allowed = true := by
  unfold canCall
  cases l.exemption? r.tenant with
  | some reason => rfl
  | none =>
    cases hget : l.policy.limits.get? r.key with
    | none => rfl
    | some limits =>
      have hsoft : limits.hardStop = false := by simpa [LimitsTable.enforced?, hget] using h
      simp only [hsoft, Bool.false_eq_true, if_false]
      rfl

theorem denied_canCall_iff {r : Request} : (l.canCall now r).answer.allowed = false ↔
    l.exemption? r.tenant = none ∧ ∃ limits ∈ l.policy.limits.enforced? r.key,
      ¬r.Admitted l.policy (l.window now) now limits l.state := by
  cases hexempt : l.exemption? r.tenant with
  | some reason => simp [canCall, hexempt, CallDecision.allow]
  | none =>
    cases hlimits : l.policy.limits.enforced? r.key with
    | none => simp [l.allowed_canCall_of_unenforced now hlimits]
    | some limits =>
      rw [← Bool.not_eq_true, l.allowed_canCall_iff now hexempt hlimits]
      simp

theorem looksTo_ask {α : Type} (key : LaneKey) (tenant : Option String)
    (f : Bucket → Float → α) : l.LooksTo now (l.ask now key tenant f).ledger :=
  ⟨_, Looked.current _ _ _ _ _, rfl⟩

theorem looksTo_usageRatio (key : LaneKey) (tenant : Option String) :
    l.LooksTo now (l.usageRatio now key tenant).ledger := by
  unfold usageRatio
  split
  · exact l.looksTo_self now
  · exact l.looksTo_ask now key tenant _

end Ledger

def Operation.asks : Operation → Bool
  | reserve _ _ => false
  | commit _ _ _ _ => false
  | rollback _ _ => false
  | toggleUnlimited _ _ => false
  | applyReport _ _ _ => false
  | _ => true

def Operation.named? : Operation → Option LaneKey
  | canCall r => some r.key
  | reserve _ r => some r.key
  | commit _ key _ _ => some key
  | applyReport key _ _ => some key
  | currentUsage key _ => some key
  | reservedUsage key _ => some key
  | usageRatio key _ => some key
  | remainingBudget key _ => some key
  | history key _ => some key
  | hourly key _ => some key
  | _ => none

theorem Ledger.looksTo_step (l : Ledger) (now : Instant) {op : Operation} (h : op.asks = true) :
    l.LooksTo now (l.step now op).ledger := by
  cases op with
  | reserve _ _ => contradiction
  | commit _ _ _ _ => contradiction
  | rollback _ _ => contradiction
  | toggleUnlimited _ _ => contradiction
  | applyReport _ _ _ => contradiction
  | canCall r => exact l.looksTo_canCall now r
  | currentUsage key tenant => exact l.looksTo_ask now key tenant (fun b _ => b.used)
  | reservedUsage key tenant => exact l.looksTo_ask now key tenant (fun b _ => b.reserved)
  | usageRatio key tenant => exact l.looksTo_usageRatio now key tenant
  | remainingBudget key tenant => exact ⟨_, Looked.current _ _ _ _ _, rfl⟩
  | _ => exact l.looksTo_self now

section Keeps

variable {w : Window} {now : Instant} (keeps : LedgerState → Prop) {s : LedgerState}

theorem Check.keeps_andThen {c : Check} {next : LedgerState → Check} (hc : keeps c.state)
    (hn : ∀ s, keeps s → keeps (next s).state) : keeps (c.andThen next).state := by
  unfold Check.andThen
  cases c.denial with
  | some d => exact hc
  | none => exact hn _ hc

theorem Request.keeps_check (r : Request)
    (h : ∀ s scope, keeps s → keeps (s.current scope r.key.text w now).state) (hs : keeps s)
    (p : LedgerPolicy) (limits : Limits) : keeps (r.check p w now limits s).state := by
  have hlatch : keeps (r.checkLatch w now s).state := h _ _ hs
  have hdaily : ∀ d s, keeps s → keeps (r.checkDaily p w now d s).state := by
    intro d s hs
    unfold checkDaily
    split_ifs
    · exact Check.keeps_andThen keeps (h _ _ hs) (fun s hs => h _ _ hs)
    · exact h _ _ hs
  have hlifetime : ∀ cap s, keeps s → keeps (r.checkLifetime w now cap s).state := by
    intro cap s hs
    unfold checkLifetime
    split_ifs
    · exact Check.keeps_andThen keeps (h _ _ hs) (fun s hs => h _ _ hs)
    · exact h _ _ hs
  unfold check
  cases limits.dailyTokens with
  | none =>
    cases limits.lifetimeCost with
    | none => exact hlatch
    | some cap => exact Check.keeps_andThen keeps hlatch (hlifetime cap)
  | some d =>
    cases limits.lifetimeCost with
    | none => exact Check.keeps_andThen keeps hlatch (hdaily d)
    | some cap =>
      exact Check.keeps_andThen keeps (Check.keeps_andThen keeps hlatch (hdaily d)) (hlifetime cap)

theorem Ledger.keeps_canCall {l : Ledger} (r : Request)
    (h : ∀ s scope, keeps s → keeps (s.current scope r.key.text (l.window now) now).state)
    (hl : keeps l.state) : keeps (l.canCall now r).ledger.state := by
  unfold canCall
  split
  · exact hl
  · split
    · exact hl
    · split_ifs
      · exact r.keeps_check keeps h hl l.policy _
      · exact hl

theorem Ledger.keeps_asked {l : Ledger} {op : Operation}
    (h : ∀ s scope, ∀ lane ∈ op.named?, keeps s →
      keeps (s.current scope lane.text (l.window now) now).state)
    (hl : keeps l.state) (hask : op.asks = true) : keeps (l.step now op).ledger.state := by
  cases op with
  | reserve _ _ => contradiction
  | commit _ _ _ _ => contradiction
  | rollback _ _ => contradiction
  | toggleUnlimited _ _ => contradiction
  | applyReport _ _ _ => contradiction
  | canCall r => exact keeps_canCall keeps r (fun s scope => h s scope _ rfl) hl
  | usageRatio key tenant =>
    change keeps (l.usageRatio now key tenant).ledger.state
    unfold usageRatio
    split
    · exact hl
    · exact h _ _ _ rfl hl
  | currentUsage key tenant => exact h _ _ _ rfl hl
  | reservedUsage key tenant => exact h _ _ _ rfl hl
  | remainingBudget key tenant => exact h _ _ _ rfl hl
  | _ => exact hl

theorem Ledger.keeps_step {l : Ledger} {op : Operation}
    (h : ∀ s scope key, keeps s → keeps (s.current scope key (l.window now) now).state)
    (hl : keeps l.state) (hask : op.asks = true) : keeps (l.step now op).ledger.state :=
  keeps_asked keeps (fun s scope lane _ => h s scope lane.text) hl hask

end Keeps

end LaneQuota
