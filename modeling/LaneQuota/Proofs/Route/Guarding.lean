import LaneQuota.Proofs.Route.Reasons
import LaneQuota.Proofs.Route.Safety
import LaneQuota.Route.Guard

namespace LaneQuota

def BudgetBreach.kind : BudgetBreach → GuardStep
  | time _ _ => .time
  | turns _ => .turn
  | subOps _ => .subOp

def Budget.slots (b : Budget) : GuardStep → Nat
  | .turn => b.maxTurns
  | .subOp => b.maxSubOps
  | .time => 0

namespace BudgetGuard

variable {g g' : BudgetGuard} {elapsed : Nat} {step kind : GuardStep} {breach : Option BudgetBreach}

def used (g : BudgetGuard) : GuardStep → Nat
  | .turn => g.turns
  | .subOp => g.subOps
  | .time => 0

def IsLate (g : BudgetGuard) (elapsed : Nat) : Prop :=
  nanosPerBudgetSecond * g.budget.seconds < elapsed

instance (g : BudgetGuard) (elapsed : Nat) : Decidable (g.IsLate elapsed) :=
  inferInstanceAs (Decidable (_ < _))

theorem IsLate.mono {later : Nat} (h : g.IsLate elapsed) (hle : elapsed ≤ later) : g.IsLate later :=
  Nat.lt_of_lt_of_le h hle

theorem IsLate.of_budget (h : g.IsLate elapsed) (hbudget : g'.budget = g.budget) :
    g'.IsLate elapsed := by
  unfold IsLate
  rw [hbudget]
  exact h

theorem take_of_isLate (h : g.IsLate elapsed) : g.take elapsed step =
    (some (.time (elapsed / nanosPerBudgetSecond) g.budget.seconds), g) := by
  have hbreach : g.timeBreach? elapsed =
      some (.time (elapsed / nanosPerBudgetSecond) g.budget.seconds) := if_pos h
  unfold take
  rw [hbreach]

inductive Answers (g : BudgetGuard) (elapsed : Nat) :
    GuardStep → Option BudgetBreach → BudgetGuard → Prop
  | late {step : GuardStep} (h : g.IsLate elapsed) : Answers g elapsed step
      (some (.time (elapsed / nanosPerBudgetSecond) g.budget.seconds)) g
  | inTime (h : ¬g.IsLate elapsed) : Answers g elapsed .time none g
  | turn (h : ¬g.IsLate elapsed) (hfree : g.turns < g.budget.maxTurns) :
      Answers g elapsed .turn none { g with turns := g.turns + 1 }
  | noTurn (h : ¬g.IsLate elapsed) (hfull : g.budget.maxTurns ≤ g.turns) :
      Answers g elapsed .turn (some (.turns g.budget.maxTurns)) g
  | subOp (h : ¬g.IsLate elapsed) (hfree : g.subOps < g.budget.maxSubOps) :
      Answers g elapsed .subOp none { g with subOps := g.subOps + 1 }
  | noSubOp (h : ¬g.IsLate elapsed) (hfull : g.budget.maxSubOps ≤ g.subOps) :
      Answers g elapsed .subOp (some (.subOps g.budget.maxSubOps)) g

theorem answers_take (g : BudgetGuard) (elapsed : Nat) (step : GuardStep) :
    g.Answers elapsed step (g.take elapsed step).1 (g.take elapsed step).2 := by
  by_cases hlate : g.IsLate elapsed
  · rw [take_of_isLate hlate]
    exact .late hlate
  · have hbreach : g.timeBreach? elapsed = none := if_neg hlate
    unfold take
    rw [hbreach]
    cases step with
    | time => exact .inTime hlate
    | turn =>
      dsimp only
      split_ifs with hfree
      · exact .turn hlate hfree
      · exact .noTurn hlate (Nat.le_of_not_lt hfree)
    | subOp =>
      dsimp only
      split_ifs with hfree
      · exact .subOp hlate hfree
      · exact .noSubOp hlate (Nat.le_of_not_lt hfree)

namespace Answers

variable (h : g.Answers elapsed step breach g')

include h

theorem budget : g'.budget = g.budget := by
  cases h <;> rfl

theorem unchanged (hrefused : breach ≠ none) : g' = g := by
  cases h with
  | late | noTurn | noSubOp => rfl
  | inTime | turn | subOp => exact absurd rfl hrefused

theorem used (hkind : kind ≠ .time) :
    g'.used kind = g.used kind + if (step, breach) = (kind, none) then 1 else 0 := by
  cases h <;> cases kind <;> simp_all [BudgetGuard.used]

theorem used_mono : g.used kind ≤ g'.used kind := by
  cases kind with
  | time => exact Nat.le_refl 0
  | turn | subOp =>
    rw [h.used (by decide)]
    exact Nat.le_add_right _ _

theorem used_le (hle : g.used kind ≤ g.budget.slots kind) :
    g'.used kind ≤ g'.budget.slots kind := by
  cases h with
  | turn _ hfree =>
    cases kind with
    | turn => exact hfree
    | subOp | time => exact hle
  | subOp _ hfree =>
    cases kind with
    | subOp => exact hfree
    | turn | time => exact hle
  | late | inTime | noTurn | noSubOp => exact hle

theorem isLate {b : BudgetBreach} (hbreach : breach = some b) (hb : b.kind = .time) :
    g.IsLate elapsed := by
  cases h with
  | late hlate => exact hlate
  | inTime | turn | noTurn | subOp | noSubOp => cases hbreach <;> cases hb

theorem granted_iff : breach = none ↔
    ¬g.IsLate elapsed ∧ (step ≠ .time → g.used step < g.budget.slots step) := by
  cases h with
  | late hlate => simp [hlate]
  | inTime hlate => simp [hlate]
  | turn hlate hfree | subOp hlate hfree => exact iff_of_true rfl ⟨hlate, fun _ => hfree⟩
  | noTurn _ hfull | noSubOp _ hfull =>
    exact iff_of_false (Option.some_ne_none _)
      (fun hgranted => Nat.not_lt_of_le hfull (hgranted.2 (by decide)))

theorem refused_of_full (hkind : step ≠ .time) (hfull : g.budget.slots step ≤ g.used step) :
    breach ≠ none :=
  fun hgranted => Nat.not_lt_of_le hfull ((h.granted_iff.mp hgranted).2 hkind)

theorem full_of_refused {b : BudgetBreach} (hbreach : breach = some b) (hb : b.kind ≠ .time) :
    g.budget.slots b.kind ≤ g.used b.kind := by
  cases h with
  | late => cases hbreach; exact absurd rfl hb
  | noTurn _ hfull | noSubOp _ hfull => cases hbreach; exact hfull
  | inTime | turn | subOp => cases hbreach

end Answers

end BudgetGuard

abbrev GuardCall := Nat × GuardStep

abbrev GuardReply := GuardStep × Option BudgetBreach

def GuardReply.Breaks (x : GuardReply) (kind : GuardStep) : Prop :=
  ∃ b, x.2 = some b ∧ b.kind = kind

namespace BudgetGuard

variable {g : BudgetGuard} {kind : GuardStep}

def after (g : BudgetGuard) (calls : List GuardCall) : BudgetGuard :=
  calls.foldl (fun g c => (g.take c.1 c.2).2) g

def replies (g : BudgetGuard) : List GuardCall → List GuardReply
  | [] => []
  | (elapsed, step) :: rest =>
    let (breach, g') := g.take elapsed step
    (step, breach) :: g'.replies rest

theorem mem_replies_cons {c : GuardCall} {calls : List GuardCall} {x : GuardReply} :
    x ∈ g.replies (c :: calls) ↔
      x = (c.2, (g.take c.1 c.2).1) ∨ x ∈ (g.take c.1 c.2).2.replies calls :=
  List.mem_cons

theorem replies_append (g : BudgetGuard) (first rest : List GuardCall) :
    g.replies (first ++ rest) = g.replies first ++ (g.after first).replies rest := by
  induction first generalizing g with
  | nil => rfl
  | cons c first ih => exact congrArg _ (ih _)

theorem budget_after (g : BudgetGuard) (calls : List GuardCall) :
    (g.after calls).budget = g.budget := by
  induction calls generalizing g with
  | nil => rfl
  | cons c calls ih => exact (ih _).trans (g.answers_take c.1 c.2).budget

theorem used_after (hkind : kind ≠ .time) (g : BudgetGuard) (calls : List GuardCall) :
    (g.after calls).used kind = g.used kind + (g.replies calls).count (kind, none) := by
  induction calls generalizing g with
  | nil => rfl
  | cons c calls ih =>
    have hstep := (g.answers_take c.1 c.2).used hkind
    have hrest := ih (g.take c.1 c.2).2
    rw [replies, List.count_cons]
    simp only [beq_iff_eq]
    change ((g.take c.1 c.2).2.after calls).used kind = _
    omega

theorem used_le_after (g : BudgetGuard) (calls : List GuardCall) :
    g.used kind ≤ (g.after calls).used kind := by
  induction calls generalizing g with
  | nil => exact Nat.le_refl _
  | cons c calls ih => exact Nat.le_trans (g.answers_take c.1 c.2).used_mono (ih _)

theorem used_after_le (h : g.used kind ≤ g.budget.slots kind) (calls : List GuardCall) :
    (g.after calls).used kind ≤ g.budget.slots kind := by
  induction calls generalizing g with
  | nil => exact h
  | cons c calls ih =>
    have hstep := g.answers_take c.1 c.2
    have hrest := ih (hstep.used_le h)
    rw [hstep.budget] at hrest
    exact hrest

variable {calls : List GuardCall} {x : GuardReply}

theorem breaks_time_of_isLate {elapsed : Nat} (h : g.IsLate elapsed)
    (hlater : ∀ c ∈ calls, elapsed ≤ c.1) (hx : x ∈ g.replies calls) : x.Breaks .time := by
  induction calls with
  | nil => cases hx
  | cons c calls ih =>
    have hlate := h.mono (hlater c List.mem_cons_self)
    rw [replies, take_of_isLate hlate] at hx
    obtain rfl | hx := List.mem_cons.mp hx
    · exact ⟨_, rfl, rfl⟩
    · exact ih (fun d hd => hlater d (List.mem_cons_of_mem _ hd)) hx

theorem exists_isLate (hx : x ∈ g.replies calls) (hbreaks : x.Breaks .time) :
    ∃ c ∈ calls, g.IsLate c.1 := by
  induction calls generalizing g with
  | nil => cases hx
  | cons c calls ih =>
    have hstep := g.answers_take c.1 c.2
    obtain rfl | hx := mem_replies_cons.mp hx
    · obtain ⟨b, hb, hkind⟩ := hbreaks
      exact ⟨c, List.mem_cons_self, hstep.isLate hb hkind⟩
    · obtain ⟨d, hd, hlate⟩ := ih hx
      exact ⟨d, List.mem_cons_of_mem _ hd, hlate.of_budget hstep.budget.symm⟩

theorem refused_of_full (hkind : kind ≠ .time) (hfull : g.budget.slots kind ≤ g.used kind)
    (hx : x ∈ g.replies calls) (hstep : x.1 = kind) : x.2 ≠ none := by
  induction calls generalizing g with
  | nil => cases hx
  | cons c calls ih =>
    have hanswer := g.answers_take c.1 c.2
    obtain rfl | hx := mem_replies_cons.mp hx
    · obtain rfl := hstep
      exact hanswer.refused_of_full hkind hfull
    · refine ih ?_ hx
      rw [hanswer.budget]
      exact Nat.le_trans hfull hanswer.used_mono

theorem full_of_breaks (hkind : kind ≠ .time) (hx : x ∈ g.replies calls) (hbreaks : x.Breaks kind) :
    g.budget.slots kind ≤ (g.after calls).used kind := by
  induction calls generalizing g with
  | nil => cases hx
  | cons c calls ih =>
    have hanswer := g.answers_take c.1 c.2
    obtain rfl | hx := mem_replies_cons.mp hx
    · obtain ⟨b, hb, rfl⟩ := hbreaks
      have hfull := hanswer.full_of_refused hb hkind
      exact Nat.le_trans hfull (used_le_after g (c :: calls))
    · have hrest := ih hx
      rw [hanswer.budget] at hrest
      exact hrest

end BudgetGuard

namespace ReasonCodes

theorem push_of_mem {r : ReasonCodes} {code : String} (h : code ∈ r.codes) : r.push code = r :=
  dif_pos (List.contains_iff_mem.mpr h)

theorem codes_foldl_push (r : ReasonCodes) (codes : List String) :
    (codes.foldl push r).codes = r.codes ++ (codes.filter (· ∉ r.codes)).eraseDups := by
  induction codes generalizing r with
  | nil => simp
  | cons code codes ih =>
    rw [List.foldl_cons, ih]
    by_cases hmem : code ∈ r.codes
    · rw [push_of_mem hmem, List.filter_cons_of_neg (by simpa using hmem)]
    · rw [codes_push hmem, List.filter_cons_of_pos (by simpa using hmem), List.eraseDups_cons,
        List.filter_filter, List.append_assoc, List.singleton_append]
      simp [Bool.and_comm, beq_eq_decide]

end ReasonCodes

namespace Route

theorem foldl_abort (r : Route) (breaches : List BudgetBreach) : breaches.foldl abort r =
    { r with reasons := (breaches.map BudgetBreach.reason).foldl ReasonCodes.push r.reasons } := by
  induction breaches generalizing r with
  | nil => rfl
  | cons b breaches ih => exact ih _

end Route

namespace RouteSignals

theorem reason_not_mem_resolve (s : RouteSignals) (tools : List String) (b : BudgetBreach) :
    b.reason ∉ (resolve s tools).reasons.codes := by
  intro hmem
  rw [codes_resolve] at hmem
  obtain ⟨x, hx, hreason⟩ := List.mem_map.mp hmem
  have hcode : b.reason ∈ (s.remarks (!tools.isEmpty)).map Prod.snd :=
    hreason ▸ List.mem_map_of_mem (List.mem_filter.mp hx).1
  simp only [remarks, List.map_cons, List.map_nil] at hcode
  revert hcode
  cases b <;> simp only [BudgetBreach.reason] <;> decide

theorem codes_foldl_abort (s : RouteSignals) (tools : List String) (breaches : List BudgetBreach) :
    (breaches.foldl Route.abort (resolve s tools)).reasons.codes =
      (resolve s tools).reasons.codes ++ (breaches.map BudgetBreach.reason).eraseDups := by
  rw [Route.foldl_abort, ReasonCodes.codes_foldl_push, List.filter_eq_self.mpr]
  intro code hcode
  obtain ⟨b, -, rfl⟩ := List.mem_map.mp hcode
  simpa using s.reason_not_mem_resolve tools b

end RouteSignals

/-- Work under a guard stays within the budget of its route: it is granted no more turns and
sub-operations than the route allows. What is asked for in time is granted as long as there is some
left, and a refusal uses up nothing. After a refusal for time everything is refused for time, and a
kind of step that is used up is never granted again. Aborting adds the reasons of the breaches to
the route, each once, and leaves the rest of it alone. -/
theorem guarded_within_route (s : RouteSignals) (tools : List String) (calls : List GuardCall)
    (htimes : calls.Pairwise (fun c d => c.1 ≤ d.1)) (breaches : List BudgetBreach) :
    let r := resolve s tools
    let start := BudgetGuard.ofRoute r
    let now := start.after calls
    let granted := fun kind => (start.replies calls).count (kind, none)
    (granted .turn = now.turns ∧ now.turns ≤ r.budget.maxTurns ∧ r.budget.maxTurns ≤ 20) ∧
      (granted .subOp = now.subOps ∧ now.subOps ≤ r.budget.maxSubOps ∧ r.budget.maxSubOps ≤ 20 ∧
        (r.mode = .instant ∨ tools = [] → now.subOps = 0)) ∧
      (∀ (g : BudgetGuard) elapsed step,
        ((g.take elapsed step).1 = none ↔
          elapsed ≤ BudgetGuard.nanosPerBudgetSecond * g.budget.seconds ∧
            (step ≠ .time → g.used step < g.budget.slots step)) ∧
          ((g.take elapsed step).1 ≠ none → (g.take elapsed step).2 = g)) ∧
      (∀ first rest, calls = first ++ rest →
        let between := start.after first
        start.replies calls = start.replies first ++ between.replies rest ∧
          ((∃ x ∈ start.replies first, x.Breaks .time) →
            ∀ y ∈ between.replies rest, y.Breaks .time) ∧
          ∀ kind ≠ .time,
            ((∃ x ∈ start.replies first, x.Breaks kind) →
              between.used kind = r.budget.slots kind) ∧
            (between.used kind = r.budget.slots kind →
              ∀ y ∈ between.replies rest, y.1 = kind → y.2 ≠ none)) ∧
      { breaches.foldl Route.abort r with reasons := r.reasons } = r ∧
      (breaches.foldl Route.abort r).reasons.codes =
        r.reasons.codes ++ (breaches.map BudgetBreach.reason).eraseDups := by
  intro r start now granted
  obtain ⟨hbounded, -, -, hslots⟩ := s.safe_draft (!tools.isEmpty)
  have hstart : ∀ kind, start.used kind = 0 := fun kind => by cases kind <;> rfl
  have hgranted : ∀ kind ≠ .time, granted kind = now.used kind := fun kind hkind => by
    rw [BudgetGuard.used_after hkind, hstart, Nat.zero_add]
  have hwithin : ∀ kind calls, (start.after calls).used kind ≤ r.budget.slots kind :=
    fun kind calls => BudgetGuard.used_after_le ((hstart kind).symm ▸ Nat.zero_le _) calls
  refine ⟨⟨hgranted .turn (by decide), hwithin .turn calls, hbounded.turns.2⟩,
    ⟨hgranted .subOp (by decide), hwithin .subOp calls, hbounded.subOps.2, fun hnone => ?_⟩,
    fun g elapsed step => ⟨?_, (g.answers_take elapsed step).unchanged⟩, ?_, ?_,
    s.codes_foldl_abort tools breaches⟩
  · have hzero : r.budget.maxSubOps = 0 := hslots (hnone.imp_right (by simp +contextual))
    exact Nat.le_zero.mp (hzero ▸ hwithin .subOp calls)
  · rw [(g.answers_take elapsed step).granted_iff, BudgetGuard.IsLate, Nat.not_lt]
  · rintro first rest rfl
    intro between
    have hbudget : between.budget = r.budget := start.budget_after first
    refine ⟨start.replies_append first rest, ?_, fun kind hkind => ⟨?_, fun hfull y => ?_⟩⟩
    · rintro ⟨x, hx, hbreaks⟩ y hy
      obtain ⟨c, hc, hlate⟩ := BudgetGuard.exists_isLate hx hbreaks
      have hlater : ∀ d ∈ rest, c.1 ≤ d.1 := (List.pairwise_append.mp htimes).2.2 c hc
      exact BudgetGuard.breaks_time_of_isLate (hlate.of_budget hbudget) hlater hy
    · rintro ⟨x, hx, hbreaks⟩
      exact Nat.le_antisymm (hwithin kind first) (BudgetGuard.full_of_breaks hkind hx hbreaks)
    · exact BudgetGuard.refused_of_full hkind (hbudget ▸ Nat.le_of_eq hfull.symm)
  · rw [Route.foldl_abort]

def hurried : RouteSignals :=
  { RouteSignals.empty with
    hint := some { RouteHint.empty with
      mode := some .task
      budget := some ⟨some 2, some 1, some 5⟩ } }

def hurriedCalls : List GuardCall := [
  (0, .turn), (1, .turn), (1, .turn), (20, .subOp), (30, .subOp),
  (10000000000, .time), (10000000001, .time), (10000000001, .subOp)]

theorem guarded_within_route_hurried :
    hurriedCalls.Pairwise (fun c d => c.1 ≤ d.1) ∧
      let r := resolve hurried ["search"]
      let start := BudgetGuard.ofRoute r
      r.budget = ⟨2, 1, 10⟩ ∧
        start.replies hurriedCalls = [
          (.turn, none), (.turn, none), (.turn, some (.turns 2)),
          (.subOp, none), (.subOp, some (.subOps 1)),
          (.time, none), (.time, some (.time 10 10)), (.subOp, some (.time 10 10))] ∧
        (start.replies hurriedCalls).count (.turn, none) = (start.after hurriedCalls).turns ∧
        (start.after hurriedCalls).turns ≤ r.budget.maxTurns ∧
        ([.turns 2, .time 10 10, .turns 2].foldl Route.abort r).reasons.codes =
          r.reasons.codes ++ [Reason.budgetTurnsExceeded, Reason.budgetTimeExceeded] := by
  have htimes : hurriedCalls.Pairwise (fun c d => c.1 ≤ d.1) := by decide
  obtain ⟨⟨hgranted, hwithin, -⟩, -, -, -, -, hcodes⟩ := guarded_within_route hurried ["search"]
    hurriedCalls htimes [.turns 2, .time 10 10, .turns 2]
  refine ⟨htimes, ?_, ?_, hgranted, hwithin, hcodes⟩ <;> decide +kernel

end LaneQuota
