import LaneQuota.Proofs.Route.Reasons
import LaneQuota.Route.Signals
import Mathlib.Data.List.Pairwise

/-!
# Members that cannot be read

Signals take a value that cannot be read for no value. The member it belongs to may then as well not
be there, with one exception: a member in camel case is looked at alone, so one that cannot be read
hides the same member in snake case.
-/

namespace LaneQuota

/-! ## Deleting members -/

namespace Json

def without (j : Json) (name : String) : Json :=
  match j with
  | .obj members => .obj (members.filter (fun m => m.1 != name))
  | j => j

def adjust (j : Json) (name : String) (f : Json → Json) : Json :=
  match j with
  | .obj members => .obj (members.map (fun m => (m.1, if m.1 = name then f m.2 else m.2)))
  | j => j

def at? (j : Json) : List String → Option Json
  | [] => some j
  | name :: path => (j.get? name).bind (fun v => v.at? path)

def deleteAt (j : Json) (name : String) : List String → Json
  | [] => j.without name
  | key :: path => j.adjust key (fun v => v.deleteAt name path)

variable (j : Json) (name key : String)

theorem member?_cons (m : String × Json) (rest : List (String × Json)) :
    member? name (m :: rest) =
      (member? name rest).or (if m.1 = name then some m.2 else none) := by
  simp only [member?]
  cases member? name rest <;> rfl

@[simp]
theorem get?_without : (j.without name).get? key = if key = name then none else j.get? key := by
  cases j with
  | obj members =>
    simp only [without, get?]
    induction members with
    | nil => simp [member?]
    | cons m rest ih =>
      rw [member?_cons]
      by_cases hm : m.1 = name
      · rw [List.filter_cons_of_neg (by simpa using hm), ih, hm]
        split_ifs with hkey hname
        · rfl
        · exact absurd hname.symm hkey
        · exact Option.or_none.symm
      · rw [List.filter_cons_of_pos (by simpa using hm), member?_cons, ih]
        split_ifs with hkey hname hname
        · exact absurd (hname.trans hkey) hm
        · rfl
        · rfl
        · rfl
  | _ => simp [without, get?]

@[simp]
theorem get?_adjust (f : Json → Json) : (j.adjust name f).get? key =
    if key = name then (j.get? key).map f else j.get? key := by
  cases j with
  | obj members =>
    simp only [adjust, get?]
    induction members with
    | nil => simp [member?]
    | cons m rest ih =>
      rw [List.map_cons, member?_cons, member?_cons, ih]
      by_cases hkey : key = name
      · subst hkey
        cases member? key rest <;> by_cases hm : m.1 = key <;> simp [hm]
      · cases member? key rest <;> by_cases hm : m.1 = key <;> simp [hm, hkey]
  | _ => simp [adjust, get?]

variable {j name} in
theorem exists_obj_of_get? {v : Json} (h : j.get? name = some v) :
    ∃ members, j = .obj members := by
  cases j with
  | obj members => exact ⟨members, rfl⟩
  | _ => contradiction

end Json

namespace LooseSignals

/-! ## Members that stand for one value -/

/-- A member with its two spellings and the values that can be read. -/
structure LooseMember where
  camel : String
  snake : String
  reads : Json → Bool

namespace LooseMember

def of {α : Type} (camel snake : String) (read? : Json → Option α) : LooseMember :=
  ⟨camel, snake, fun v => (read? v).isSome⟩

def names (m : LooseMember) : List String := [m.camel, m.snake]

def Apart (m m' : LooseMember) : Prop := ∀ n ∈ m.names, n ∉ m'.names

instance : DecidableRel Apart := fun _ _ => inferInstanceAs (Decidable (∀ _ ∈ _, _))

instance : Std.Symm Apart := ⟨fun _ _ h n hn hn' => h n hn' hn⟩

def value? (m : LooseMember) (o : Json) : Option Json :=
  (field? o m.camel m.snake).filter m.reads

/-- Only without the member of that name, the one in snake case is read. -/
def Hides (m : LooseMember) (o : Json) (name : String) : Prop :=
  name = m.camel ∧ m.camel ≠ m.snake ∧ (o.get? m.snake).any m.reads = true

instance (m : LooseMember) (o : Json) (name : String) : Decidable (m.Hides o name) :=
  inferInstanceAs (Decidable (_ ∧ _))

section Reading

variable {α : Type} (o : Json) (camel snake : String) (read? : Json → Option α)

theorem bind_field? : (field? o camel snake).bind read? =
    ((of camel snake read?).value? o).bind read? := by
  rw [value?, of]
  cases field? o camel snake with
  | none => rfl
  | some v => cases hv : read? v <;> simp [Option.filter_some, hv]

theorem isSome_bind_field? : ((field? o camel snake).bind read?).isSome =
    ((of camel snake read?).value? o).isSome := by
  rw [value?, of]
  cases field? o camel snake with
  | none => rfl
  | some v => cases hv : read? v <;> simp [Option.filter_some, hv]

end Reading

variable {m : LooseMember} {o o' v : Json} {name : String}

theorem value?_congr (h : ∀ n ∈ m.names, o.get? n = o'.get? n) : m.value? o = m.value? o' := by
  have hcamel := h m.camel (by simp [names])
  have hsnake := h m.snake (by simp [names])
  rw [value?, value?, field?, field?, hcamel, hsnake]

theorem value?_without (hname : name ∈ m.names) (hv : o.get? name = some v)
    (hbad : m.reads v = false) (h : ¬m.Hides o name) :
    m.value? (o.without name) = m.value? o := by
  simp only [value?, field?, Json.get?_without]
  by_cases hcamel : m.camel = name
  · subst hcamel
    by_cases hsnake : m.snake = m.camel
    · simp [hsnake, hv, hbad, Option.filter_some]
    · have hother : (o.get? m.snake).any m.reads = false := by
        simpa [Hides, Ne.symm hsnake] using h
      cases hw : o.get? m.snake with
      | none => simp [hv, hbad, hsnake, Option.filter_some]
      | some w =>
        have hw' : m.reads w = false := by simpa [hw] using hother
        simp [hv, hbad, hsnake, hw', Option.filter_some]
  · -- In snake case the member was not read before, or is the one that cannot be.
    obtain rfl : name = m.snake := by simpa [names, Ne.symm hcamel] using hname
    cases hw : o.get? m.camel <;> simp [hcamel, hv, hbad, Option.filter_some]

namespace Hides

theorem value?_eq_none (h : m.Hides o name) (hv : o.get? name = some v)
    (hbad : m.reads v = false) : m.value? o = none := by
  obtain ⟨rfl, -, -⟩ := h
  simp [value?, field?, hv, hbad, Option.filter_some]

theorem isSome_value?_without (h : m.Hides o name) :
    (m.value? (o.without name)).isSome = true := by
  obtain ⟨rfl, hne, hreads⟩ := h
  obtain ⟨w, hw, hreads⟩ := (Option.any_eq_true _ _).mp hreads
  simp [value?, field?, Ne.symm hne, hw, hreads, Option.filter_some]

theorem bind_field?_ne {α : Type} {camel snake : String} {read? : Json → Option α}
    (h : (of camel snake read?).Hides o name) (hv : o.get? name = some v)
    (hbad : (of camel snake read?).reads v = false) :
    (field? (o.without name) camel snake).bind read? ≠ (field? o camel snake).bind read? := by
  intro heq
  have hsome := congrArg Option.isSome heq
  rw [isSome_bind_field?, isSome_bind_field?, h.isSome_value?_without,
    h.value?_eq_none hv hbad] at hsome
  exact absurd hsome (by decide)

end Hides

end LooseMember

/-! ## The parts of signals -/

inductive SignalsPart where
  | whole
  | hint
  | hintBudget
  | budgetHint
  | budgetHintSnake
deriving DecidableEq

namespace SignalsPart

def path : SignalsPart → List String
  | whole => []
  | hint => ["hint"]
  | hintBudget => ["hint", "budget"]
  | budgetHint => ["budgetHint"]
  | budgetHintSnake => ["budget_hint"]

def wholeMembers : List LooseMember := [
  .of "difficultyScore" "difficulty_score" number?,
  .of "complexityScore" "complexity_score" number?,
  .of "actionScore" "action_score" number?,
  .of "securityRiskScore" "security_risk_score" number?,
  .of "functionCategory" "function_category" Json.asText?]

def hintMembers : List LooseMember := [
  .of "mode" "mode" mode?,
  .of "routeScore" "route_score" number?,
  .of "securityRiskLevel" "security_risk_level" riskLevel?]

def budgetMembers : List LooseMember := [
  .of "maxTurns" "max_turns" integer?,
  .of "maxSubOps" "max_sub_ops" integer?,
  .of "timeBudgetSeconds" "time_budget_seconds" integer?]

def members : SignalsPart → List LooseMember
  | whole => wholeMembers
  | hint => hintMembers
  | hintBudget => budgetMembers
  | budgetHint => budgetMembers
  | budgetHintSnake => budgetMembers

theorem apart_members (part : SignalsPart) : part.members.Pairwise LooseMember.Apart := by
  cases part <;> decide

variable {part : SignalsPart} {m : LooseMember} {o v : Json} {name : String}

variable (part) in
theorem value?_without_of_mem (hm : m ∈ part.members) (hname : name ∈ m.names)
    (hv : o.get? name = some v) (hbad : m.reads v = false) (h : ¬m.Hides o name) :
    ∀ m' ∈ part.members, m'.value? (o.without name) = m'.value? o := by
  intro m' hm'
  by_cases hname' : name ∈ m'.names
  · obtain rfl : m = m' := by
      by_contra hne
      exact part.apart_members.forall hm hm' hne name hname hname'
    exact LooseMember.value?_without hname hv hbad h
  · refine LooseMember.value?_congr (fun n hn => ?_)
    rw [Json.get?_without, if_neg (fun heq : n = name => hname' (heq ▸ hn))]

/-- Where the part has no value for something, nothing else in the signals has one. -/
def Alone (part : SignalsPart) (j : Json) : Prop :=
  match part with
  | whole => True
  | hint => (field? j "routeScore" "route_score").bind number? = none
  | hintBudget => (field? j "budgetHint" "budget_hint").bind budget? = none
  | budgetHint => (nestedHint? j).bind RouteHint.budget = none
  | budgetHintSnake =>
    j.get? "budgetHint" = none ∧ (nestedHint? j).bind RouteHint.budget = none

end SignalsPart

/-! ## Readings of parts -/

section Congruence

variable {j j' o o' : Json}

theorem field?_congr {camel snake : String} (hcamel : j.get? camel = j'.get? camel)
    (hsnake : j.get? snake = j'.get? snake) : field? j camel snake = field? j' camel snake := by
  rw [field?, field?, hcamel, hsnake]

theorem field?_adjust_of_ne {camel snake key : String} (hcamel : camel ≠ key) (hsnake : snake ≠ key)
    (f : Json → Json) : field? (j.adjust key f) camel snake = field? j camel snake := by
  apply field?_congr
  · rw [Json.get?_adjust, if_neg hcamel]
  · rw [Json.get?_adjust, if_neg hsnake]

theorem field?_self (j : Json) (name : String) : field? j name name = j.get? name := by
  rw [field?]
  cases j.get? name <;> rfl

theorem budget?_congr (h : ∀ m ∈ SignalsPart.budgetMembers, m.value? o = m.value? o') :
    budget? o = budget? o' := by
  simp only [SignalsPart.budgetMembers, List.forall_mem_cons] at h
  obtain ⟨hturns, hsubOps, hseconds, -⟩ := h
  simp only [budget?, LooseMember.bind_field?, hturns, hsubOps, hseconds]

theorem budget_hintMembers (o : Json) :
    (hintMembers o).budget = (o.get? "budget").bind budget? :=
  congrArg (fun x => x.bind budget?) (field?_self o "budget")

theorem hintMembers_congr (h : ∀ m ∈ SignalsPart.hintMembers, m.value? o = m.value? o')
    (hbudget : (o.get? "budget").bind budget? = (o'.get? "budget").bind budget?) :
    hintMembers o = hintMembers o' := by
  simp only [SignalsPart.hintMembers, List.forall_mem_cons] at h
  obtain ⟨hmode, hscore, hrisk, -⟩ := h
  rw [← field?_self, ← field?_self o'] at hbudget
  rw [hintMembers, hintMembers, hbudget]
  simp only [LooseMember.bind_field?, hmode, hscore, hrisk]

theorem hint?_congr (hnested : nestedHint? j = nestedHint? j')
    (hmode : field? j "modeHint" "mode_hint" = field? j' "modeHint" "mode_hint")
    (hscore : field? j "routeScore" "route_score" = field? j' "routeScore" "route_score")
    (hpresent : (field? j "budgetHint" "budget_hint").isSome =
      (field? j' "budgetHint" "budget_hint").isSome)
    (hbudget : (field? j "budgetHint" "budget_hint").bind budget? =
      (field? j' "budgetHint" "budget_hint").bind budget?) : hint? j = hint? j' := by
  simp only [hint?, hnested, hmode, hscore, hpresent, hbudget]

theorem ofJson_congr (h : ∀ m ∈ SignalsPart.wholeMembers, m.value? j = m.value? j')
    (hhint : hint? j = hint? j') : RouteSignals.ofJson j = RouteSignals.ofJson j' := by
  simp only [SignalsPart.wholeMembers, List.forall_mem_cons] at h
  obtain ⟨hdifficulty, hcomplexity, haction, hrisk, hcategory, -⟩ := h
  rw [RouteSignals.ofJson, RouteSignals.ofJson, hhint]
  simp only [LooseMember.bind_field?, hdifficulty, hcomplexity, haction, hrisk, hcategory]

def hintNames : List String :=
  ["hint", "modeHint", "mode_hint", "budgetHint", "budget_hint", "routeScore", "route_score"]

theorem hintNames_apart : ∀ m ∈ SignalsPart.wholeMembers, ∀ n ∈ m.names, n ∉ hintNames := by
  decide

theorem hint?_congr_of_get? (h : ∀ n ∈ hintNames, j.get? n = j'.get? n) : hint? j = hint? j' := by
  simp only [hintNames, List.forall_mem_cons] at h
  obtain ⟨hhint, hmode, hmode', hbudget, hbudget', hscore, hscore', -⟩ := h
  have hbudget := field?_congr hbudget hbudget'
  apply hint?_congr
  · rw [nestedHint?, nestedHint?, hhint]
  · exact field?_congr hmode hmode'
  · exact field?_congr hscore hscore'
  · rw [hbudget]
  · rw [hbudget]

theorem ofJson_adjust {key : String} {f : Json → Json} (hkey : key ∈ hintNames)
    (h : hint? (j.adjust key f) = hint? j) :
    RouteSignals.ofJson (j.adjust key f) = RouteSignals.ofJson j := by
  refine ofJson_congr (fun m hm => LooseMember.value?_congr (fun n hn => ?_)) h
  have hne : n ≠ key := fun heq => hintNames_apart m hm n hn (heq ▸ hkey)
  rw [Json.get?_adjust, if_neg hne]

end Congruence

/-! ## What a hint is made of -/

theorem nestedHint?_of_obj {j : Json} {members : List (String × Json)}
    (h : j.get? "hint" = some (.obj members)) :
    nestedHint? j = some (hintMembers (.obj members)) := by
  rw [nestedHint?, h]

theorem getD_hint? (j : Json) :
    let h := (nestedHint? j).getD .empty
    (hint? j).getD .empty = { h with
      mode := h.mode.or ((field? j "modeHint" "mode_hint").bind mode?)
      budget := h.budget.or ((field? j "budgetHint" "budget_hint").bind budget?)
      score := h.score.or ((field? j "routeScore" "route_score").bind number?) } := by
  intro h
  unfold hint?
  dsimp only
  split_ifs with hbeside
  · rfl
  · simp only [Bool.or_eq_true, Option.isSome_iff_ne_none, not_or, not_not] at hbeside
    obtain ⟨⟨hmode, hbudget⟩, hscore⟩ := hbeside
    simp [hmode, hbudget, hscore, h]

theorem bind_eq_of_empty {α : Type} {f : RouteHint → Option α} (hf : f .empty = none)
    (h : Option RouteHint) : h.bind f = f (h.getD .empty) := by
  cases h with
  | none => exact hf.symm
  | some h => rfl

theorem score_hint? (j : Json) : (hint? j).bind RouteHint.score =
    ((nestedHint? j).bind RouteHint.score).or
      ((field? j "routeScore" "route_score").bind number?) := by
  rw [bind_eq_of_empty rfl, bind_eq_of_empty rfl, getD_hint?]

theorem riskLevel_hint? (j : Json) : (hint? j).bind RouteHint.riskLevel =
    (nestedHint? j).bind RouteHint.riskLevel := by
  rw [bind_eq_of_empty rfl, bind_eq_of_empty rfl, getD_hint?]

theorem hintedBudget_hint? (j : Json) : (hint? j).bind RouteHint.budget =
    ((nestedHint? j).bind RouteHint.budget).or
      ((field? j "budgetHint" "budget_hint").bind budget?) := by
  rw [bind_eq_of_empty rfl, bind_eq_of_empty rfl, getD_hint?]

theorem bind_budget? (o : Json) {f : BudgetHint → Option Int64} (hf : f .empty = none) :
    (budget? o).bind f = f ⟨(field? o "maxTurns" "max_turns").bind integer?,
      (field? o "maxSubOps" "max_sub_ops").bind integer?,
      (field? o "timeBudgetSeconds" "time_budget_seconds").bind integer?⟩ := by
  unfold budget?
  dsimp only
  split_ifs with hempty
  · rw [BudgetHint.eq_empty_of_isEmpty hempty, hf]
    rfl
  · rfl

/-! ## Deleting what cannot be read -/

section Deleting

variable {j o v : Json} {m : LooseMember} {name : String}

theorem ofJson_without (hm : m ∈ SignalsPart.wholeMembers) (hname : name ∈ m.names)
    (hv : j.get? name = some v) (hbad : m.reads v = false) (h : ¬m.Hides j name) :
    RouteSignals.ofJson (j.without name) = RouteSignals.ofJson j := by
  refine ofJson_congr (SignalsPart.value?_without_of_mem .whole hm hname hv hbad h)
    (hint?_congr_of_get? (fun n hn => ?_))
  have hne : n ≠ name := fun heq => hintNames_apart m hm name hname (heq ▸ hn)
  rw [Json.get?_without, if_neg hne]

theorem budget?_without (hm : m ∈ SignalsPart.budgetMembers) (hname : name ∈ m.names)
    (hv : o.get? name = some v) (hbad : m.reads v = false) (h : ¬m.Hides o name) :
    budget? (o.without name) = budget? o :=
  budget?_congr (SignalsPart.value?_without_of_mem .hintBudget hm hname hv hbad h)

theorem hintMembers_without (hm : m ∈ SignalsPart.hintMembers) (hname : name ∈ m.names)
    (hv : o.get? name = some v) (hbad : m.reads v = false) (h : ¬m.Hides o name) :
    hintMembers (o.without name) = hintMembers o := by
  have hapart : ∀ m ∈ SignalsPart.hintMembers, "budget" ∉ m.names := by decide
  have hne : "budget" ≠ name := fun heq => hapart m hm (heq ▸ hname)
  refine hintMembers_congr
    (SignalsPart.value?_without_of_mem .hint hm hname hv hbad h) ?_
  rw [Json.get?_without, if_neg hne]

theorem hintMembers_adjust {f : Json → Json} (ho : j.get? "budget" = some o)
    (h : budget? (f o) = budget? o) : hintMembers (j.adjust "budget" f) = hintMembers j := by
  have hapart : ∀ m ∈ SignalsPart.hintMembers, "budget" ∉ m.names := by decide
  refine hintMembers_congr (fun m hm => LooseMember.value?_congr (fun n hn => ?_)) ?_
  · have hne : n ≠ "budget" := fun heq => hapart m hm (heq ▸ hn)
    rw [Json.get?_adjust, if_neg hne]
  · simpa [ho] using h

theorem hint?_adjust_hint {ms ms' : List (String × Json)} (f : Json → Json)
    (ho : j.get? "hint" = some (.obj ms)) (hf : f (.obj ms) = .obj ms')
    (h : hintMembers (f (.obj ms)) = hintMembers (.obj ms)) :
    hint? (j.adjust "hint" f) = hint? j := by
  have ho' : (j.adjust "hint" f).get? "hint" = some (.obj ms') := by simp [ho, hf]
  apply hint?_congr
  · rw [nestedHint?_of_obj ho, nestedHint?_of_obj ho', ← hf, h]
  all_goals simp [field?]

theorem hint?_adjust_budget {key : String} {f : Json → Json}
    (hkey : key = "budgetHint" ∨ key = "budget_hint") (ho : j.get? key = some o)
    (h : budget? (f o) = budget? o) : hint? (j.adjust key f) = hint? j := by
  rcases hkey with rfl | rfl
  · apply hint?_congr
    · simp [nestedHint?]
    · simp [field?]
    · simp [field?]
    · simp [field?, ho]
    · simp [field?, ho, h]
  · apply hint?_congr
    · simp [nestedHint?]
    · simp [field?]
    · simp [field?]
    · cases hc : j.get? "budgetHint" <;> simp [field?, hc, ho]
    · cases hc : j.get? "budgetHint" <;> simp [field?, hc, ho, h]

/-! ### Deleting what hides another member -/

theorem ofJson_without_ne (hm : m ∈ SignalsPart.wholeMembers) (hv : j.get? name = some v)
    (hbad : m.reads v = false) (h : m.Hides j name) :
    RouteSignals.ofJson (j.without name) ≠ RouteSignals.ofJson j := by
  intro heq
  simp only [SignalsPart.wholeMembers, List.mem_cons, List.not_mem_nil, or_false] at hm
  rcases hm with rfl | rfl | rfl | rfl | rfl
  · exact h.bind_field?_ne hv hbad (congrArg RouteSignals.difficulty heq)
  · exact h.bind_field?_ne hv hbad (congrArg RouteSignals.complexity heq)
  · exact h.bind_field?_ne hv hbad (congrArg RouteSignals.action heq)
  · exact h.bind_field?_ne hv hbad (congrArg RouteSignals.securityRisk heq)
  · exact h.bind_field?_ne hv hbad (congrArg RouteSignals.category heq)

theorem budget?_without_ne (hm : m ∈ SignalsPart.budgetMembers) (hv : o.get? name = some v)
    (hbad : m.reads v = false) (h : m.Hides o name) : budget? (o.without name) ≠ budget? o := by
  intro heq
  have hfield : ∀ {f : BudgetHint → Option Int64}, f .empty = none → _ := fun {f} hf =>
    (bind_budget? (o.without name) hf).symm.trans
      ((congrArg (fun b => b.bind f) heq).trans (bind_budget? o hf))
  simp only [SignalsPart.budgetMembers, List.mem_cons, List.not_mem_nil, or_false] at hm
  rcases hm with rfl | rfl | rfl
  · exact h.bind_field?_ne hv hbad (hfield (f := BudgetHint.maxTurns) rfl)
  · exact h.bind_field?_ne hv hbad (hfield (f := BudgetHint.maxSubOps) rfl)
  · exact h.bind_field?_ne hv hbad (hfield (f := BudgetHint.seconds) rfl)

theorem hint?_adjust_hint_ne (hm : m ∈ SignalsPart.hintMembers) (ho : j.get? "hint" = some o)
    (hv : o.get? name = some v) (hbad : m.reads v = false) (h : m.Hides o name)
    (halone : SignalsPart.hint.Alone j) :
    hint? (j.adjust "hint" (fun o => o.without name)) ≠ hint? j := by
  intro heq
  obtain ⟨members, rfl⟩ := Json.exists_obj_of_get? hv
  have ho' : (j.adjust "hint" (fun o => o.without name)).get? "hint" =
      some ((Json.obj members).without name) := by simp [ho]
  simp only [SignalsPart.hintMembers, List.mem_cons, List.not_mem_nil, or_false] at hm
  rcases hm with rfl | rfl | rfl
  · exact h.2.1 rfl
  · have halone : (field? j "routeScore" "route_score").bind number? = none := halone
    have hscore := score_hint? (j.adjust "hint" (fun o => o.without name))
    rw [heq, score_hint?, field?_adjust_of_ne (by decide) (by decide), halone, Option.or_none,
      Option.or_none, nestedHint?_of_obj ho, nestedHint?_of_obj ho'] at hscore
    exact h.bind_field?_ne hv hbad hscore.symm
  · have hrisk := riskLevel_hint? (j.adjust "hint" (fun o => o.without name))
    rw [heq, riskLevel_hint?, nestedHint?_of_obj ho, nestedHint?_of_obj ho'] at hrisk
    exact h.bind_field?_ne hv hbad hrisk.symm

theorem hint?_adjust_hintBudget_ne {b : Json} (ho : j.get? "hint" = some o)
    (hb : o.get? "budget" = some b) {f : Json → Json} (h : budget? (f b) ≠ budget? b)
    (halone : SignalsPart.hintBudget.Alone j) :
    hint? (j.adjust "hint" (fun o => o.adjust "budget" f)) ≠ hint? j := by
  intro heq
  obtain ⟨members, rfl⟩ := Json.exists_obj_of_get? hb
  have ho' : (j.adjust "hint" (fun o => o.adjust "budget" f)).get? "hint" =
      some ((Json.obj members).adjust "budget" f) := by simp [ho]
  have halone : (field? j "budgetHint" "budget_hint").bind budget? = none := halone
  have hbudget := hintedBudget_hint? (j.adjust "hint" (fun o => o.adjust "budget" f))
  rw [heq, hintedBudget_hint?, field?_adjust_of_ne (by decide) (by decide), halone, Option.or_none,
    Option.or_none, nestedHint?_of_obj ho, nestedHint?_of_obj ho'] at hbudget
  change (hintMembers (.obj members)).budget =
    (hintMembers ((Json.obj members).adjust "budget" f)).budget at hbudget
  rw [budget_hintMembers, budget_hintMembers, Json.get?_adjust, if_pos rfl, hb] at hbudget
  exact h hbudget.symm

theorem hint?_adjust_budget_ne {key : String} {f : Json → Json} (ho : j.get? key = some o)
    (hkey : key = "budgetHint" ∨ key = "budget_hint" ∧ j.get? "budgetHint" = none)
    (h : budget? (f o) ≠ budget? o) (hnested : (nestedHint? j).bind RouteHint.budget = none) :
    hint? (j.adjust key f) ≠ hint? j := by
  intro heq
  have hnested' : nestedHint? (j.adjust key f) = nestedHint? j := by
    rcases hkey with rfl | ⟨rfl, -⟩ <;> simp [nestedHint?]
  have hbudget := hintedBudget_hint? (j.adjust key f)
  rw [heq, hintedBudget_hint?, hnested', hnested, Option.none_or, Option.none_or] at hbudget
  apply h
  rcases hkey with rfl | ⟨rfl, hnone⟩
  · simpa [field?, ho] using hbudget.symm
  · simpa [field?, ho, hnone] using hbudget.symm

end Deleting

/-- Signals are read as if a member that cannot be read were missing, unless that member is written
in camel case and hides one in snake case that can be read. Then it makes a difference, if nothing
else in the signals has a value for the same part. -/
theorem malformed_is_missing_unless_hiding (j : Json) (part : SignalsPart) {m : LooseMember}
    (hm : m ∈ part.members) {o v : Json} (ho : j.at? part.path = some o) {name : String}
    (hname : name ∈ m.names) (hv : o.get? name = some v) (hbad : m.reads v = false) :
    let deleted := RouteSignals.ofJson (j.deleteAt name part.path)
    (¬m.Hides o name → deleted = RouteSignals.ofJson j) ∧
      (m.Hides o name → part.Alone j → deleted ≠ RouteSignals.ofJson j) := by
  intro deleted
  have hhint : ∀ {j'}, hint? j' ≠ hint? j → RouteSignals.ofJson j' ≠ RouteSignals.ofJson j :=
    fun hne heq => hne (congrArg RouteSignals.hint heq)
  cases part with
  | whole =>
    obtain rfl := Option.some.inj ho
    exact ⟨ofJson_without hm hname hv hbad, fun h _ => ofJson_without_ne hm hv hbad h⟩
  | hint =>
    have ho : j.get? "hint" = some o := by simpa [SignalsPart.path, Json.at?] using ho
    refine ⟨fun h => ?_, fun h halone => hhint (hint?_adjust_hint_ne hm ho hv hbad h halone)⟩
    obtain ⟨members, rfl⟩ := Json.exists_obj_of_get? hv
    exact ofJson_adjust (by decide)
      (hint?_adjust_hint _ ho rfl (hintMembers_without hm hname hv hbad h))
  | hintBudget =>
    obtain ⟨hint, hget, ho⟩ : ∃ hint, j.get? "hint" = some hint ∧ hint.get? "budget" = some o := by
      simpa [SignalsPart.path, Json.at?, Option.bind_eq_some_iff] using ho
    refine ⟨fun h => ?_, fun h halone => hhint
      (hint?_adjust_hintBudget_ne hget ho (budget?_without_ne hm hv hbad h) halone)⟩
    obtain ⟨members, rfl⟩ := Json.exists_obj_of_get? ho
    exact ofJson_adjust (by decide) (hint?_adjust_hint (fun o => o.adjust "budget" _) hget rfl
      (hintMembers_adjust ho (budget?_without hm hname hv hbad h)))
  | budgetHint =>
    have ho : j.get? "budgetHint" = some o := by simpa [SignalsPart.path, Json.at?] using ho
    refine ⟨fun h => ?_, fun h halone => hhint (hint?_adjust_budget_ne ho (Or.inl rfl)
      (budget?_without_ne hm hv hbad h) halone)⟩
    exact ofJson_adjust (by decide)
      (hint?_adjust_budget (Or.inl rfl) ho (budget?_without hm hname hv hbad h))
  | budgetHintSnake =>
    have ho : j.get? "budget_hint" = some o := by simpa [SignalsPart.path, Json.at?] using ho
    refine ⟨fun h => ?_, fun h halone => hhint (hint?_adjust_budget_ne ho
      (Or.inr ⟨rfl, halone.1⟩) (budget?_without_ne hm hv hbad h) halone.2)⟩
    exact ofJson_adjust (by decide)
      (hint?_adjust_budget (Or.inr rfl) ho (budget?_without hm hname hv hbad h))

def turnsNotCounted : Json := .obj [
  ("difficulty_score", .str "0.4"),
  ("hint", .obj [("routeScore", .str "0.8"),
    ("budget", .obj [("max_turns", .str "many"), ("maxSubOps", .int 3)])])]

theorem malformed_is_missing_turnsNotCounted :
    let m : LooseMember := .of "maxTurns" "max_turns" integer?
    let budget : Json := .obj [("max_turns", .str "many"), ("maxSubOps", .int 3)]
    m ∈ SignalsPart.hintBudget.members ∧
      turnsNotCounted.at? SignalsPart.hintBudget.path = some budget ∧
      "max_turns" ∈ m.names ∧ budget.get? "max_turns" = some (.str "many") ∧
      m.reads (.str "many") = false ∧
      RouteSignals.ofJson (turnsNotCounted.deleteAt "max_turns" SignalsPart.hintBudget.path) =
        RouteSignals.ofJson turnsNotCounted := by
  intro m budget
  have hm : m ∈ SignalsPart.hintBudget.members := List.mem_cons_self
  have hat : turnsNotCounted.at? SignalsPart.hintBudget.path = some budget := rfl
  have hname : "max_turns" ∈ m.names := by decide
  have hget : budget.get? "max_turns" = some (.str "many") := rfl
  have hbad : m.reads (.str "many") = false := by decide +kernel
  have hhides : ¬m.Hides budget "max_turns" := by decide
  exact ⟨hm, hat, hname, hget, hbad, (malformed_is_missing_unless_hiding turnsNotCounted .hintBudget
    hm hat hname hget hbad).1 hhides⟩

/-- The score in camel case cannot be read, and the one in snake case is not looked at. -/
def hiddenScore : Json :=
  .obj [("difficultyScore", .str "hard"), ("difficulty_score", .float 0.7)]

theorem malformed_hides_hiddenScore :
    hiddenScore.get? "difficultyScore" = some (.str "hard") ∧ number? (.str "hard") = none ∧
      (RouteSignals.ofJson hiddenScore).difficulty = none ∧
      (RouteSignals.ofJson (hiddenScore.without "difficultyScore")).difficulty = some 0.7 ∧
      RouteSignals.ofJson (hiddenScore.without "difficultyScore") ≠
        RouteSignals.ofJson hiddenScore := by
  refine ⟨rfl, ?_, ?_, ?_, ?_⟩ <;> decide +kernel

end LooseSignals

end LaneQuota
