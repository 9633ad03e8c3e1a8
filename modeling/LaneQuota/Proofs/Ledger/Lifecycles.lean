import LaneQuota.Ledger.Operation
import Mathlib

namespace LaneQuota

inductive Ending where
  | commit (actual : Usage)
  | rollback (mode : RollbackMode)
deriving DecidableEq

structure Lifecycle where
  id : String
  request : Request
  ending : Ending
deriving DecidableEq

namespace Lifecycle

def spent? (c : Lifecycle) : Option Usage :=
  match c.ending with
  | .commit actual => some actual
  | .rollback .keep => some c.request.estimate
  | .rollback .release => none

def reservation (c : Lifecycle) (day : String) : Reservation :=
  ⟨c.request.key, c.request.tenant, c.request.estimate, day⟩

def Charges (c : Lifecycle) (scope : Scope) (key : String) : Prop :=
  scope ∈ Scope.charged c.request.tenant ∧ c.request.key.text = key

instance (c : Lifecycle) (scope : Scope) (key : String) : Decidable (c.Charges scope key) :=
  inferInstanceAs (Decidable (_ ∧ _))

end Lifecycle

inductive Turn where
  | begins (c : Lifecycle)
  | ends (c : Lifecycle)
deriving DecidableEq

namespace Turn

def lifecycle : Turn → Lifecycle
  | begins c => c
  | ends c => c

def operation : Turn → Operation
  | begins c => .reserve c.id c.request
  | ends c =>
    match c.ending with
    | .commit actual => .commit c.id c.request.key c.request.tenant actual
    | .rollback mode => .rollback c.id mode

def begun? : Turn → Option Lifecycle
  | begins c => some c
  | ends _ => none

def ended? : Turn → Option Lifecycle
  | begins _ => none
  | ends c => some c

end Turn

def Lifecycle.turns (c : Lifecycle) : List Turn := [.begins c, .ends c]

structure Interleaves (family : List Lifecycle) (turns : List Turn) : Prop where
  perm : turns.Perm (family.flatMap Lifecycle.turns)
  ordered : ∀ c ∈ family, c.turns.Sublist turns

theorem mem_left_of_pair_sublist {α : Type} {a b : α} {l r : List α}
    (h : [a, b].Sublist (l ++ b :: r)) (hnodup : (l ++ b :: r).Nodup) : a ∈ l := by
  have hb : b ∉ r := (List.nodup_cons.mp (List.nodup_append.mp hnodup).2.1).1
  obtain ⟨l', r', heq, hl, hr⟩ := List.sublist_append_iff.mp h
  cases l' with
  | nil =>
    obtain rfl : r' = [a, b] := heq.symm
    cases hr with
    | cons _ hr => exact absurd (hr.subset (by simp)) hb
    | cons_cons _ hr => exact absurd (hr.subset List.mem_cons_self) hb
  | cons x l' =>
    obtain rfl : a = x := (List.cons.inj heq).1
    exact hl.subset List.mem_cons_self

theorem mem_right_of_pair_sublist {α : Type} {a b : α} {l r : List α}
    (h : [a, b].Sublist (l ++ a :: r)) (hnodup : (l ++ a :: r).Nodup) : b ∈ r := by
  obtain ⟨-, hright, hdisj⟩ := List.nodup_append.mp hnodup
  have ha : a ∉ r := (List.nodup_cons.mp hright).1
  obtain ⟨l', r', heq, hl, hr⟩ := List.sublist_append_iff.mp h
  cases l' with
  | nil =>
    obtain rfl : r' = [a, b] := heq.symm
    cases hr with
    | cons _ hr => exact absurd (hr.subset List.mem_cons_self) ha
    | cons_cons _ hr => exact hr.subset List.mem_cons_self
  | cons x l' =>
    obtain rfl : a = x := (List.cons.inj heq).1
    exact absurd rfl (hdisj a (hl.subset List.mem_cons_self) a List.mem_cons_self)

section Turns

variable (family : List Lifecycle)

theorem filter_turns (p : Lifecycle → Bool) :
    (family.flatMap Lifecycle.turns).filter (fun x => p x.lifecycle) =
      (family.filter p).flatMap Lifecycle.turns := by
  induction family with
  | nil => rfl
  | cons c family ih =>
    cases hp : p c <;> simp [Lifecycle.turns, Turn.lifecycle, hp, ← ih]

theorem begun_turns : (family.flatMap Lifecycle.turns).filterMap Turn.begun? = family := by
  induction family with
  | nil => rfl
  | cons c family ih =>
    rw [List.flatMap_cons, List.filterMap_append, ih]
    rfl

theorem ended_turns : (family.flatMap Lifecycle.turns).filterMap Turn.ended? = family := by
  induction family with
  | nil => rfl
  | cons c family ih =>
    rw [List.flatMap_cons, List.filterMap_append, ih]
    rfl

end Turns

namespace Interleaves

variable {family : List Lifecycle} {turns turns' l r : List Turn} {c : Lifecycle}

theorem mem_iff (h : Interleaves family turns) :
    (Turn.begins c ∈ turns ↔ c ∈ family) ∧ (Turn.ends c ∈ turns ↔ c ∈ family) := by
  rw [h.perm.mem_iff, h.perm.mem_iff]
  simp [Lifecycle.turns]

theorem nodup (h : Interleaves family turns) (hf : family.Nodup) : turns.Nodup := by
  rw [h.perm.nodup_iff, List.nodup_flatMap]
  refine ⟨fun c _ => by simp [Lifecycle.turns], hf.imp fun {c d} hne => ?_⟩
  simp [Lifecycle.turns, Function.onFun, List.Disjoint, hne]

theorem begins_before (h : Interleaves family (l ++ .ends c :: r)) (hf : family.Nodup) :
    Turn.begins c ∈ l ∧ Turn.ends c ∉ l := by
  have hnodup := h.nodup hf
  have hc := h.mem_iff.2.mp (List.mem_append_right l List.mem_cons_self)
  refine ⟨mem_left_of_pair_sublist (h.ordered c hc) hnodup, fun hl => ?_⟩
  exact (List.nodup_append.mp hnodup).2.2 _ hl _ List.mem_cons_self rfl

theorem ends_after (h : Interleaves family (l ++ .begins c :: r)) (hf : family.Nodup) :
    Turn.begins c ∉ l ∧ Turn.ends c ∉ l := by
  have hnodup := h.nodup hf
  have hdisj := (List.nodup_append.mp hnodup).2.2
  have hc := h.mem_iff.1.mp (List.mem_append_right l List.mem_cons_self)
  have hr := mem_right_of_pair_sublist (h.ordered c hc) hnodup
  exact ⟨fun hl => hdisj _ hl _ List.mem_cons_self rfl,
    fun hl => hdisj _ hl _ (List.mem_cons_of_mem _ hr) rfl⟩

theorem filter (h : Interleaves family turns) (p : Lifecycle → Bool) :
    Interleaves (family.filter p) (turns.filter (fun x => p x.lifecycle)) := by
  refine ⟨(h.perm.filter _).trans (List.Perm.of_eq (filter_turns family p)), fun c hc => ?_⟩
  rw [List.mem_filter] at hc
  have hsub := (h.ordered c hc.1).filter (fun x => p x.lifecycle)
  simpa [Lifecycle.turns, Turn.lifecycle, hc.2] using hsub

theorem begun_perm (h : Interleaves family turns) : (turns.filterMap Turn.begun?).Perm family :=
  (h.perm.filterMap _).trans (List.Perm.of_eq (begun_turns family))

theorem ended_perm (h : Interleaves family turns) : (turns.filterMap Turn.ended?).Perm family :=
  (h.perm.filterMap _).trans (List.Perm.of_eq (ended_turns family))

end Interleaves

end LaneQuota
