import LaneQuota.Proofs.Lane.Texts
import LaneQuota.Proofs.Ledger.Runs

namespace LaneQuota

namespace Ledger

def orderly : Rule := fun l last now op =>
  match op with
  | .reserve _ r => last = some (now, r) ∧ ':' ∉ r.key.lane.toList
  | .commit id key tenant _ =>
    ∃ r, l.reservations.get? id = some r ∧ r.key = key ∧ r.tenant = tenant
  | .toggleUnlimited enabled _ => enabled = false
  | .applyReport _ _ _ => False
  | _ => True

def Strict (l : Ledger) : Prop := l.state.exemptions = (false, ∅)

variable {l : Ledger} {last : Option (Instant × Request)} {now : Instant} {op : Operation}

theorem exemption?_of_strict (h : l.Strict) (tenant : Option String) :
    l.exemption? tenant = none := by
  obtain ⟨h1, h2⟩ := Prod.mk.inj h
  cases tenant <;> simp [exemption?, h1, h2, SortedMap.contains]

theorem Effect.strict {l' : Ledger} (he : l.Effect now op l') (h : l.Strict)
    (hop : orderly l last now op) : l'.Strict := by
  cases he with
  | looked hs => exact hs.exemptions.trans h
  | held hid => exact (exemptions_hold _ _ _ _ _ _).trans h
  | committed hid =>
    exact ((exemptions_spend _ _ _ _ _ _ _).trans (exemptions_release _ _ _ _)).trans h
  | orphaned hid => exact (exemptions_spend _ _ _ _ _ _ _).trans h
  | released hid => exact (exemptions_release _ _ _ _).trans h
  | kept hid =>
    exact ((exemptions_spend _ _ _ _ _ _ _).trans (exemptions_release _ _ _ _)).trans h
  | @toggled enabled tenant =>
    obtain rfl : enabled = false := hop
    obtain ⟨h1, h2⟩ := Prod.mk.inj h
    cases tenant with
    | none => exact Prod.ext rfl h2
    | some t =>
      refine Prod.ext h1 ?_
      change l.state.exempt.erase t = ∅
      rw [h2]
      rfl
  | raised drift hexempt hcell => exact hexempt.trans h

theorem admitted_of_admission {limits : Limits} {later : Instant} {r : Request}
    (hstrict : l.Strict) (hlimits : l.policy.limits.enforced? r.key = some limits)
    (h : l.admission now op = some (later, r)) :
    r.Admitted l.policy (Window.at later l.policy.zone) later limits (l.step now op).ledger.state := by
  cases op with
  | canCall r' =>
    simp only [admission] at h
    split_ifs at h with hallow
    obtain ⟨rfl, rfl⟩ := Prod.mk.inj (Option.some.inj h)
    have hadm := (l.allowed_canCall_iff now (exemption?_of_strict hstrict _) hlimits).mp hallow
    obtain ⟨s, hs, heq⟩ := l.looksTo_canCall now r'
    change r'.Admitted _ _ _ _ (l.canCall now r').ledger.state
    rw [heq]
    exact hadm.looked hs
  | _ => contradiction

theorem scope_cases {tenant : Option String} {scope : Scope} (h : scope ∈ Scope.charged tenant) :
    scope = Scope.ofTenant tenant ∨ (tenant.isSome = true ∧ scope = .shared) := by
  cases tenant with
  | none =>
    exact Or.inl (List.mem_singleton.mp h)
  | some t =>
    rw [Scope.charged, List.mem_cons, List.mem_singleton] at h
    rcases h with h | h
    · exact Or.inl h
    · exact Or.inr ⟨rfl, h⟩

end Ledger

end LaneQuota
