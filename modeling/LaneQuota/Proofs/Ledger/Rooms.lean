import LaneQuota.Proofs.Ledger.Hours

namespace LaneQuota

open Ledger

attribute [ext] LedgerState Ledger

theorem SortedMap.eq_of_nested {α : Type} {m n : SortedMap (SortedMap α)}
    (hroom : ∀ t, (m.get? t).isSome = (n.get? t).isSome)
    (h : ∀ t k, (m.get? t).bind (fun x => x.get? k) = (n.get? t).bind (fun x => x.get? k)) :
    m = n := by
  apply eq_of_get?_eq
  intro t
  have hroom := hroom t
  have h := h t
  cases hm : m.get? t with
  | none =>
    have hnone : n.get? t = none := by simpa [hm] using hroom.symm
    rw [hnone]
  | some x =>
    rw [hm] at hroom h
    obtain ⟨y, hy⟩ := Option.isSome_iff_exists.mp hroom.symm
    rw [hy] at h ⊢
    exact congrArg some (eq_of_get?_eq h)

namespace LedgerState

def rooms (s : LedgerState) (t : String) : Bool × Bool × Bool :=
  ((s.tenantBuckets.get? t).isSome, (s.tenantHistory.get? t).isSome,
    (s.tenantHourly.get? t).isSome)

theorem eq_of_lookups {s s' : LedgerState}
    (hbucket : ∀ scope key, s.bucket? scope key = s'.bucket? scope key)
    (hhistory : ∀ scope key, s.history? scope key = s'.history? scope key)
    (hhourly : ∀ scope key, s.hourly? scope key = s'.hourly? scope key)
    (hrooms : ∀ t, s.rooms t = s'.rooms t) (hexempt : s.exemptions = s'.exemptions) : s = s' := by
  have hroom := fun t => Prod.mk.inj (hrooms t)
  have hroom' := fun t => Prod.mk.inj (hroom t).2
  have hexempt' := Prod.mk.inj hexempt
  apply LedgerState.ext
  · exact SortedMap.eq_of_get?_eq (hbucket .shared)
  · exact SortedMap.eq_of_get?_eq (hhistory .shared)
  · exact SortedMap.eq_of_nested (fun t => (hroom t).1) (fun t => hbucket (.tenant t))
  · exact SortedMap.eq_of_nested (fun t => (hroom' t).1) (fun t => hhistory (.tenant t))
  · exact SortedMap.eq_of_get?_eq (hhourly .shared)
  · exact SortedMap.eq_of_nested (fun t => (hroom' t).2) (fun t => hhourly (.tenant t))
  · exact hexempt'.1
  · exact hexempt'.2

variable (s : LedgerState) (scope scope' : Scope) (key key' : String)

theorem history?_of_ne_nil (h : s.history scope key ≠ []) :
    s.history? scope key = some (s.history scope key) := by
  rw [history_eq] at h ⊢
  cases hh : s.history? scope key with
  | none => simp [hh] at h
  | some bs => rfl

def Extends (s s' : LedgerState) : Prop :=
  ∀ scope key, s'.history? scope key = s.history? scope key ∨
    (s.history scope key).length < (s'.history scope key).length

namespace Extends

variable {s₁ s₂ s₃ : LedgerState} {scope : Scope} {key : String}

theorem of_eq (h : ∀ scope key, s₂.history? scope key = s₁.history? scope key) : s₁.Extends s₂ :=
  fun scope key => Or.inl (h scope key)

theorem trans (h : s₁.Extends s₂) (h' : s₂.Extends s₃) : s₁.Extends s₃ := by
  intro scope key
  rcases h scope key with h | h
  · rw [history_eq s₁, ← h, ← history_eq]
    exact h' scope key
  · right
    rcases h' scope key with h' | h'
    · rwa [history_eq s₃, h', ← history_eq]
    · exact h.trans h'

theorem foldl {step : LedgerState → Scope → LedgerState}
    (h : ∀ (s : LedgerState) scope, s.Extends (step s scope))
    (scopes : List Scope) (s : LedgerState) : s.Extends (scopes.foldl step s) := by
  induction scopes generalizing s with
  | nil => exact of_eq (fun _ _ => rfl)
  | cons scope rest ih => exact (h s scope).trans (ih (step s scope))

theorem history?_congr (h₂ : s₁.Extends s₂) (h₃ : s₁.Extends s₃)
    (h : s₂.history scope key = s₃.history scope key) :
    s₂.history? scope key = s₃.history? scope key := by
  by_cases hlt : (s₁.history scope key).length < (s₂.history scope key).length
  · have hne : s₂.history scope key ≠ [] := by
      intro hnil
      simp [hnil] at hlt
    rw [history?_of_ne_nil _ _ _ hne, h, history?_of_ne_nil _ _ _ (h ▸ hne)]
  · rw [(h₂ scope key).resolve_right hlt, (h₃ scope key).resolve_right (h ▸ hlt)]

end Extends

theorem history?_setHourly (log : HourlyLog) :
    (s.setHourly scope key log).history? scope' key' = s.history? scope' key' := by
  cases scope <;> cases scope' <;> rfl

theorem extends_retire (b : Bucket) : s.Extends (s.retire scope key b) := by
  intro scope' key'
  rw [history_eq (s.retire scope key b), history?_retire]
  split_ifs with h
  · right
    simp [← h.1, ← h.2]
  · exact Or.inl rfl

theorem extends_current (w : Window) (now : Instant) :
    s.Extends (s.current scope key w now).state := by
  have hroom : s.Extends (s.makeRoom scope) := .of_eq (fun _ _ => history?_makeRoom _ _ _ _)
  have hset : ∀ (s : LedgerState) b, s.Extends (s.setBucket scope key b) := fun s b =>
    .of_eq (fun _ _ => history?_setBucket _ _ _ _ _ _)
  unfold current
  dsimp only
  cases (s.makeRoom scope).bucket? scope key with
  | none => exact hroom.trans (hset _ _)
  | some b =>
    dsimp only
    split_ifs
    · exact hroom
    · exact hroom.trans (hset _ _)
    · exact hroom.trans ((extends_retire _ _ _ _).trans (hset _ _))

theorem extends_adjustCurrent (w : Window) (now : Instant) (f : Bucket → Bucket) :
    s.Extends (s.adjustCurrent scope key w now f) :=
  (s.extends_current scope key w now).trans
    (.of_eq (fun _ _ => history?_setBucket _ _ _ _ _ _))

theorem rooms_makeRoom (t : String) : (s.makeRoom scope).rooms t =
    if scope = .tenant t then (true, true, (s.rooms t).2.2) else s.rooms t := by
  cases scope with
  | shared => rfl
  | tenant t' =>
    simp only [makeRoom, rooms, SortedMap.get?_adjust, Scope.tenant.injEq]
    split_ifs <;> rfl

theorem rooms_setBucket (b : Bucket) (t : String) : (s.setBucket scope key b).rooms t =
    if scope = .tenant t then (true, (s.rooms t).2) else s.rooms t := by
  cases scope with
  | shared => rfl
  | tenant t' =>
    simp only [setBucket, rooms, SortedMap.get?_adjust, Scope.tenant.injEq]
    split_ifs <;> rfl

theorem rooms_retire (b : Bucket) (t : String) : (s.retire scope key b).rooms t =
    if scope = .tenant t then ((s.rooms t).1, true, (s.rooms t).2.2) else s.rooms t := by
  cases scope with
  | shared => rfl
  | tenant t' =>
    simp only [retire, rooms, SortedMap.get?_adjust, Scope.tenant.injEq]
    split_ifs <;> rfl

theorem rooms_setHourly (log : HourlyLog) (t : String) : (s.setHourly scope key log).rooms t =
    if scope = .tenant t then ((s.rooms t).1, (s.rooms t).2.1, true) else s.rooms t := by
  cases scope with
  | shared => rfl
  | tenant t' =>
    simp only [setHourly, rooms, SortedMap.get?_adjust, Scope.tenant.injEq]
    split_ifs <;> rfl

theorem rooms_current (w : Window) (now : Instant) (t : String) :
    (s.current scope key w now).state.rooms t =
      if scope = .tenant t then (true, true, (s.rooms t).2.2) else s.rooms t := by
  unfold current
  dsimp only
  cases (s.makeRoom scope).bucket? scope key with
  | none =>
    simp only [rooms_setBucket, rooms_makeRoom]
    split_ifs <;> rfl
  | some b =>
    dsimp only
    split_ifs <;> simp only [rooms_setBucket, rooms_retire, rooms_makeRoom] <;> simp [*]

theorem rooms_adjustCurrent (w : Window) (now : Instant) (f : Bucket → Bucket) (t : String) :
    (s.adjustCurrent scope key w now f).rooms t =
      if scope = .tenant t then (true, true, (s.rooms t).2.2) else s.rooms t := by
  rw [adjustCurrent, rooms_setBucket, rooms_current]
  split_ifs <;> rfl

end LedgerState

theorem rooms_foldl_charged {step : LedgerState → Scope → LedgerState} {t : String}
    {f : Bool × Bool × Bool → Bool × Bool × Bool} (h : ∀ s scope, (step s scope).rooms t =
      if scope = .tenant t then f (s.rooms t) else s.rooms t)
    (tenant : Option String) (s : LedgerState) : ((Scope.charged tenant).foldl step s).rooms t =
      if tenant = some t then f (s.rooms t) else s.rooms t := by
  cases tenant <;> simp [Scope.charged, h]

section Charging

variable (tenant : Option String) (s : LedgerState) (w : Window) (now : Instant) (t : String)

theorem extends_hold (key : String) (estimate : Usage) :
    s.Extends (hold s key tenant estimate w now) :=
  .foldl (fun s scope => s.extends_adjustCurrent scope key w now _) _ s

theorem rooms_hold (key : String) (estimate : Usage) :
    (hold s key tenant estimate w now).rooms t =
      if tenant = some t then (true, true, (s.rooms t).2.2) else s.rooms t :=
  rooms_foldl_charged (f := fun r => (true, true, r.2.2))
    (fun s scope => s.rooms_adjustCurrent scope key w now _ t) tenant s

theorem extends_release (r : Reservation) : s.Extends (release s r w now) :=
  .foldl (fun s scope => s.extends_adjustCurrent scope r.key.text w now _) _ s

theorem rooms_release (r : Reservation) : (release s r w now).rooms t =
    if r.tenant = some t then (true, true, (s.rooms t).2.2) else s.rooms t :=
  rooms_foldl_charged (f := fun r => (true, true, r.2.2))
    (fun s scope => s.rooms_adjustCurrent scope r.key.text w now _ t) r.tenant s

variable (p : LedgerPolicy) (key : LaneKey) (usage : Usage)

theorem extends_spend : s.Extends (spend p key tenant usage w now s) := by
  apply LedgerState.Extends.foldl
  intro s scope
  apply (s.extends_current scope key.text w now).trans
  apply LedgerState.Extends.of_eq
  intro scope' key'
  rw [spendIn, LedgerState.history?_setHourly, LedgerState.history?_setBucket]

theorem rooms_spend : (spend p key tenant usage w now s).rooms t =
    if tenant = some t then (true, true, true) else s.rooms t := by
  refine rooms_foldl_charged (f := fun _ => (true, true, true)) (fun s scope => ?_) tenant s
  rw [spendIn, LedgerState.rooms_setHourly, LedgerState.rooms_setBucket, LedgerState.rooms_current]
  split_ifs <;> rfl

end Charging

end LaneQuota
