import LaneQuota.Proofs.Ledger.Outstanding

namespace LaneQuota

namespace Ledger

inductive Effect (l : Ledger) (now : Instant) : Operation → Ledger → Prop
  | looked {op : Operation} {s : LedgerState} (hs : Looked (l.window now) now l.state s) :
      Effect l now op { l with state := s }
  | held {id : String} {r : Request} (hid : l.reservations.get? id = none) :
      Effect l now (.reserve id r) { l with
        state := hold l.state r.key.text r.tenant r.estimate (l.window now) now
        reservations := l.reservations.insert id
          ⟨r.key, r.tenant, r.estimate, (l.window now).day⟩ }
  | committed {id : String} {key : LaneKey} {tenant : Option String} {actual : Usage}
      {r : Reservation} (hid : l.reservations.get? id = some r) :
      Effect l now (.commit id key tenant actual) { l with
        state := spend l.policy key tenant actual (l.window now) now
          (release l.state r (l.window now) now)
        reservations := l.reservations.erase id }
  | orphaned {id : String} {key : LaneKey} {tenant : Option String} {actual : Usage}
      (hid : l.reservations.get? id = none) :
      Effect l now (.commit id key tenant actual) { l with
        state := spend l.policy key tenant actual (l.window now) now l.state
        orphanedCommits := l.orphanedCommits + 1 }
  | released {id : String} {r : Reservation} (hid : l.reservations.get? id = some r) :
      Effect l now (.rollback id .release) { l with
        state := release l.state r (l.window now) now
        reservations := l.reservations.erase id }
  | kept {id : String} {r : Reservation} (hid : l.reservations.get? id = some r) :
      Effect l now (.rollback id .keep) { l with
        state := spend l.policy r.key r.tenant r.estimate (l.window now) now
          (release l.state r (l.window now) now)
        reservations := l.reservations.erase id }
  | toggled {enabled : Bool} {tenant : Option String} :
      Effect l now (.toggleUnlimited enabled tenant) (l.toggleUnlimited enabled tenant).ledger
  | raised {key : LaneKey} {start : Date} {reported : UInt64} {s : LedgerState} (drift : UInt64)
      (hexempt : s.exemptions = l.state.exemptions)
      (hcell : ∀ scope key', s.cell scope key' = if Scope.shared = scope ∧ key.text = key' then
        (l.state.cell .shared key.text).reporting (l.window now) now
          (l.policy.limits.enforced? key) drift
        else l.state.cell scope key') :
      Effect l now (.applyReport key start reported) { l with state := s }

variable {l l' : Ledger} {now : Instant} {op : Operation}

theorem effect_step (l : Ledger) (now : Instant) (op : Operation) :
    l.Effect now op (l.step now op).ledger := by
  by_cases hask : op.asks = true
  · obtain ⟨s, hs, heq⟩ := l.looksTo_step now hask
    rw [heq]
    exact .looked hs
  cases op with
  | reserve id r =>
    change l.Effect now _ (l.reserve now id r).ledger
    unfold reserve
    split_ifs with hopen
    · exact .looked (Looked.refl _ _ _)
    · apply Effect.held
      simpa [SortedMap.contains] using hopen
  | commit id key tenant actual =>
    change l.Effect now _ (l.commit now id key tenant actual).ledger
    unfold commit
    cases hid : l.reservations.get? id with
    | none =>
      rw [SortedMap.erase_of_none hid]
      exact .orphaned hid
    | some r => exact .committed hid
  | rollback id mode =>
    change l.Effect now _ (l.rollback now id mode).ledger
    unfold rollback
    cases hid : l.reservations.get? id with
    | none => exact .looked (Looked.refl _ _ _)
    | some r =>
      cases mode with
      | release => exact .released hid
      | keep => exact .kept hid
  | toggleUnlimited enabled tenant => exact .toggled
  | applyReport key start reported =>
    change l.Effect now _ (l.applyReport now key start reported).ledger
    have h := l.reported_applyReport now key start reported
    generalize l.applyReport now key start reported = x at h ⊢
    cases h with
    | failed _ => exact .looked (l.looked_lookedAt now key)
    | behind _ _ => exact .looked (l.looked_lookedAt now key)
    | ahead _ _ => exact .raised _ (l.exemptions_raised now key _) (l.cell_raised now key _)
  | _ => exact absurd rfl hask

theorem Effect.policy (h : l.Effect now op l') : l'.policy = l.policy := by
  cases h <;> rfl

theorem Effect.reservation (h : l.Effect now op l') {id : String} {r : Reservation}
    (hr : l'.reservations.get? id = some r) : l.reservations.get? id = some r ∨
      ∃ q : Request, op = .reserve id q ∧
        r = ⟨q.key, q.tenant, q.estimate, (l.window now).day⟩ := by
  have herase : ∀ id', (l.reservations.erase id').get? id = some r →
      l.reservations.get? id = some r := by
    intro id' he
    rw [SortedMap.get?_erase] at he
    split_ifs at he
    exact he
  cases h with
  | looked hs => exact Or.inl hr
  | held hid =>
    rw [SortedMap.get?_insert] at hr
    split_ifs at hr with hsame
    · subst hsame
      exact Or.inr ⟨_, rfl, (Option.some.inj hr).symm⟩
    · exact Or.inl hr
  | committed hid => exact Or.inl (herase _ hr)
  | orphaned hid => exact Or.inl hr
  | released hid => exact Or.inl (herase _ hr)
  | kept hid => exact Or.inl (herase _ hr)
  | toggled => exact Or.inl hr
  | raised drift hexempt hcell => exact Or.inl hr

end Ledger

end LaneQuota
