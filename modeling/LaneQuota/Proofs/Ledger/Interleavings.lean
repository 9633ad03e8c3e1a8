import LaneQuota.Proofs.Ledger.Callers
import LaneQuota.Proofs.Ledger.Rooms
import LaneQuota.Proofs.Ledger.Turns

namespace LaneQuota

open Ledger

namespace Lifecycle

def close (c : Lifecycle) (p : LedgerPolicy) (w : Window) (now : Instant) (s : LedgerState) :
    LedgerState :=
  match c.spent? with
  | none => release s (c.reservation w.day) w now
  | some usage =>
    spend p c.request.key c.request.tenant usage w now (release s (c.reservation w.day) w now)

variable (c : Lifecycle) (p : LedgerPolicy) (w : Window) (now : Instant) (s : LedgerState)
  (scope : Scope) (key : String)

theorem cell_hold_request :
    (hold s c.request.key.text c.request.tenant c.request.estimate w now).cell scope key =
      if c.Charges scope key then (s.cell scope key).turned p w now (.begins c)
      else s.cell scope key := by
  rw [cell_hold]
  change (if c.Charges scope key then _ else _) = _
  split_ifs with hc
  · rw [hc.2]
    rfl
  · rfl

theorem cell_close : (c.close p w now s).cell scope key =
    if c.Charges scope key then (s.cell scope key).turned p w now (.ends c)
    else s.cell scope key := by
  have hrelease : (release s (c.reservation w.day) w now).cell scope key =
      if c.Charges scope key then (s.cell scope key).releasing w now (c.reservation w.day)
      else s.cell scope key := by
    rw [cell_release]
    change (if c.Charges scope key then _ else _) = _
    split_ifs with hc
    · rw [← hc.2]
      rfl
    · rfl
  rw [Cell.turned_ends, close]
  cases c.spent? with
  | none => exact hrelease
  | some usage =>
    dsimp only
    rw [cell_spend]
    change (if c.Charges scope key then _ else _) = _
    split_ifs with hc
    · rw [if_pos hc] at hrelease
      rw [hc.2, hrelease]
    · rw [hrelease, if_neg hc]

theorem hourly?_close : (c.close p w now s).hourly? scope key =
    if c.Charges scope key then c.logged p now (s.hourly? scope key) else s.hourly? scope key := by
  unfold close logged
  cases c.spent? with
  | none => rw [hourly?_release, ite_self]
  | some usage =>
    rw [hourly?_spend]
    change (if c.Charges scope key then _ else _) = _
    split_ifs with hc
    · rw [hourly?_release, hc.2]
    · rw [hourly?_release]

theorem exemptions_close : (c.close p w now s).exemptions = s.exemptions := by
  unfold close
  cases c.spent? with
  | none => rw [exemptions_release]
  | some usage => rw [exemptions_spend, exemptions_release]

theorem extends_close : s.Extends (c.close p w now s) := by
  have hrelease := extends_release s w now (c.reservation w.day)
  unfold close
  cases c.spent? with
  | none => exact hrelease
  | some usage => exact hrelease.trans (extends_spend _ _ w now p _ usage)

end Lifecycle

def Turn.furnished (r : Bool × Bool × Bool) : Turn → Bool × Bool × Bool
  | .begins _ => (true, true, r.2.2)
  | .ends c => (true, true, r.2.2 || c.spent?.isSome)

namespace Turn

theorem furnished_right_comm (r : Bool × Bool × Bool) (x y : Turn) :
    furnished (furnished r x) y = furnished (furnished r y) x := by
  cases x <;> cases y <;> simp [furnished, Bool.or_right_comm]

variable (c : Lifecycle) (p : LedgerPolicy) (w : Window) (now : Instant) (s : LedgerState)
  (t : String)

theorem rooms_begins :
    (hold s c.request.key.text c.request.tenant c.request.estimate w now).rooms t =
      if c.request.tenant = some t then furnished (s.rooms t) (.begins c) else s.rooms t :=
  rooms_hold _ s w now t _ _

theorem rooms_ends : (c.close p w now s).rooms t =
    if c.request.tenant = some t then furnished (s.rooms t) (.ends c) else s.rooms t := by
  have hrelease : (release s (c.reservation w.day) w now).rooms t =
      if c.request.tenant = some t then (true, true, (s.rooms t).2.2) else s.rooms t :=
    rooms_release s w now t _
  rw [furnished, Lifecycle.close]
  cases c.spent? with
  | none => simp [hrelease]
  | some usage =>
    dsimp only
    rw [rooms_spend, hrelease]
    split_ifs <;> simp

end Turn

namespace Ledger

def takeTurns (l : Ledger) (now : Instant) (turns : List Turn) : Ledger :=
  l.after (turns.map (fun x => (now, x.operation)))

section Steps

variable {l : Ledger} {now : Instant} {c : Lifecycle}

theorem step_begins (h : l.reservations.get? c.id = none) :
    (l.step now (Turn.begins c).operation).ledger = { l with
      state := hold l.state c.request.key.text c.request.tenant c.request.estimate (l.window now)
        now
      reservations := l.reservations.insert c.id (c.reservation (l.window now).day) } := by
  change (l.reserve now c.id c.request).ledger = _
  rw [reserve, if_neg (by simp [SortedMap.contains, h])]
  rfl

theorem step_ends (h : l.reservations.get? c.id = some (c.reservation (l.window now).day)) :
    (l.step now (Turn.ends c).operation).ledger = { l with
      state := c.close l.policy (l.window now) now l.state
      reservations := l.reservations.erase c.id } := by
  obtain ⟨id, r, ending⟩ := c
  cases ending with
  | commit actual =>
    change (l.commit now id r.key r.tenant actual).ledger = _
    rw [commit, h]
    rfl
  | rollback mode =>
    change (l.rollback now id mode).ledger = _
    rw [rollback, h]
    cases mode <;> rfl

end Steps

structure Taken (l₀ : Ledger) (now : Instant) (turns : List Turn) (l : Ledger) : Prop where
  policy : l.policy = l₀.policy
  orphanedCommits : l.orphanedCommits = l₀.orphanedCommits
  exemptions : l.state.exemptions = l₀.state.exemptions
  extended : l₀.state.Extends l.state
  rooms : ∀ t, l.state.rooms t =
    (turns.filter (fun x => x.lifecycle.request.tenant = some t)).foldl Turn.furnished
      (l₀.state.rooms t)
  held : ∀ c, Turn.begins c ∈ turns → Turn.ends c ∉ turns →
    l.reservations.get? c.id = some (c.reservation (l₀.window now).day)
  others : ∀ id, (∀ c, Turn.begins c ∈ turns → c.id = id → Turn.ends c ∈ turns) →
    l.reservations.get? id = l₀.reservations.get? id
  cell : ∀ scope key, l.state.cell scope key =
    (turns.filter (fun x => x.lifecycle.Charges scope key)).foldl
      (Cell.turned l₀.policy (l₀.window now) now) (l₀.state.cell scope key)
  hourly : ∀ scope key, l.state.hourly? scope key =
    ((turns.filter (fun x => x.lifecycle.Charges scope key)).filterMap Turn.ended?).foldl
      (Lifecycle.logged l₀.policy now) (l₀.state.hourly? scope key)

namespace Taken

variable {l₀ l : Ledger} {now : Instant} {family : List Lifecycle} {turns r : List Turn}
  {c : Lifecycle}

theorem nil (l₀ : Ledger) (now : Instant) : Taken l₀ now [] l₀ where
  policy := rfl
  orphanedCommits := rfl
  exemptions := rfl
  extended := .of_eq (fun _ _ => rfl)
  rooms := fun _ => rfl
  held := fun _ h => absurd h List.not_mem_nil
  others := fun _ _ => rfl
  cell := fun _ _ => rfl
  hourly := fun _ _ => rfl

theorem window (h : Taken l₀ now turns l) : l.window now = l₀.window now := by
  rw [Ledger.window, Ledger.window, h.policy]

section Turning

variable (hids : (family.map Lifecycle.id).Nodup)
  (hopen : ∀ c ∈ family, l₀.reservations.get? c.id = none)
include hids hopen

theorem begins (h : Taken l₀ now turns l) (hi : Interleaves family (turns ++ .begins c :: r)) :
    Taken l₀ now (turns ++ [.begins c]) (l.step now (Turn.begins c).operation).ledger := by
  have hf := hids.of_map
  obtain ⟨hbegins, hends⟩ := hi.ends_after hf
  have hc := hi.mem_iff.1.mp (List.mem_append_right turns List.mem_cons_self)
  have hsame : ∀ d, Turn.begins d ∈ turns → d.id ≠ c.id := by
    intro d hd hid
    have hd' := hi.mem_iff.1.mp (List.mem_append_left _ hd)
    obtain rfl := List.inj_on_of_nodup_map hids hd' hc hid
    exact hbegins hd
  have hnone : l.reservations.get? c.id = none :=
    (h.others c.id (fun d hd hid => absurd hid (hsame d hd))).trans (hopen c hc)
  rw [step_begins hnone, h.window]
  refine ⟨h.policy, h.orphanedCommits, (exemptions_hold _ _ _ _ _ _).trans h.exemptions,
    h.extended.trans (extends_hold _ _ _ _ _ _), ?_, ?_, ?_, ?_, ?_⟩
  · intro t
    rw [Turn.rooms_begins, h.rooms t, List.filter_append, List.foldl_append]
    by_cases ht : c.request.tenant = some t <;> simp [Turn.lifecycle, ht]
  · intro d hd hd'
    rw [SortedMap.get?_insert]
    rcases List.mem_append.mp hd with hd | hd
    · rw [if_neg (hsame d hd).symm]
      exact h.held d hd (fun he => hd' (List.mem_append_left _ he))
    · obtain rfl : d = c := Turn.begins.inj (List.mem_singleton.mp hd)
      rw [if_pos rfl]
  · intro id hid
    have hne : c.id ≠ id := by
      intro heq
      have he := hid c (List.mem_append_right turns List.mem_cons_self) heq
      exact hends (by simpa using he)
    rw [SortedMap.get?_insert, if_neg hne]
    apply h.others
    intro d hd hdid
    simpa using hid d (List.mem_append_left _ hd) hdid
  · intro scope key
    rw [c.cell_hold_request l₀.policy, List.filter_append, List.foldl_append, ← h.cell scope key]
    by_cases hcharge : c.Charges scope key <;> simp [Turn.lifecycle, hcharge]
  · intro scope key
    rw [hourly?_hold, h.hourly scope key, List.filter_append, List.filterMap_append]
    by_cases hcharge : c.Charges scope key <;>
      simp [Turn.lifecycle, Turn.ended?, List.filterMap_cons, hcharge]

theorem ends (h : Taken l₀ now turns l) (hi : Interleaves family (turns ++ .ends c :: r)) :
    Taken l₀ now (turns ++ [.ends c]) (l.step now (Turn.ends c).operation).ledger := by
  have hf := hids.of_map
  obtain ⟨hbegins, hends⟩ := hi.begins_before hf
  have hc := hi.mem_iff.2.mp (List.mem_append_right turns List.mem_cons_self)
  have hheld := h.held c hbegins hends
  rw [← h.window] at hheld
  rw [step_ends hheld, h.window, h.policy]
  refine ⟨rfl, h.orphanedCommits, (c.exemptions_close _ _ _ _).trans h.exemptions,
    h.extended.trans (c.extends_close _ _ _ _), ?_, ?_, ?_, ?_, ?_⟩
  · intro t
    rw [Turn.rooms_ends, h.rooms t, List.filter_append, List.foldl_append]
    by_cases ht : c.request.tenant = some t <;> simp [Turn.lifecycle, ht]
  · intro d hd hd'
    have hd : Turn.begins d ∈ turns := by simpa using hd
    have hd' : Turn.ends d ∉ turns ∧ d ≠ c := by simpa using hd'
    have hid : d.id ≠ c.id := fun heq => hd'.2 (List.inj_on_of_nodup_map hids
      (hi.mem_iff.1.mp (List.mem_append_left _ hd)) hc heq)
    rw [SortedMap.get?_erase, if_neg hid]
    exact h.held d hd hd'.1
  · intro id hid
    rw [SortedMap.get?_erase]
    split_ifs with heq
    · rw [heq, hopen c hc]
    · apply h.others
      intro d hd hdid
      have he := hid d (List.mem_append_left _ hd) hdid
      have hne : d ≠ c := fun h => heq (hdid ▸ h ▸ rfl)
      simpa [hne] using he
  · intro scope key
    rw [c.cell_close, List.filter_append, List.foldl_append, ← h.cell scope key]
    by_cases hcharge : c.Charges scope key <;> simp [Turn.lifecycle, hcharge]
  · intro scope key
    rw [c.hourly?_close, h.hourly scope key, List.filter_append, List.filterMap_append,
      List.foldl_append]
    by_cases hcharge : c.Charges scope key <;> simp [Turn.lifecycle, Turn.ended?, hcharge]

theorem takeTurns (h : Taken l₀ now turns l) (hi : Interleaves family (turns ++ r)) :
    Taken l₀ now (turns ++ r) (l.takeTurns now r) := by
  induction r generalizing l turns with
  | nil => rwa [List.append_nil]
  | cons x r ih =>
    have hstep : Taken l₀ now (turns ++ [x]) (l.step now x.operation).ledger := by
      cases x with
      | begins c => exact h.begins hids hopen hi
      | ends c => exact h.ends hids hopen hi
    have hsplit : turns ++ x :: r = turns ++ [x] ++ r := by simp
    rw [hsplit] at hi ⊢
    exact ih hstep hi

end Turning

end Taken

section Same

variable {l l₁ l₂ : Ledger} {now : Instant} {family : List Lifecycle} {turns turns' : List Turn}

namespace Taken

theorem reservations_eq (h : Taken l now turns l₁) (hi : Interleaves family turns) :
    l₁.reservations = l.reservations := by
  apply SortedMap.eq_of_get?_eq
  intro id
  apply h.others
  intro c hc _
  exact hi.mem_iff.2.mpr (hi.mem_iff.1.mp hc)

theorem rooms_eq (h₁ : Taken l now turns l₁) (h₂ : Taken l now turns' l₂)
    (hperm : turns.Perm turns') (t : String) : l₁.state.rooms t = l₂.state.rooms t := by
  rw [h₁.rooms, h₂.rooms]
  apply (hperm.filter _).foldl_eq'
  intro x _ y _ r
  exact Turn.furnished_right_comm r x y

theorem hourly?_eq (h₁ : Taken l now turns l₁) (h₂ : Taken l now turns' l₂)
    (hi₁ : Interleaves family turns) (hi₂ : Interleaves family turns')
    (hcost : ∀ c ∈ family, c.Costless) (scope : Scope) (key : String) :
    l₁.state.hourly? scope key = l₂.state.hourly? scope key := by
  have hends := (hi₁.filter (fun c => c.Charges scope key)).ended_perm
  have hends' := (hi₂.filter (fun c => c.Charges scope key)).ended_perm
  rw [h₁.hourly, h₂.hourly]
  apply (hends.trans hends'.symm).foldl_eq'
  intro c hc d hd log
  have hc := List.mem_of_mem_filter (hends.mem_iff.mp hc)
  have hd := List.mem_of_mem_filter (hends.mem_iff.mp hd)
  exact Lifecycle.logged_right_comm (hcost c hc) (hcost d hd) now log

theorem cell_eq (h₁ : Taken l now turns l₁) (h₂ : Taken l now turns' l₂)
    (hi₁ : Interleaves family turns) (hi₂ : Interleaves family turns') (hf : family.Nodup)
    (hlanes : ∀ c ∈ family, c.request.key.Plain) (hcost : ∀ c ∈ family, c.Costless)
    (scope : Scope) (key : String)
    (hfit : Fits (((l.state.cell scope key).seen (l.window now) now).reserved.counts +
      promised (family.filter (fun c => c.Charges scope key)))) :
    l₁.state.cell scope key = l₂.state.cell scope key := by
  have hmem : ∀ c ∈ family.filter (fun c => c.Charges scope key),
      c ∈ family ∧ c.Charges scope key := by
    intro c hc
    simpa using hc
  rw [h₁.cell, h₂.cell]
  apply Cell.foldl_turned_eq (hi₁.filter (fun c => c.Charges scope key))
    (hi₂.filter (fun c => c.Charges scope key)) (hf.filter _)
  · intro c hc d hd
    -- Both lanes have the text of the cell, and a plain lane has a text of its own.
    exact LaneKey.text_injective (hlanes c (hmem c hc).1) (hlanes d (hmem d hd).1)
      ((hmem c hc).2.2.trans (hmem d hd).2.2.symm)
  · exact fun c hc => hcost c (hmem c hc).1
  · exact hfit

end Taken

theorem takeTurns_eq_of_interleaves (l : Ledger) (now : Instant) (h : Interleaves family turns)
    (h' : Interleaves family turns') (hids : (family.map Lifecycle.id).Nodup)
    (hopen : ∀ c ∈ family, l.reservations.get? c.id = none)
    (hlanes : ∀ c ∈ family, c.request.key.Plain) (hcost : ∀ c ∈ family, c.Costless)
    (hfit : ∀ scope key, Fits (((l.state.cell scope key).seen (l.window now) now).reserved.counts +
      promised (family.filter (fun c => c.Charges scope key)))) :
    l.takeTurns now turns = l.takeTurns now turns' := by
  have ht : Taken l now turns (l.takeTurns now turns) := (Taken.nil l now).takeTurns hids hopen h
  have ht' : Taken l now turns' (l.takeTurns now turns') :=
    (Taken.nil l now).takeTurns hids hopen h'
  have hcell : ∀ scope key, (l.takeTurns now turns).state.cell scope key =
      (l.takeTurns now turns').state.cell scope key := fun scope key =>
    ht.cell_eq ht' h h' hids.of_map hlanes hcost scope key (hfit scope key)
  apply Ledger.ext
  · exact ht.policy.trans ht'.policy.symm
  · apply LedgerState.eq_of_lookups
    · exact fun scope key => congrArg Cell.bucket (hcell scope key)
    · exact fun scope key =>
        ht.extended.history?_congr ht'.extended (congrArg Cell.history (hcell scope key))
    · exact ht.hourly?_eq ht' h h' hcost
    · exact ht.rooms_eq ht' (h.perm.trans h'.perm.symm)
    · exact ht.exemptions.trans ht'.exemptions.symm
  · exact (ht.reservations_eq h).trans (ht'.reservations_eq h').symm
  · exact ht.orphanedCommits.trans ht'.orphanedCommits.symm

end Same

def threeLifecycles : List Lifecycle := [
  ⟨"a", ⟨sampleLane, some "ann", .ofTokens 30 10⟩, .commit (.ofTokens 40 20)⟩,
  ⟨"b", ⟨sampleLane, some "bob", .ofTokens 50 0⟩, .rollback .keep⟩,
  ⟨"c", ⟨sampleLane, none, .ofTokens 5 5⟩, .rollback .release⟩]

def oneByOne : List Turn := threeLifecycles.flatMap Lifecycle.turns

def entangled : List Turn :=
  threeLifecycles.reverse.map .begins ++ threeLifecycles.map .ends

theorem takeTurns_eq_threeLifecycles :
    let l := (start (samplePolicy ⟨some 100, none, true⟩)).after
      [(noon 1, .commit "x" sampleLane (some "ann") (.ofTokens 30 5))]
    oneByOne ≠ entangled ∧ l.takeTurns (noon 2) oneByOne = l.takeTurns (noon 2) entangled := by
  intro l
  have h : Interleaves threeLifecycles oneByOne := ⟨by decide +kernel, by decide +kernel⟩
  have h' : Interleaves threeLifecycles entangled := ⟨by decide +kernel, by decide +kernel⟩
  have hfresh : ∀ scope key, (l.state.cell scope key).seen (l.window (noon 2)) (noon 2) =
      Bucket.fresh (l.window (noon 2)) (noon 2) := by
    intro scope key
    have hstate : l.state = spend l.policy sampleLane (some "ann") (.ofTokens 30 5)
      (l.window (noon 1)) (noon 1) LedgerState.empty := rfl
    have hday : (l.window (noon 1)).day ≠ (l.window (noon 2)).day := by decide +kernel
    rw [hstate, cell_spend]
    split_ifs
    · refine Cell.seen_adjust_of_ne _ _ (fun b => ?_) hday _
      exact day_latchedUnder _ _ _
    · cases scope <;> rfl
  refine ⟨by decide +kernel, takeTurns_eq_of_interleaves l (noon 2) h h' (by decide +kernel)
    (by decide +kernel) (by decide +kernel) ?_ ?_⟩
  · intro c hc
    simp only [threeLifecycles, List.mem_cons, List.not_mem_nil, or_false] at hc
    rcases hc with rfl | rfl | rfl
    · exact ⟨by decide +kernel, by rintro usage ⟨⟩; decide +kernel⟩
    · exact ⟨by decide +kernel, by rintro usage ⟨⟩; decide +kernel⟩
    · exact ⟨by decide +kernel, by rintro usage ⟨⟩⟩
  · intro scope key
    have hall : Fits (promised threeLifecycles) := by decide +kernel
    rw [hfresh]
    apply hall.mono
    change 0 + _ ≤ _
    rw [zero_add]
    exact promised_le_of_subperm List.filter_sublist.subperm

end Ledger

end LaneQuota
