import LaneQuota.Proofs.Ledger.Effects
import LaneQuota.Proofs.Ledger.Looking

namespace LaneQuota

namespace SortedMap

variable {α : Type}

theorem insertEntry_perm {k : String} (v : α) {es : List (String × α)}
    (h : findEntry k es = none) : (insertEntry k v es).Perm ((k, v) :: es) := by
  induction es with
  | nil => exact List.Perm.refl _
  | cons e rest ih =>
    unfold findEntry at h
    split_ifs at h with hk
    unfold insertEntry
    rw [if_neg (Ne.symm hk)]
    split_ifs
    · exact List.Perm.refl _
    · exact ((ih h).cons e).trans (List.Perm.swap _ _ _)

theorem filter_ne_of_lt {k : String} {es : List (String × α)} (h : ∀ e ∈ es, k < e.1) :
    es.filter (fun e => e.1 != k) = es := by
  rw [List.filter_eq_self]
  intro e he
  have hne : e.1 ≠ k := fun heq => String.lt_irrefl k (by simpa [heq] using h e he)
  simpa using hne

theorem perm_filter_ne {k : String} {v : α} {es : List (String × α)}
    (hs : es.Pairwise (fun a b => a.1 < b.1)) (h : findEntry k es = some v) :
    es.Perm ((k, v) :: es.filter (fun e => e.1 != k)) := by
  induction es with
  | nil => contradiction
  | cons e rest ih =>
    obtain ⟨hlt, hrest⟩ := List.pairwise_cons.1 hs
    unfold findEntry at h
    split_ifs at h with hk
    · have hv : e = (k, v) := Prod.ext hk (Option.some.inj h)
      subst hv
      rw [List.filter_cons_of_neg (by simp), filter_ne_of_lt hlt]
    · rw [List.filter_cons_of_pos (by simpa using hk)]
      exact ((ih hrest h).cons e).trans (List.Perm.swap _ _ _)

variable {m : SortedMap α} {k : String}

theorem values_insert (v : α) (h : m.get? k = none) : (m.insert k v).values.Perm (v :: m.values) :=
  (insertEntry_perm v h).map Prod.snd

theorem values_erase {v : α} (h : m.get? k = some v) : m.values.Perm (v :: (m.erase k).values) :=
  (perm_filter_ne m.sorted h).map Prod.snd

theorem erase_of_none (h : m.get? k = none) : m.erase k = m := by
  apply eq_of_get?_eq
  intro k'
  rw [get?_erase]
  split_ifs with hk
  · rw [hk, h]
  · rfl

end SortedMap

def Reservation.countsFor (r : Reservation) (scope : Scope) (key : String) : Prop :=
  scope ∈ Scope.charged r.tenant ∧ r.key.text = key

instance (r : Reservation) (scope : Scope) (key : String) : Decidable (r.countsFor scope key) :=
  inferInstanceAs (Decidable (_ ∧ _))

def outstanding (rs : SortedMap Reservation) (scope : Scope) (key : String) : List Reservation :=
  rs.values.filter (fun r => r.countsFor scope key)

def onDay (rs : List Reservation) (day : String) : List Reservation :=
  rs.filter (fun r => r.day = day)

theorem onDay_cons_of_eq {r : Reservation} {day : String} (h : r.day = day)
    (rs : List Reservation) : onDay (r :: rs) day = r :: onDay rs day :=
  List.filter_cons_of_pos (by simpa using h)

theorem onDay_cons_of_ne {r : Reservation} {day : String} (h : r.day ≠ day)
    (rs : List Reservation) : onDay (r :: rs) day = onDay rs day :=
  List.filter_cons_of_neg (by simpa using h)

theorem onDay_perm {rs rs' : List Reservation} (h : rs.Perm rs') (day : String) :
    (onDay rs day).Perm (onDay rs' day) := h.filter _

section Outstanding

variable {rs : SortedMap Reservation} {id : String} {r : Reservation} {scope : Scope} {key : String}

theorem outstanding_insert_of_counts (h : rs.get? id = none) (hr : r.countsFor scope key) :
    (outstanding (rs.insert id r) scope key).Perm (r :: outstanding rs scope key) := by
  have hp := (SortedMap.values_insert r h).filter (fun r => decide (r.countsFor scope key))
  rwa [List.filter_cons_of_pos (by simpa using hr)] at hp

theorem outstanding_insert_of_not (h : rs.get? id = none) (hr : ¬r.countsFor scope key) :
    (outstanding (rs.insert id r) scope key).Perm (outstanding rs scope key) := by
  have hp := (SortedMap.values_insert r h).filter (fun r => decide (r.countsFor scope key))
  rwa [List.filter_cons_of_neg (by simpa using hr)] at hp

theorem outstanding_erase_of_counts (h : rs.get? id = some r) (hr : r.countsFor scope key) :
    (outstanding rs scope key).Perm (r :: outstanding (rs.erase id) scope key) := by
  have hp := (SortedMap.values_erase h).filter (fun r => decide (r.countsFor scope key))
  rwa [List.filter_cons_of_pos (by simpa using hr)] at hp

theorem outstanding_erase_of_not (h : rs.get? id = some r) (hr : ¬r.countsFor scope key) :
    (outstanding rs scope key).Perm (outstanding (rs.erase id) scope key) := by
  have hp := (SortedMap.values_erase h).filter (fun r => decide (r.countsFor scope key))
  rwa [List.filter_cons_of_neg (by simpa using hr)] at hp

end Outstanding

/-- A part of usage that is counted in natural numbers. Below a bound, usage that fits is added and
taken away as these numbers are. -/
structure Quantity where
  Fits : Usage → Prop
  amount : Usage → ℕ
  bound : ℕ
  fits_zero : Fits Usage.zero
  amount_zero : amount Usage.zero = 0
  fits_plus : ∀ {u v}, Fits u → Fits v → amount u + amount v < bound → Fits (u.plus v)
  amount_plus : ∀ {u v}, Fits u → Fits v → amount u + amount v < bound →
    amount (u.plus v) = amount u + amount v
  fits_minus : ∀ {u v}, Fits u → Fits v → amount v ≤ amount u → Fits (u.minus v)
  amount_minus : ∀ {u v}, Fits u → Fits v → amount v ≤ amount u →
    amount (u.minus v) = amount u - amount v

namespace Quantity

theorem toNat_addTokens_of_lt {a b : UInt64} (h : a.toNat + b.toNat < 2 ^ 64) :
    (addTokens a b).toNat = a.toNat + b.toNat :=
  toNat_addTokens_of_le (Nat.le_of_lt_succ h)

def counter (count : Usage → UInt64) (hzero : count Usage.zero = 0)
    (hplus : ∀ u v, count (u.plus v) = addTokens (count u) (count v))
    (hminus : ∀ u v, count (u.minus v) = subTokens (count u) (count v)) : Quantity where
  Fits := fun _ => True
  amount := fun u => (count u).toNat
  bound := 2 ^ 64
  fits_zero := trivial
  amount_zero := by rw [hzero, UInt64.toNat_zero]
  fits_plus := fun _ _ _ => trivial
  amount_plus := fun _ _ h => by rw [hplus, toNat_addTokens_of_lt h]
  fits_minus := fun _ _ _ => trivial
  amount_minus := fun _ _ _ => by rw [hminus, toNat_subTokens]

def tokensIn : Quantity := counter Usage.tokensIn rfl (fun _ _ => rfl) (fun _ _ => rfl)

def tokensOut : Quantity := counter Usage.tokensOut rfl (fun _ _ => rfl) (fun _ _ => rfl)

def total (q : Quantity) (rs : List Reservation) : ℕ := (rs.map (fun r => q.amount r.estimate)).sum

variable (q : Quantity)

theorem total_cons (r : Reservation) (rs : List Reservation) :
    q.total (r :: rs) = q.amount r.estimate + q.total rs := rfl

theorem total_perm {rs rs' : List Reservation} (h : rs.Perm rs') : q.total rs = q.total rs' :=
  (h.map _).sum_nat

end Quantity

end LaneQuota
