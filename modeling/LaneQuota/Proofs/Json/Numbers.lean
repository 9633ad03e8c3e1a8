import LaneQuota.Json.Number
import LaneQuota.Proofs.Calendar.Days

namespace LaneQuota

section Runs

variable {p : Char → Bool} {cs rest : List Char}

theorem takeWhile_append_of_head (h : ∀ c ∈ rest.head?, p c = false) :
    (cs ++ rest).takeWhile p = cs.takeWhile p := by
  induction cs with
  | nil =>
    cases rest with
    | nil => rfl
    | cons c rest => simp [h c rfl]
  | cons c cs ih =>
    rw [List.cons_append, List.takeWhile_cons, List.takeWhile_cons, ih]

theorem dropWhile_append_of_head (h : ∀ c ∈ rest.head?, p c = false) :
    (cs ++ rest).dropWhile p = cs.dropWhile p ++ rest := by
  induction cs with
  | nil =>
    cases rest with
    | nil => rfl
    | cons c rest => simp [h c rfl]
  | cons c cs ih =>
    rw [List.cons_append, List.dropWhile_cons, List.dropWhile_cons, ih]
    split_ifs <;> rfl

end Runs

theorem isDigit_eq (c : Char) : isDigit c = c.isDigit := by
  have h : ('0' ≤ c ∧ c ≤ '9') ↔ c.isDigit = true := by
    simp [Char.isDigit, Char.le_def]
  unfold isDigit digitValue?
  by_cases hc : c.isDigit = true
  · rw [if_pos (h.mpr hc), hc]
    rfl
  · rw [if_neg (fun h' => hc (h.mp h')), Option.isSome_none]
    simpa using hc

theorem digitsValue_toDigits (n : ℕ) : digitsValue (Nat.toDigits 10 n) = n :=
  Nat.ofDigitChars_ten_toDigits

theorem isDigit_of_mem_toDigits {n : ℕ} {c : Char} (h : c ∈ Nat.toDigits 10 n) :
    isDigit c = true := by
  rw [isDigit_eq]
  exact Nat.isDigit_of_mem_toDigits (by norm_num) (by norm_num) h

theorem eq_zero_of_head_toDigits {n : ℕ} (h : (Nat.toDigits 10 n).head? = some '0') : n = 0 := by
  induction n using Nat.strongRecOn with
  | ind n ih =>
    by_cases hn : n < 10
    · rw [Nat.toDigits_of_lt_base hn] at h
      interval_cases n
      · rfl
      all_goals exact absurd h (by decide)
    · rw [Nat.toDigits_of_base_le (by norm_num) (by omega),
        List.head?_append_of_ne_nil _ Nat.toDigits_ne_nil] at h
      have h0 := ih (n / 10) (by omega) h
      omega

namespace JsonNumber

def Ends (rest : List Char) : Prop :=
  ∀ c ∈ rest.head?, isDigit c = false ∧ c ≠ '.' ∧ c ≠ 'e' ∧ c ≠ 'E'

variable {cs cs' rest : List Char} {s : Spelling}

theorem ends_nil : Ends [] := by simp [Ends]

theorem ends_cons {c : Char} (hd : isDigit c = false) (hc : c ≠ '.' ∧ c ≠ 'e' ∧ c ≠ 'E')
    (rest : List Char) : Ends (c :: rest) := by
  intro d hd'
  obtain rfl : c = d := Option.some.inj hd'
  exact ⟨hd, hc⟩

namespace Ends

theorem digits (h : Ends rest) : ∀ c ∈ rest.head?, isDigit c = false := fun c hc => (h c hc).1

theorem places? (h : Ends rest) : JsonNumber.places? rest = some (none, rest) := by
  unfold JsonNumber.places?
  split
  · next after => exact absurd rfl (h '.' rfl).2.1
  · rfl

theorem power? (h : Ends rest) : JsonNumber.power? rest = some (none, rest) := by
  unfold JsonNumber.power?
  split
  · next c after =>
    obtain ⟨-, -, he, hE⟩ := h c rfl
    simp [he, hE]
  · rfl

end Ends

theorem places?_append {places : Option (List Char)} (h : places? cs = some (places, cs'))
    (hrest : Ends rest) : places? (cs ++ rest) = some (places, cs' ++ rest) := by
  cases cs with
  | nil =>
    obtain ⟨rfl, rfl⟩ : places = none ∧ cs' = [] := by simpa [places?, eq_comm] using h
    exact hrest.places?
  | cons c cs =>
    by_cases hc : c = '.'
    · subst hc
      simp only [places?, List.cons_append] at h ⊢
      rw [takeWhile_append_of_head hrest.digits, dropWhile_append_of_head hrest.digits]
      split_ifs at h ⊢
      simp_all
    · have hnone : ∀ cs, places? (c :: cs) = some (none, c :: cs) := by
        intro cs
        unfold places?
        split
        · simp_all
        · rfl
      rw [hnone] at h
      obtain ⟨rfl, rfl⟩ : none = places ∧ c :: cs = cs' := by simpa using h
      exact hnone _

theorem powerSign_append (h : cs ≠ []) (rest : List Char) :
    powerSign (cs ++ rest) = ((powerSign cs).1, (powerSign cs).2 ++ rest) := by
  cases cs with
  | nil => contradiction
  | cons c cs =>
    unfold powerSign
    rw [List.cons_append]
    split <;> split <;> simp_all

theorem power?_append {power : Option (Bool × List Char)} (h : power? cs = some (power, cs'))
    (hrest : Ends rest) : power? (cs ++ rest) = some (power, cs' ++ rest) := by
  cases cs with
  | nil =>
    obtain ⟨rfl, rfl⟩ : power = none ∧ cs' = [] := by simpa [power?, eq_comm] using h
    exact hrest.power?
  | cons c after =>
    by_cases hc : c = 'e' ∨ c = 'E'
    · have hafter : after ≠ [] := by
        rintro rfl
        simp [power?, powerSign, hc] at h
      simp only [power?, List.cons_append, if_pos hc, powerSign_append hafter] at h ⊢
      rw [takeWhile_append_of_head hrest.digits, dropWhile_append_of_head hrest.digits]
      split_ifs at h ⊢
      obtain ⟨rfl, rfl⟩ := Prod.mk.inj (Option.some.inj h)
      rfl
    · simp only [power?, List.cons_append, if_neg hc] at h ⊢
      obtain ⟨rfl, rfl⟩ := Prod.mk.inj (Option.some.inj h)
      rfl

theorem unsigned?_append {negative : Bool} (h : unsigned? negative cs = some (s, cs'))
    (hrest : Ends rest) : unsigned? negative (cs ++ rest) = some (s, cs' ++ rest) := by
  unfold unsigned? at h ⊢
  rw [takeWhile_append_of_head hrest.digits, dropWhile_append_of_head hrest.digits]
  dsimp only at h ⊢
  split_ifs at h ⊢
  · simp at h
  · cases hplaces : places? (cs.dropWhile isDigit) with
    | none => simp [hplaces] at h
    | some x =>
      obtain ⟨places, after⟩ := x
      rw [places?_append hplaces hrest]
      simp only [hplaces, Option.bind_eq_bind, Option.bind_some] at h ⊢
      cases hpower : power? after with
      | none => simp [hpower] at h
      | some y =>
        obtain ⟨power, last⟩ := y
        rw [power?_append hpower hrest]
        simp only [hpower, Option.bind_some] at h ⊢
        obtain ⟨rfl, rfl⟩ := Prod.mk.inj (Option.some.inj h)
        rfl

theorem spelling?_append (h : spelling? cs = some (s, cs')) (hrest : Ends rest) :
    spelling? (cs ++ rest) = some (s, cs' ++ rest) := by
  cases cs with
  | nil => contradiction
  | cons c cs =>
    by_cases hc : c = '-'
    · subst hc
      exact unsigned?_append h hrest
    · have hplain : ∀ cs, spelling? (c :: cs) = unsigned? false (c :: cs) := by
        intro cs
        unfold spelling?
        split
        · simp_all
        · rfl
      rw [hplain] at h
      rw [List.cons_append, hplain]
      exact unsigned?_append h hrest

theorem spelling?_digits (n : ℕ) {rest : List Char} (hrest : ∀ c ∈ rest.head?, isDigit c = false)
    {places : Option (List Char)} {after : List Char} (hplaces : places? rest = some (places, after))
    (hpower : power? after = some (none, [])) :
    spelling? (Nat.toDigits 10 n ++ rest) = some (⟨false, Nat.toDigits 10 n, places, none⟩, []) := by
  have hall : ∀ c ∈ Nat.toDigits 10 n, isDigit c = true := fun c hc => isDigit_of_mem_toDigits hc
  have hzero : ((Nat.toDigits 10 n).head? == some '0' && 1 < (Nat.toDigits 10 n).length) = false := by
    by_cases h0 : (Nat.toDigits 10 n).head? = some '0'
    · rw [eq_zero_of_head_toDigits h0]
      rfl
    · simp [h0]
  have hunsigned : unsigned? false (Nat.toDigits 10 n ++ rest) =
      some (⟨false, Nat.toDigits 10 n, places, none⟩, []) := by
    unfold unsigned?
    rw [takeWhile_append_of_head hrest, dropWhile_append_of_head hrest,
      List.takeWhile_eq_self_iff.mpr hall, List.dropWhile_eq_nil_iff.mpr hall, List.nil_append]
    simp only [hzero, Bool.or_false, List.isEmpty_eq_false_iff.mpr Nat.toDigits_ne_nil, hplaces,
      Bool.false_eq_true, if_false, Option.bind_eq_bind, Option.bind_some, hpower]
    rfl
  have hminus : isDigit '-' = false := by decide
  unfold spelling?
  split
  · next cs heq =>
    have hd : isDigit '-' = true := by
      apply hall
      cases hdigits : Nat.toDigits 10 n with
      | nil => exact absurd hdigits Nat.toDigits_ne_nil
      | cons d ds =>
        rw [hdigits, List.cons_append] at heq
        rw [(List.cons.inj heq).1]
        exact List.mem_cons_self
    simp [hminus] at hd
  · exact hunsigned

theorem spelling?_toDigits (n : ℕ) :
    spelling? (Nat.toDigits 10 n) = some (⟨false, Nat.toDigits 10 n, none, none⟩, []) := by
  have hdigits := @spelling?_digits n [] (by simp) none [] rfl rfl
  rwa [List.append_nil] at hdigits

theorem foldl_digits_le (cs : List Char) (a : ℕ) :
    a ≤ cs.foldl (fun n c => 10 * n + (c.toNat - 48)) a := by
  induction cs generalizing a with
  | nil => exact le_rfl
  | cons c cs ih =>
    have hle := ih (10 * a + (c.toNat - 48))
    rw [List.foldl_cons]
    omega

theorem gatherWhole_eq {cs : List Char} {a : ℕ} (x : ℤ)
    (h : cs.foldl (fun n c => 10 * n + (c.toNat - 48)) a ≤ Word.maxUnsigned64) :
    gatherWhole ⟨a, x⟩ cs = ⟨cs.foldl (fun n c => 10 * n + (c.toNat - 48)) a, x⟩ := by
  induction cs generalizing a with
  | nil => rfl
  | cons c cs ih =>
    have hle := foldl_digits_le cs (10 * a + (c.toNat - 48))
    rw [List.foldl_cons] at h ⊢
    unfold gatherWhole
    dsimp only
    rw [if_neg (by omega), ih h]

theorem gatherWhole_toDigits {n : ℕ} (h : n ≤ Word.maxUnsigned64) :
    gatherWhole ⟨0, 0⟩ (Nat.toDigits 10 n) = ⟨n, 0⟩ := by
  have hvalue : (Nat.toDigits 10 n).foldl (fun n c => 10 * n + (c.toNat - 48)) 0 = n :=
    digitsValue_toDigits n
  rw [gatherWhole_eq 0 (by rwa [hvalue]), hvalue]

end JsonNumber

end LaneQuota
