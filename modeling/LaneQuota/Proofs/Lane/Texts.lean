import LaneQuota.Settings.Limits
import Mathlib.Data.List.Basic
import Mathlib.Tactic.SplitIfs

namespace LaneQuota

section Cut

variable {α : Type} [BEq α] [LawfulBEq α] {c : α} {l : List α}

theorem takeWhile_ne_append (h : c ∉ l) (rest : List α) :
    (l ++ c :: rest).takeWhile (· != c) = l := by
  have hall : ∀ d ∈ l, (d != c) = true := by
    intro d hd
    simpa using fun heq : d = c => h (heq ▸ hd)
  rw [List.takeWhile_append_of_pos hall, List.takeWhile_cons_of_neg (by simp), List.append_nil]

theorem dropWhile_ne_append (h : c ∉ l) (rest : List α) :
    (l ++ c :: rest).dropWhile (· != c) = c :: rest := by
  have hsplit := List.takeWhile_append_dropWhile (p := (· != c)) (l := l ++ c :: rest)
  rw [takeWhile_ne_append h] at hsplit
  exact List.append_cancel_left hsplit

theorem not_mem_takeWhile_ne (c : α) (l : List α) : c ∉ l.takeWhile (· != c) := by
  intro h
  have hall := List.all_eq_true.mp (List.all_takeWhile (p := (· != c)) (l := l)) c h
  simp at hall

theorem dropWhile_ne_eq (c : α) (l : List α) :
    l.dropWhile (· != c) = [] ∨ ∃ rest, l.dropWhile (· != c) = c :: rest := by
  have hhead := List.head?_dropWhile_not (· != c) l
  cases hl : l.dropWhile (· != c) with
  | nil => exact Or.inl rfl
  | cons d rest =>
    obtain rfl : d = c := by simpa [hl] using hhead
    exact Or.inr ⟨rest, rfl⟩

end Cut

namespace LaneKey

variable {a b k : LaneKey} {s : String}

def Plain (key : LaneKey) : Prop := ':' ∉ key.lane.toList

instance (key : LaneKey) : Decidable key.Plain := inferInstanceAs (Decidable (¬_))

theorem toList_text (k : LaneKey) : k.text.toList = k.lane.toList ++ ':' :: k.provider.toList := by
  have hcolon : ":".toList = [':'] := rfl
  simp only [text, String.toList_append, hcolon, List.append_assoc, List.singleton_append]

theorem eq_of_toList_eq (hlane : a.lane.toList = b.lane.toList)
    (hprovider : a.provider.toList = b.provider.toList) : a = b := by
  cases a
  cases b
  simp_all [String.toList_inj]

theorem text_injective (ha : ':' ∉ a.lane.toList) (hb : ':' ∉ b.lane.toList)
    (h : a.text = b.text) : a = b := by
  have hl := congrArg String.toList h
  rw [toList_text, toList_text] at hl
  -- Both lanes end at the first colon.
  have hlane := congrArg (List.takeWhile (· != ':')) hl
  rw [takeWhile_ne_append ha, takeWhile_ne_append hb] at hlane
  rw [hlane] at hl
  exact eq_of_toList_eq hlane (List.cons.inj (List.append_cancel_left hl)).2

structure WellFormed (k : LaneKey) : Prop where
  lane : k.lane ≠ ""
  plain : k.Plain
  provider : k.provider ≠ ""

theorem wellFormed_iff : k.WellFormed ↔ k.lane ≠ "" ∧ k.Plain ∧ k.provider ≠ "" :=
  ⟨fun h => ⟨h.lane, h.plain, h.provider⟩, fun h => ⟨h.1, h.2.1, h.2.2⟩⟩

instance (k : LaneKey) : Decidable k.WellFormed := decidable_of_iff' _ wellFormed_iff

theorem WellFormed.read?_text (h : k.WellFormed) : read? k.text = some k := by
  have hlane : k.lane.toList.isEmpty = false := by simpa using h.lane
  have hprovider : k.provider.toList.isEmpty = false := by simpa using h.provider
  unfold read?
  rw [toList_text, takeWhile_ne_append h.plain, dropWhile_ne_append h.plain]
  simp only [List.drop_one, List.tail_cons, hlane, hprovider, Bool.or_false, Bool.false_eq_true,
    if_false, String.ofList_toList]

theorem eq_text_of_read? (h : read? s = some k) : k.WellFormed ∧ s = k.text := by
  unfold read? at h
  dsimp only at h
  split_ifs at h with hempty
  obtain rfl := Option.some.inj h
  rw [Bool.or_eq_true, not_or, Bool.not_eq_true, Bool.not_eq_true] at hempty
  obtain ⟨hlane, hprovider⟩ := hempty
  rcases dropWhile_ne_eq ':' s.toList with hnone | ⟨rest, hrest⟩
  · simp [hnone] at hprovider
  · have hplain := not_mem_takeWhile_ne ':' s.toList
    refine ⟨⟨by simpa using hlane, by simpa [Plain] using hplain, by simpa using hprovider⟩, ?_⟩
    rw [← String.toList_inj, toList_text, String.toList_ofList, String.toList_ofList, hrest,
      List.drop_one, List.tail_cons, ← hrest, List.takeWhile_append_dropWhile]

theorem read?_text_iff : read? k.text = some k ↔ k.WellFormed :=
  ⟨fun h => (eq_text_of_read? h).1, WellFormed.read?_text⟩

def firstColon (s : String) : ℕ := s.toList.idxOf ':'

theorem firstColon_text (h : k.Plain) : firstColon k.text = k.lane.length := by
  rw [firstColon, toList_text, List.idxOf_append_of_notMem h, List.idxOf_cons_self,
    Nat.add_zero, String.length_toList]

theorem length_text (k : LaneKey) : k.text.length = k.lane.length + 1 + k.provider.length := by
  simp only [← String.length_toList, toList_text, List.length_append, List.length_cons]
  omega

theorem exists_eq_text (h : ':' ∈ s.toList) : ∃ k : LaneKey, k.Plain ∧ s = k.text := by
  obtain ⟨lane, provider, hs, hplain⟩ := List.eq_append_cons_of_mem h
  refine ⟨⟨String.ofList lane, String.ofList provider⟩, by simpa [Plain] using hplain, ?_⟩
  rw [← String.toList_inj, toList_text, hs]
  simp

theorem wellFormed_iff_firstColon (h : k.Plain) :
    k.WellFormed ↔ 0 < firstColon k.text ∧ firstColon k.text + 1 < k.text.length := by
  have hlane : 0 < k.lane.length ↔ k.lane ≠ "" := by
    rw [Nat.pos_iff_ne_zero, ne_eq, String.length_eq_zero_iff]
  have hprovider : 0 < k.provider.length ↔ k.provider ≠ "" := by
    rw [Nat.pos_iff_ne_zero, ne_eq, String.length_eq_zero_iff]
  rw [firstColon_text h, length_text, Nat.lt_add_right_iff_pos, hlane, hprovider, wellFormed_iff]
  exact and_congr_right fun _ => and_iff_right h

theorem isSome_read?_iff : (read? s).isSome ↔
    ':' ∈ s.toList ∧ 0 < firstColon s ∧ firstColon s + 1 < s.length := by
  constructor
  · intro h
    obtain ⟨k, hk⟩ := Option.isSome_iff_exists.mp h
    obtain ⟨hwf, rfl⟩ := eq_text_of_read? hk
    refine ⟨?_, (wellFormed_iff_firstColon hwf.plain).mp hwf⟩
    rw [toList_text]
    exact List.mem_append_right _ List.mem_cons_self
  · rintro ⟨hcolon, hplaces⟩
    obtain ⟨k, hplain, rfl⟩ := exists_eq_text hcolon
    rw [((wellFormed_iff_firstColon hplain).mpr hplaces).read?_text, Option.isSome_some]

theorem exists_read?_provider {provider : String} (h : provider ≠ "") :
    ∃ s k, read? s = some k ∧ k.provider = provider := by
  have hlane : "burn" ≠ "" ∧ ':' ∉ "burn".toList := by decide
  exact ⟨_, ⟨"burn", provider⟩, WellFormed.read?_text ⟨hlane.1, hlane.2, h⟩, rfl⟩

/-- The text of a lane stands for it. A text is read exactly if it has something before and after
its first colon, and then it is the text of what is read. A lane is read from its text exactly if
its lane is not empty and has no colon, and its provider is not empty. -/
theorem text_faithful :
    (∀ s k, read? s = some k →
      k.text = s ∧ k.lane ≠ "" ∧ ':' ∉ k.lane.toList ∧ k.provider ≠ "") ∧
    (∀ s, (read? s).isSome ↔
      ':' ∈ s.toList ∧ 0 < firstColon s ∧ firstColon s + 1 < s.length) ∧
    (∀ k, read? k.text = some k ↔ k.lane ≠ "" ∧ ':' ∉ k.lane.toList ∧ k.provider ≠ "") ∧
    (∀ s s' k k', read? s = some k → read? s' = some k' → k.text = k'.text → k = k') ∧
    (∀ n, ∃ s k, read? s = some k ∧ k.provider.toList.count ':' = n) := by
  refine ⟨fun s k h => ?_, fun s => isSome_read?_iff, fun k => ?_, fun s s' k k' h h' htext => ?_,
    fun n => ?_⟩
  · obtain ⟨hk, rfl⟩ := eq_text_of_read? h
    exact ⟨rfl, wellFormed_iff.mp hk⟩
  · exact read?_text_iff.trans wellFormed_iff
  · exact text_injective (eq_text_of_read? h).1.plain (eq_text_of_read? h').1.plain htext
  · have hne : String.ofList ('a' :: List.replicate n ':') ≠ "" := by simp
    obtain ⟨s, k, hk, hprovider⟩ := exists_read?_provider hne
    exact ⟨s, k, hk, by simp [hprovider]⟩

/-- The lane takes in a part of the other's provider, with the colon before it. -/
def Extends (a b : LaneKey) : Prop :=
  ∃ part, a.lane = b.lane ++ ":" ++ part ∧ b.provider = part ++ ":" ++ a.provider

theorem Extends.text_eq (h : a.Extends b) : a.text = b.text := by
  obtain ⟨part, hlane, hprovider⟩ := h
  rw [text, text, hlane, hprovider]
  simp only [String.append_assoc]

theorem Extends.not_plain (h : a.Extends b) : ¬a.Plain := by
  obtain ⟨part, hlane, -⟩ := h
  rw [Plain, hlane]
  simp

theorem eq_or_extends {part : List Char} (hlane : a.lane.toList = b.lane.toList ++ part)
    (hrest : ':' :: b.provider.toList = part ++ ':' :: a.provider.toList) :
    a = b ∨ a.Extends b := by
  cases part with
  | nil => exact Or.inl (eq_of_toList_eq (by simpa using hlane) (by simpa using hrest.symm))
  | cons c part =>
    obtain ⟨rfl, hprovider⟩ := List.cons.inj hrest
    refine Or.inr ⟨String.ofList part, ?_, ?_⟩
    · rw [← String.toList_inj, hlane]
      simp
    · rw [← String.toList_inj, hprovider]
      simp

theorem text_eq_iff : a.text = b.text ↔ a = b ∨ a.Extends b ∨ b.Extends a := by
  constructor
  · intro h
    have hl := congrArg String.toList h
    rw [toList_text, toList_text, List.append_eq_append_iff] at hl
    rcases hl with ⟨part, hlane, hrest⟩ | ⟨part, hlane, hrest⟩
    · exact (eq_or_extends hlane hrest).imp Eq.symm Or.inr
    · exact (eq_or_extends hlane hrest).imp_right Or.inl
  · rintro (rfl | h | h)
    · rfl
    · exact h.text_eq
    · exact h.text_eq.symm

end LaneKey

end LaneQuota
