import LaneQuota.Storage.StateFile
import Mathlib

namespace LaneQuota

namespace FileTree

variable {t t' t'' : FileTree} {p q : Place} {steps : List String} {path content : String}

theorem lookup_filter_ne {nodes : List (Place × FileNode)} (h : q ≠ p) :
    (nodes.filter (fun e => e.1 ≠ p)).lookup q = nodes.lookup q := by
  induction nodes with
  | nil => rfl
  | cons e rest ih =>
    obtain ⟨place, n⟩ := e
    by_cases he : place = p
    · subst he
      have hne : (q == place) = false := beq_eq_false_iff_ne.mpr h
      rw [List.filter_cons_of_neg (by simp), ih, List.lookup_cons, hne]
    · rw [List.filter_cons_of_pos (by simpa using he), List.lookup_cons, List.lookup_cons, ih]

theorem node?_put (t : FileTree) (p : Place) (n : FileNode) (q : Place) : (t.put p n).node? q =
    if isGiven q then some .directory else if q = p then some n else t.node? q := by
  unfold node? put
  by_cases hgiven : isGiven q = true
  · simp [hgiven]
  · by_cases hq : q = p
    · simp [hq]
    · have hne : (q == p) = false := beq_eq_false_iff_ne.mpr hq
      simp only [hgiven, hq, Bool.false_eq_true, if_false, List.lookup_cons, hne]
      exact lookup_filter_ne hq

theorem isGiven_eq_false (h : t.isDirectory p = false) : isGiven p = false := by
  by_contra hgiven
  simp [isDirectory, node?, hgiven] at h

theorem node?_put_self (h : t.isDirectory p = false) (n : FileNode) :
    (t.put p n).node? p = some n := by
  simp [node?_put, isGiven_eq_false h]

def KeptIn (t t' : FileTree) : Prop := ∀ p, t.node? p = some .directory → t'.node? p = some .directory

theorem KeptIn.refl (t : FileTree) : t.KeptIn t := fun _ h => h

theorem KeptIn.trans (h : t.KeptIn t') (h' : t'.KeptIn t'') : t.KeptIn t'' :=
  fun p hp => h' p (h p hp)

theorem keptIn_put (h : t.isDirectory p = false) (n : FileNode) : t.KeptIn (t.put p n) := by
  intro q hq
  rw [node?_put]
  split_ifs with hgiven hqp
  · rfl
  · simp [isDirectory, ← hqp, hq] at h
  · exact hq

theorem keptIn_put_directory (t : FileTree) (p : Place) : t.KeptIn (t.put p .directory) := by
  intro q hq
  rw [node?_put]
  split_ifs
  · rfl
  · rfl
  · exact hq

theorem follow_kept (hk : t.KeptIn t') (h : t.follow p steps = .ok q) :
    t'.follow p steps = .ok q := by
  induction steps generalizing p with
  | nil => exact h
  | cons part rest ih =>
    unfold follow at h ⊢
    split_ifs at h ⊢ with hlong hrest
    · exact h
    · dsimp only at h ⊢
      cases hnode : t.node? (takeStep p part) with
      | none => simp [hnode] at h
      | some n =>
        cases n with
        | directory =>
          rw [hk _ hnode]
          rw [hnode] at h
          exact ih h
        | text _ => simp [hnode] at h
        | binary => simp [hnode] at h

theorem locate_kept (hk : t.KeptIn t') (h : t.locate path = .ok p) : t'.locate path = .ok p := by
  unfold locate locateParts at h ⊢
  cases hfault : pathFault? path with
  | some fault => simp [hfault] at h
  | none =>
    rw [hfault] at h
    exact follow_kept hk h

theorem keptIn_makeDirectories (h : t.makeDirectories p steps = .ok t') : t.KeptIn t' := by
  induction steps generalizing t p with
  | nil =>
    rw [makeDirectories] at h
    exact Except.ok.inj h ▸ KeptIn.refl t
  | cons part rest ih =>
    unfold makeDirectories at h
    by_cases hlong : longestName < part.utf8ByteSize
    · simp [hlong] at h
    rw [if_neg hlong] at h
    dsimp only at h
    split at h
    · exact ih h
    · contradiction
    · exact (t.keptIn_put_directory _).trans (ih h)

theorem makeDirectories_kept (h : t.makeDirectories p steps = .ok t') (hk : t'.KeptIn t'') :
    t''.makeDirectories p steps = .ok t'' := by
  induction steps generalizing t p with
  | nil => rfl
  | cons part rest ih =>
    unfold makeDirectories at h ⊢
    by_cases hlong : longestName < part.utf8ByteSize
    · simp [hlong] at h
    rw [if_neg hlong] at h ⊢
    have hmade : t''.node? (takeStep p part) = some .directory ∧
        t''.makeDirectories (takeStep p part) rest = .ok t'' := by
      dsimp only at h
      split at h
      · rename_i hnode
        exact ⟨hk _ (keptIn_makeDirectories h _ hnode), ih h⟩
      · contradiction
      · refine ⟨hk _ (keptIn_makeDirectories h _ ?_), ih h⟩
        simp [node?_put]
    dsimp only
    rw [hmade.1]
    exact hmade.2

theorem makeParent_kept (h : t.makeParent path = .ok t') (hk : t'.KeptIn t'') :
    t''.makeParent path = .ok t'' := by
  unfold makeParent at h ⊢
  split at h
  · rfl
  · contradiction
  · exact makeDirectories_kept h hk

theorem writeText_ok (h : t.writeText path content = .ok t') : ∃ p, t.locate path = .ok p ∧
    t.isDirectory p = false ∧ t' = t.put p (.text content) := by
  unfold writeText at h
  cases hp : t.locate path with
  | error fault => simp [hp, bind, Except.bind] at h
  | ok p =>
    refine ⟨p, rfl, ?_⟩
    simp only [hp, bind, Except.bind] at h
    split_ifs at h with hdir
    exact ⟨by simpa using hdir, (Except.ok.inj h).symm⟩

theorem readText_writeText (h : t.writeText path content = .ok t') :
    t'.readText path = .ok content := by
  obtain ⟨p, hp, hdir, rfl⟩ := writeText_ok h
  have hlocate := locate_kept (keptIn_put hdir (.text content)) hp
  simp [readText, hlocate, bind, Except.bind, node?_put_self hdir]

theorem touch_ok (h : t.touch path = .ok t') : t.KeptIn t' ∧ ∃ p n, t'.locate path = .ok p ∧
    t'.node? p = some n ∧ n ≠ .directory := by
  unfold touch at h
  cases hp : t.locate path with
  | error fault => simp [hp, bind, Except.bind] at h
  | ok p =>
    simp only [hp, bind, Except.bind] at h
    split at h
    · contradiction
    · rename_i n hnode hn
      obtain rfl := Except.ok.inj h
      exact ⟨KeptIn.refl t, p, n, hp, hn, fun hdir => hnode hdir⟩
    · rename_i hnone
      obtain rfl := Except.ok.inj h
      have hdir : t.isDirectory p = false := by simp [isDirectory, hnone]
      have hkept := keptIn_put hdir (.text "")
      exact ⟨hkept, p, .text "", locate_kept hkept hp, node?_put_self hdir _, by simp⟩

end FileTree

end LaneQuota
