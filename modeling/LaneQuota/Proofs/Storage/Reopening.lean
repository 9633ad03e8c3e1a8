import LaneQuota.Proofs.Storage.Writes

namespace LaneQuota

theorem mapError_eq_ok {α ε ε' : Type} {x : Except ε α} {f : ε → ε'} {a : α} :
    x.mapError f = .ok a ↔ x = .ok a := by
  cases x <;> simp [Except.mapError]

theorem bind_eq_ok {α β ε : Type} {x : Except ε α} {f : α → Except ε β} {b : β} :
    x >>= f = .ok b ↔ ∃ a, x = .ok a ∧ f a = .ok b := by
  cases x <;> simp [bind, Except.bind]

namespace FileTree

variable {t t' : FileTree} (h : t.nodes = t'.nodes)

include h

theorem node?_congr (p : Place) : t.node? p = t'.node? p := by
  rw [node?, node?, h]

theorem keptIn_of_nodes_eq : t.KeptIn t' := fun p hp => (node?_congr h p) ▸ hp

theorem follow_congr (p : Place) (steps : List String) : t.follow p steps = t'.follow p steps := by
  induction steps generalizing p with
  | nil => rfl
  | cons part rest ih => simp only [follow, node?_congr h, ih]

theorem locate_congr (path : String) : t.locate path = t'.locate path := by
  simp only [locate, locateParts, follow_congr h]

theorem readText_congr (path : String) : t.readText path = t'.readText path := by
  simp only [readText, locate_congr h, node?_congr h]

end FileTree

namespace StateFile

variable {path : String} {t t' : FileTree} {s : LedgerState}

theorem load_congr (h : t.nodes = t'.nodes) (path : String) : load t path = load t' path := by
  rw [load, load, FileTree.readText_congr h]

structure Ready (path : String) (t : FileTree) : Prop where
  parent : t.makeParent path = .ok t
  lock : ∃ p n, t.locate (lockPath path) = .ok p ∧ t.node? p = some n ∧ n ≠ .directory

theorem Ready.congr (h : Ready path t) (hnodes : t.nodes = t'.nodes) : Ready path t' := by
  obtain ⟨p, n, hp, hn, hne⟩ := h.lock
  refine ⟨FileTree.makeParent_kept h.parent (FileTree.keptIn_of_nodes_eq hnodes), p, n, ?_, ?_, hne⟩
  · rw [← FileTree.locate_congr hnodes, hp]
  · rw [← FileTree.node?_congr hnodes, hn]

theorem Ready.put (h : Ready path t) {q : Place} (hq : t.isDirectory q = false) (content : String) :
    Ready path (t.put q (.text content)) := by
  obtain ⟨p, n, hp, hn, hne⟩ := h.lock
  have hkept := FileTree.keptIn_put hq (.text content)
  -- A place that is given is a directory, which the lock file is not.
  have hgiven : FileTree.isGiven p = false := by
    by_contra hgiven
    rw [FileTree.node?, if_pos (by simpa using hgiven)] at hn
    exact hne (Option.some.inj hn).symm
  refine ⟨FileTree.makeParent_kept h.parent hkept, p, ?_⟩
  rw [FileTree.node?_put, hgiven]
  by_cases hpq : p = q
  · exact ⟨.text content, FileTree.locate_kept hkept hp, by simp [hpq], by simp⟩
  · exact ⟨n, FileTree.locate_kept hkept hp, by simpa [hpq] using hn, hne⟩

theorem Ready.store (h : Ready path t) (hstore : StateFile.store path s t = .ok t') :
    Ready path t' := by
  obtain ⟨q, -, hq, rfl⟩ := FileTree.writeText_ok (mapError_eq_ok.mp hstore)
  exact h.put hq _

theorem ready_lock (h : StateFile.lock t path = .ok t') : Ready path t' := by
  unfold StateFile.lock at h
  obtain ⟨made, hmade, h⟩ := bind_eq_ok.mp h
  obtain ⟨touched, htouched, h⟩ := bind_eq_ok.mp h
  obtain ⟨place, -, h⟩ := bind_eq_ok.mp h
  obtain ⟨hkept, hlock⟩ := FileTree.touch_ok (mapError_eq_ok.mp htouched)
  have hready : Ready path touched :=
    ⟨FileTree.makeParent_kept (mapError_eq_ok.mp hmade) hkept, hlock⟩
  split at h
  · contradiction
  · obtain rfl := Except.ok.inj h
    exact hready.congr rfl

theorem touch_of_file {n : FileNode} {p : Place} (hp : t.locate path = .ok p)
    (hn : t.node? p = some n) (hne : n ≠ .directory) : t.touch path = .ok t := by
  cases n with
  | directory => exact absurd rfl hne
  | text content => simp only [FileTree.touch, hp, hn, bind, Except.bind]
  | binary => simp only [FileTree.touch, hp, hn, bind, Except.bind]

theorem unlock_eq {p : Place} (hp : t.locate (lockPath path) = .ok p) :
    unlock t path = { t with locks := t.locks.filter (fun q => q ≠ p) } := by
  rw [unlock, hp]

theorem Ready.lock_unlock (h : Ready path t) :
    ∃ t', StateFile.lock (unlock t path) path = .ok t' ∧ t'.nodes = t.nodes := by
  obtain ⟨p, n, hp, hn, hne⟩ := h.lock
  have hunlock := unlock_eq hp
  have hnodes : t.nodes = (unlock t path).nodes := by rw [hunlock]
  have hfree : (unlock t path).locks.contains p = false := by simp [hunlock]
  obtain ⟨hparent, -⟩ := h.congr hnodes
  have hp' : (unlock t path).locate (lockPath path) = .ok p := by
    rw [← FileTree.locate_congr hnodes, hp]
  have hn' : (unlock t path).node? p = some n := by rw [← FileTree.node?_congr hnodes, hn]
  refine ⟨{ unlock t path with locks := p :: (unlock t path).locks }, ?_, hnodes.symm⟩
  unfold StateFile.lock
  simp only [hparent, touch_of_file hp' hn' hne, hp', Except.mapError, bind, Except.bind, hfree,
    Bool.false_eq_true, if_false]

end StateFile

namespace DurableLedger

variable {path : String} {t t' : FileTree} {s : LedgerState}

theorem Opens.ready {policy : LedgerPolicy} {locked : FileTree} {d : DurableLedger}
    (h : Opens policy path t d locked t' s) : StateFile.Ready path t' := by
  have hlocked := StateFile.ready_lock h.lock
  cases hres : s.holdsReserved with
  | false =>
    rw [h.kept hres]
    exact hlocked
  | true => exact hlocked.store (h.cleared hres)

theorem store_of_readText {text : String} (h : t.readText path = .ok text) (s : LedgerState) :
    ∃ t', StateFile.store path s t = .ok t' := by
  obtain ⟨p, hp, hread⟩ := bind_eq_ok.mp h
  have hdir : t.isDirectory p = false := by
    cases hn : t.node? p with
    | none => simp [FileTree.isDirectory, hn]
    | some n => cases n <;> simp_all [FileTree.isDirectory]
  refine ⟨t.put p (.text s.documentText), ?_⟩
  simp [StateFile.store, FileTree.writeText, hp, hdir, bind, Except.bind, Except.mapError]

theorem load_of_load (policy : LedgerPolicy) (h : StateFile.load t path = .ok s) :
    ∃ t', load policy path t = .ok (⟨Ledger.ofState policy s.clearReserved, false⟩, t') := by
  have hstore : s.holdsReserved = true → ∃ t', StateFile.store path s.clearReserved t = .ok t' := by
    intro hres
    unfold StateFile.load at h
    split at h
    · next text hread => exact store_of_readText hread _
    · obtain rfl := Except.ok.inj h
      contradiction
    · contradiction
  unfold load
  simp only [h, bind, Except.bind, pure, Except.pure]
  cases hres : s.holdsReserved with
  | false => exact ⟨t, rfl⟩
  | true =>
    obtain ⟨t', ht'⟩ := hstore hres
    exact ⟨t', by simp [ht']⟩

theorem openFile_unlock (policy : LedgerPolicy) (h : StateFile.Ready path t) :
    (∀ s, StateFile.load t path = .ok s → ∃ t', openFile policy path (StateFile.unlock t path) =
      (.ok ⟨Ledger.ofState policy s.clearReserved, false⟩, t')) ∧
    ∀ fault, StateFile.load t path = .error fault →
      (openFile policy path (StateFile.unlock t path)).1 = .error fault := by
  obtain ⟨locked, hlock, hnodes⟩ := h.lock_unlock
  rw [← StateFile.load_congr hnodes]
  refine ⟨fun s hs => ?_, fun fault hfault => ?_⟩
  · obtain ⟨t', ht'⟩ := load_of_load policy hs
    exact ⟨t', by rw [openFile, hlock]; simp only [ht']⟩
  · rw [openFile, hlock]
    simp only [load, hfault, bind, Except.bind]

variable {fault : ℕ → Option Fault} {d : DurableLedger} {disk : Disk}

theorem ready_save (h : StateFile.Ready path disk.tree) (d : DurableLedger) :
    StateFile.Ready path (d.save (Medium.faulty path fault) disk).2.tree := by
  unfold save Medium.faulty Medium.file
  dsimp only
  cases fault disk.outcomes.length with
  | some cause => exact h
  | none =>
    dsimp only
    cases hstore : StateFile.store path d.ledger.state disk.tree with
    | error cause => exact h
    | ok t => exact h.store hstore

theorem ready_acts (h : StateFile.Ready path disk.tree) (d : DurableLedger)
    (actions : List Action) :
    StateFile.Ready path (d.acts (Medium.faulty path fault) disk actions).2.2.tree :=
  keeps_acts (fun _ disk => StateFile.Ready path disk.tree) (fun _ d _ h => ready_save h d)
    (fun _ _ _ _ h _ _ => h) h actions

end DurableLedger

end LaneQuota
