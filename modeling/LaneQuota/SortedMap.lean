namespace LaneQuota

universe u v

structure SortedMap (α : Type u) where
  entries : List (String × α)
  sorted : entries.Pairwise (fun a b => a.1 < b.1)
deriving DecidableEq

namespace SortedMap

variable {α : Type u} {β : Type v}

def insertEntry (k : String) (v : α) : List (String × α) → List (String × α)
  | [] => [(k, v)]
  | e :: rest =>
    if k < e.1 then (k, v) :: e :: rest
    else if k = e.1 then (k, v) :: rest
    else e :: insertEntry k v rest

def findEntry (k : String) : List (String × α) → Option α
  | [] => none
  | e :: rest => if e.1 = k then some e.2 else findEntry k rest

theorem mem_insertEntry {k : String} {v : α} {e : String × α} {es : List (String × α)}
    (h : e ∈ insertEntry k v es) : e = (k, v) ∨ e ∈ es := by
  induction es with
  | nil => simpa [insertEntry] using h
  | cons x xs ih =>
    unfold insertEntry at h
    split at h
    · simpa using h
    · split at h
      · have h' := List.mem_cons.1 h
        rcases h' with h' | h'
        · exact Or.inl h'
        · exact Or.inr (List.mem_cons_of_mem _ h')
      · have h' := List.mem_cons.1 h
        rcases h' with h' | h'
        · exact Or.inr (by simp [h'])
        · rcases ih h' with h'' | h''
          · exact Or.inl h''
          · exact Or.inr (List.mem_cons_of_mem _ h'')

theorem insertEntry_sorted (k : String) (v : α) {es : List (String × α)}
    (h : es.Pairwise (fun a b => a.1 < b.1)) :
    (insertEntry k v es).Pairwise (fun a b => a.1 < b.1) := by
  induction es with
  | nil => simp [insertEntry]
  | cons x xs ih =>
    have hx := List.pairwise_cons.1 h
    unfold insertEntry
    split
    · rename_i hk
      refine List.pairwise_cons.2 ⟨?_, h⟩
      intro b hb
      rcases List.mem_cons.1 hb with hb | hb
      · simpa [hb] using hk
      · exact String.lt_trans hk (hx.1 b hb)
    · split
      · rename_i hk
        exact List.pairwise_cons.2 ⟨fun b hb => by simpa [hk] using hx.1 b hb, hx.2⟩
      · rename_i hlt hne
        refine List.pairwise_cons.2 ⟨?_, ih hx.2⟩
        intro b hb
        rcases mem_insertEntry hb with hb | hb
        · subst hb
          have hle := String.not_lt.1 hlt
          apply Classical.byContradiction
          intro hn
          exact hne (String.le_antisymm (String.not_lt.1 hn) hle)
        · exact hx.1 b hb

theorem findEntry_insertEntry_self (k : String) (v : α) (es : List (String × α)) :
    findEntry k (insertEntry k v es) = some v := by
  induction es with
  | nil => simp [insertEntry, findEntry]
  | cons x xs ih =>
    unfold insertEntry
    split
    · simp [findEntry]
    · split
      · simp [findEntry]
      · rename_i hne
        simp [findEntry, Ne.symm hne, ih]

theorem findEntry_insertEntry_of_ne {k k' : String} (h : k ≠ k') (v : α)
    (es : List (String × α)) : findEntry k' (insertEntry k v es) = findEntry k' es := by
  induction es with
  | nil => simp [insertEntry, findEntry, h]
  | cons x xs ih =>
    unfold insertEntry
    split
    · simp [findEntry, h]
    · split
      · rename_i hk
        have hx : ¬x.1 = k' := fun hx => h (hk.trans hx)
        simp [findEntry, h, hx]
      · simp [findEntry, ih]

theorem findEntry_filter (p : String → Bool) (k : String) (es : List (String × α)) :
    findEntry k (es.filter (fun e => p e.1)) = if p k then findEntry k es else none := by
  induction es with
  | nil => simp [findEntry]
  | cons x xs ih =>
    by_cases hp : p x.1 = true
    · by_cases hx : x.1 = k
      · subst hx
        simp [hp, findEntry]
      · simp [hp, findEntry, hx, ih]
    · by_cases hx : x.1 = k
      · subst hx
        simp [hp, ih]
      · simp [hp, findEntry, hx, ih]

theorem findEntry_map (f : String → α → β) (k : String) (es : List (String × α)) :
    findEntry k (es.map (fun e => (e.1, f e.1 e.2))) = (findEntry k es).map (f k) := by
  induction es with
  | nil => simp [findEntry]
  | cons x xs ih =>
    by_cases hx : x.1 = k
    · subst hx; simp [findEntry]
    · simp [findEntry, hx, ih]

theorem findEntry_eq_none_of_lt {k : String} {es : List (String × α)}
    (h : ∀ e ∈ es, k < e.1) : findEntry k es = none := by
  induction es with
  | nil => rfl
  | cons x xs ih =>
    have hx : ¬x.1 = k := fun hx => String.lt_irrefl k (by simpa [hx] using h x (by simp))
    simp [findEntry, hx, ih (fun e he => h e (List.mem_cons_of_mem _ he))]

theorem mem_of_findEntry {k : String} {v : α} {es : List (String × α)}
    (h : findEntry k es = some v) : (k, v) ∈ es := by
  induction es with
  | nil => simp [findEntry] at h
  | cons x xs ih =>
    unfold findEntry at h
    split at h
    · rename_i hx
      have hv : x.2 = v := by simpa using h
      exact List.mem_cons.2 (Or.inl (by rw [← hx, ← hv]))
    · exact List.mem_cons_of_mem _ (ih h)

theorem eq_of_findEntry_eq {es fs : List (String × α)}
    (he : es.Pairwise (fun a b => a.1 < b.1)) (hf : fs.Pairwise (fun a b => a.1 < b.1))
    (h : ∀ k, findEntry k es = findEntry k fs) : es = fs := by
  induction es generalizing fs with
  | nil =>
    cases fs with
    | nil => rfl
    | cons y ys => have hy := h y.1; simp [findEntry] at hy
  | cons x xs ih =>
    cases fs with
    | nil => have hx := h x.1; simp [findEntry] at hx
    | cons y ys =>
      have hx := List.pairwise_cons.1 he
      have hy := List.pairwise_cons.1 hf
      have hkey : x.1 = y.1 := by
        apply Classical.byContradiction
        intro hne
        have h1 := h x.1
        have h2 := h y.1
        have hyx : ¬y.1 = x.1 := fun hyx => hne hyx.symm
        simp only [findEntry, if_neg hyx, if_neg hne] at h1 h2
        have m1 := hy.1 _ (mem_of_findEntry h1.symm)
        have m2 := hx.1 _ (mem_of_findEntry h2)
        exact String.lt_asymm m1 m2
      have hval : x.2 = y.2 := by
        have h1 := h x.1
        simpa [findEntry, hkey] using h1
      have hxy : x = y := Prod.ext hkey hval
      subst hxy
      congr 1
      apply ih hx.2 hy.2
      intro k
      by_cases hk : x.1 = k
      · subst hk
        rw [findEntry_eq_none_of_lt hx.1, findEntry_eq_none_of_lt hy.1]
      · have h1 := h k
        simpa [findEntry, hk] using h1

def empty : SortedMap α := ⟨[], List.Pairwise.nil⟩

instance : EmptyCollection (SortedMap α) := ⟨empty⟩

instance : Inhabited (SortedMap α) := ⟨empty⟩

def get? (m : SortedMap α) (k : String) : Option α := findEntry k m.entries

def getD (m : SortedMap α) (k : String) (d : α) : α := (m.get? k).getD d

def contains (m : SortedMap α) (k : String) : Bool := (m.get? k).isSome

def insert (m : SortedMap α) (k : String) (v : α) : SortedMap α :=
  ⟨insertEntry k v m.entries, insertEntry_sorted k v m.sorted⟩

def filterKeys (p : String → Bool) (m : SortedMap α) : SortedMap α :=
  ⟨m.entries.filter (fun e => p e.1), m.sorted.filter _⟩

def erase (m : SortedMap α) (k : String) : SortedMap α := m.filterKeys (fun k' => k' != k)

def mapEntries (f : String → α → β) (m : SortedMap α) : SortedMap β :=
  ⟨m.entries.map (fun e => (e.1, f e.1 e.2)), List.Pairwise.map _ (fun _ _ h => h) m.sorted⟩

def mapValues (f : α → β) (m : SortedMap α) : SortedMap β := m.mapEntries (fun _ v => f v)

def adjust (m : SortedMap α) (k : String) (d : α) (f : α → α) : SortedMap α :=
  m.insert k (f (m.getD k d))

def ofList (es : List (String × α)) : SortedMap α :=
  es.foldl (fun m e => m.insert e.1 e.2) empty

def keys (m : SortedMap α) : List String := m.entries.map Prod.fst

def values (m : SortedMap α) : List α := m.entries.map Prod.snd

@[simp] theorem get?_empty (k : String) : (empty : SortedMap α).get? k = none := rfl

@[simp] theorem get?_emptyCollection (k : String) : (∅ : SortedMap α).get? k = none :=
  get?_empty k

@[simp] theorem get?_insert_self (m : SortedMap α) (k : String) (v : α) :
    (m.insert k v).get? k = some v := findEntry_insertEntry_self k v m.entries

theorem get?_insert_of_ne (m : SortedMap α) {k k' : String} (h : k ≠ k') (v : α) :
    (m.insert k v).get? k' = m.get? k' := findEntry_insertEntry_of_ne h v m.entries

theorem get?_insert (m : SortedMap α) (k k' : String) (v : α) :
    (m.insert k v).get? k' = if k = k' then some v else m.get? k' := by
  by_cases h : k = k'
  · subst h; simp
  · simp [h, get?_insert_of_ne m h v]

theorem get?_filterKeys (p : String → Bool) (m : SortedMap α) (k : String) :
    (m.filterKeys p).get? k = if p k then m.get? k else none := findEntry_filter p k m.entries

theorem get?_erase (m : SortedMap α) (k k' : String) :
    (m.erase k).get? k' = if k' = k then none else m.get? k' := by
  rw [erase, get?_filterKeys]
  by_cases h : k' = k <;> simp [h]

theorem get?_mapEntries (f : String → α → β) (m : SortedMap α) (k : String) :
    (m.mapEntries f).get? k = (m.get? k).map (f k) := findEntry_map f k m.entries

@[simp] theorem get?_mapValues (f : α → β) (m : SortedMap α) (k : String) :
    (m.mapValues f).get? k = (m.get? k).map f := get?_mapEntries _ m k

theorem get?_adjust (m : SortedMap α) (k k' : String) (d : α) (f : α → α) :
    (m.adjust k d f).get? k' = if k = k' then some (f (m.getD k d)) else m.get? k' :=
  get?_insert m k k' _

theorem eq_of_get?_eq {m n : SortedMap α} (h : ∀ k, m.get? k = n.get? k) : m = n := by
  cases m; cases n
  congr
  exact eq_of_findEntry_eq ‹_› ‹_› h

end SortedMap

abbrev TextSet := SortedMap Unit

end LaneQuota
