import LaneQuota.Json.Record
import LaneQuota.Proofs.Json.Documents

namespace LaneQuota

section Readings

variable {α β : Type} {f : α → Option β}

theorem mapM_congr {g : α → Option β} {l : List α} (h : ∀ a ∈ l, f a = g a) :
    l.mapM f = l.mapM g := by
  induction l with
  | nil => rfl
  | cons a l ih =>
    rw [List.mapM_cons, List.mapM_cons, h a List.mem_cons_self,
      ih (fun b hb => h b (List.mem_cons_of_mem a hb))]

theorem mapM_some (g : α → β) (l : List α) : l.mapM (fun a => some (g a)) = some (l.map g) := by
  induction l with
  | nil => rfl
  | cons a l ih =>
    rw [List.mapM_cons, ih]
    rfl

theorem isSome_mapM {l : List α} :
    (l.mapM f).isSome = true ↔ ∀ a ∈ l, (f a).isSome = true := by
  induction l with
  | nil => simp
  | cons a l ih =>
    rw [List.mapM_cons, List.forall_mem_cons, ← ih]
    cases f a with
    | none => simp
    | some b => cases l.mapM f <;> simp

theorem forall₂_of_mapM {l : List α} {bs : List β} (h : l.mapM f = some bs) :
    List.Forall₂ (fun a b => f a = some b) l bs := by
  induction l generalizing bs with
  | nil =>
    obtain rfl : [] = bs := Option.some.inj h
    exact .nil
  | cons a l ih =>
    rw [List.mapM_cons] at h
    obtain ⟨b, hb, h⟩ := Option.bind_eq_some_iff.mp h
    obtain ⟨bs', hbs', h⟩ := Option.bind_eq_some_iff.mp h
    obtain rfl := Option.some.inj h
    exact .cons hb (ih hbs')

theorem exists_of_mem_mapM {l : List α} {bs : List β} (h : l.mapM f = some bs) :
    ∀ b ∈ bs, ∃ a, f a = some b := by
  have hall := forall₂_of_mapM h
  clear h
  induction hall with
  | nil => simp
  | cons hab _ ih => exact List.forall_mem_cons.mpr ⟨⟨_, hab⟩, ih⟩

end Readings

namespace SortedMap

variable {α β : Type}

theorem get?_foldl_insert {es : List (String × α)} (hs : es.Pairwise (fun a b => a.1 < b.1))
    (m : SortedMap α) (k : String) :
    (es.foldl (fun m e => m.insert e.1 e.2) m).get? k = (findEntry k es).or (m.get? k) := by
  induction es generalizing m with
  | nil => rfl
  | cons e rest ih =>
    obtain ⟨hlt, hrest⟩ := List.pairwise_cons.mp hs
    rw [List.foldl_cons, ih hrest, get?_insert, findEntry]
    split_ifs with hk
    · rw [findEntry_eq_none_of_lt (hk ▸ hlt)]
      rfl
    · rfl

theorem mem_of_get?_foldl_insert {es : List (String × α)} {m : SortedMap α} {k : String} {v : α}
    (h : (es.foldl (fun m e => m.insert e.1 e.2) m).get? k = some v) :
    (k, v) ∈ es ∨ m.get? k = some v := by
  induction es generalizing m with
  | nil => exact Or.inr h
  | cons e rest ih =>
    rcases ih h with hmem | hget
    · exact Or.inl (List.mem_cons_of_mem e hmem)
    · rw [get?_insert] at hget
      split_ifs at hget with hk
      · left
        rw [← hk, ← Option.some.inj hget]
        exact List.mem_cons_self
      · exact Or.inr hget

theorem ofList_entries (m : SortedMap α) : ofList m.entries = m := by
  apply eq_of_get?_eq
  intro k
  rw [ofList, get?_foldl_insert m.sorted, get?_empty, Option.or_none]
  rfl

def traverse? (f : α → Option β) (m : SortedMap α) : Option (SortedMap β) :=
  (m.entries.mapM (fun e => (f e.2).map (fun v => (e.1, v)))).map ofList

theorem traverse?_eq_self {f : α → Option α} {m : SortedMap α}
    (h : ∀ v ∈ m.values, f v = some v) : m.traverse? f = some m := by
  have hentries : m.entries.mapM (fun e => (f e.2).map (fun v => (e.1, v))) =
      m.entries.mapM (fun e => some (id e)) := by
    apply mapM_congr
    intro e he
    rw [h e.2 (List.mem_map_of_mem he)]
    rfl
  rw [traverse?, hentries, mapM_some, List.map_id, Option.map_some, ofList_entries]

theorem isSome_traverse? {f : α → Option β} {m : SortedMap α} :
    (m.traverse? f).isSome = true ↔ ∀ v ∈ m.values, (f v).isSome = true := by
  rw [traverse?, Option.isSome_map, isSome_mapM, values, List.forall_mem_map]
  simp only [Option.isSome_map]

theorem findEntry_of_forall₂ {f : α → Option β} {es : List (String × α)} {es' : List (String × β)}
    (h : List.Forall₂ (fun e e' => (f e.2).map (fun v => (e.1, v)) = some e') es es') :
    es'.map Prod.fst = es.map Prod.fst ∧
      ∀ k, (findEntry k es).map f = (findEntry k es').map some := by
  induction h with
  | nil => exact ⟨rfl, fun _ => rfl⟩
  | @cons e e' es es' he _ ih =>
    obtain ⟨v, hv, rfl⟩ := Option.map_eq_some_iff.mp he
    refine ⟨by rw [List.map_cons, List.map_cons, ih.1], fun k => ?_⟩
    rw [findEntry, findEntry]
    split_ifs
    · rw [Option.map_some, hv, Option.map_some]
    · exact ih.2 k

theorem get?_of_traverse? {f : α → Option β} {m : SortedMap α} {m' : SortedMap β}
    (h : m.traverse? f = some m') (k : String) : (m.get? k).map f = (m'.get? k).map some := by
  obtain ⟨es, hes, rfl⟩ := Option.map_eq_some_iff.mp h
  obtain ⟨hkeys, hfind⟩ := findEntry_of_forall₂ (forall₂_of_mapM hes)
  have hsorted : es.Pairwise (fun a b => a.1 < b.1) := by
    have hm := List.pairwise_map.mpr m.sorted
    rw [← hkeys] at hm
    exact List.pairwise_map.mp hm
  rw [ofList, get?_foldl_insert hsorted, get?_empty, Option.or_none]
  exact hfind k

theorem bind_get?_of_traverse? {f : α → Option β} {m : SortedMap (SortedMap α)}
    {m' : SortedMap (SortedMap β)} (h : m.traverse? (fun x => x.traverse? f) = some m')
    (t k : String) : ((m.get? t).bind (fun x => x.get? k)).map f =
      ((m'.get? t).bind (fun x => x.get? k)).map some := by
  have ht := get?_of_traverse? h t
  cases hm : m.get? t with
  | none =>
    rw [hm, Option.map_none, eq_comm, Option.map_eq_none_iff] at ht
    rw [ht]
    rfl
  | some x =>
    rw [hm, Option.map_some] at ht
    obtain ⟨x', hx', hx⟩ := Option.map_eq_some_iff.mp ht.symm
    rw [hx']
    exact get?_of_traverse? hx.symm k

end SortedMap

namespace Json

theorem fieldOf?_of_mem {members : List (String × Json)} (h : (members.map Prod.fst).Nodup)
    {m : String × Json} (hm : m ∈ members) : fieldOf? members [m.1] = some (some m.2) := by
  have hvalues : valuesOf [m.1] members = [m.2] := by
    induction members with
    | nil => contradiction
    | cons x rest ih =>
      obtain ⟨hx, hrest⟩ := List.nodup_cons.mp h
      rcases List.mem_cons.mp hm with rfl | hm
      · have hothers : rest.filter (fun x => [m.1].contains x.1) = [] := by
          rw [List.filter_eq_nil_iff]
          intro y hy heq
          have hyx : y.1 = m.1 := by simpa using heq
          exact hx (hyx ▸ List.mem_map_of_mem hy)
        rw [valuesOf, List.filter_cons_of_pos (by simp), hothers]
        rfl
      · have hne : x.1 ≠ m.1 := fun heq => hx (heq ▸ List.mem_map_of_mem hm)
        rw [valuesOf, List.filter_cons_of_neg (by simpa using hne)]
        exact ih hrest hm
  rw [fieldOf?, hvalues]

theorem record?_reread (names : List String) (members : List (String × Json))
    (hnames : members.map Prod.fst = names) (h : names.Nodup) :
    record? names (Json.obj members).reread = some (members.map (fun m => some m.2.reread)) := by
  have hreread : (rereadMembers members).map Prod.fst = names := by
    rw [← hnames, rereadMembers_eq, List.map_map]
    rfl
  -- No name occurs twice, so that each field has exactly its own value.
  have hfields : (rereadMembers members).mapM (fun m => fieldOf? (rereadMembers members) [m.1]) =
      some ((rereadMembers members).map (fun m => some m.2)) := by
    rw [← mapM_some]
    exact mapM_congr (fun m hm => fieldOf?_of_mem (hreread ▸ h) hm)
  change (names.map (fun n => [n])).mapM (fieldOf? (rereadMembers members)) = _
  rw [← hreread, List.map_map, List.mapM_map]
  refine hfields.trans ?_
  rw [rereadMembers_eq, List.map_map]
  rfl

section Sources

variable {α : Type} {f : Json → Option α} {j : Json}

theorem exists_of_asList? {as : List α} (h : asList? f j = some as) :
    ∀ a ∈ as, ∃ j, f j = some a := by
  cases j with
  | arr items => exact exists_of_mem_mapM h
  | _ => contradiction

theorem of_asMap? {P : α → Prop} (hf : ∀ j a, f j = some a → P a) {m : SortedMap α}
    (h : asMap? f j = some m) (k : String) (a : α) (ha : m.get? k = some a) : P a := by
  cases j with
  | obj members =>
    obtain ⟨es, hes, rfl⟩ := Option.map_eq_some_iff.mp h
    rcases SortedMap.mem_of_get?_foldl_insert ha with hmem | hget
    · obtain ⟨member, hmember⟩ := exists_of_mem_mapM hes _ hmem
      obtain ⟨b, hb, heq⟩ := Option.map_eq_some_iff.mp hmember
      exact hf member.2 a (hb.trans (congrArg some (Prod.mk.inj heq).2))
    · contradiction
  | _ => contradiction

theorem of_defaulted_asMap? {P : α → Prop} (hf : ∀ j a, f j = some a → P a) {x : Option Json}
    {m : SortedMap α} (h : defaulted? ∅ (asMap? f) x = some m) (k : String) (a : α)
    (ha : m.get? k = some a) : P a := by
  cases x with
  | none =>
    obtain rfl := Option.some.inj h
    contradiction
  | some j => exact of_asMap? hf h k a ha

end Sources

structure Returns {α β : Type} (write : α → Json) (read? : Json → Option β) (a : α)
    (r : Option β) : Prop where
  readable : (write a).Readable
  reread : read? (write a).reread = r

section Returns

variable {α β : Type} {write : α → Json} {read? : Json → Option β} {f : α → Option β}

theorem returns_list {l : List α} (h : ∀ a ∈ l, Returns write read? a (f a)) :
    Returns (fun l => .arr (l.map write)) (asList? read?) l (l.mapM f) := by
  refine ⟨?_, ?_⟩
  · rw [Readable, readableItems_iff, List.forall_mem_map]
    exact fun a ha => (h a ha).readable
  · rw [Json.reread, rereadItems_eq, List.map_map, asList?, List.mapM_map]
    exact mapM_congr (fun a ha => (h a ha).reread)

theorem returns_map {m : SortedMap α} (h : ∀ a ∈ m.values, Returns write read? a (f a)) :
    Returns (ofMap write) (asMap? read?) m (m.traverse? f) := by
  have hentries := fun e he => h (Prod.snd e) (List.mem_map_of_mem (f := Prod.snd) he)
  refine ⟨?_, ?_⟩
  · rw [ofMap, Readable, readableMembers_iff, List.forall_mem_map]
    exact fun e he => (hentries e he).readable
  · rw [ofMap, Json.reread, rereadMembers_eq, List.map_map, asMap?, List.mapM_map,
      SortedMap.traverse?]
    refine congrArg _ (mapM_congr (fun e he => ?_))
    rw [← (hentries e he).reread]
    rfl

theorem returns_text (s : String) : Returns .str asText? s (some s) := ⟨trivial, rfl⟩

theorem returns_bool (b : Bool) : Returns .bool asBool? b (some b) := ⟨trivial, rfl⟩

theorem returns_set (m : TextSet) : Returns ofSet asSet? m (some m) := by
  have hkeys := returns_list (l := m.keys) (fun k _ => returns_text k)
  refine ⟨hkeys.readable, ?_⟩
  have hread : asList? asText? (ofSet m).reread = some m.keys := by
    rw [ofSet, hkeys.reread, mapM_some, List.map_id']
  have hentries : m.keys.map (fun k => (k, ())) = m.entries := by
    rw [SortedMap.keys, List.map_map]
    exact List.map_id _
  rw [asSet?, hread, Option.map_some, hentries, SortedMap.ofList_entries]

end Returns

end Json

end LaneQuota
