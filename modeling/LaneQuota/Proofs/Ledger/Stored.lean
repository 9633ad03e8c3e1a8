import LaneQuota.Ledger.Encoding
import LaneQuota.Proofs.Calendar.Timestamps
import LaneQuota.Proofs.Json.Records
import LaneQuota.Proofs.Ledger.Contents

namespace LaneQuota

open Json

def rereadCost? (x : Float) : Option Float := if x.isFinite then rereadFloat? x else none

def ReadsAgain (x : Float) : Prop := x.isFinite = true → (rereadFloat? x).isSome = true

instance (x : Float) : Decidable (ReadsAgain x) := inferInstanceAs (Decidable (_ → _))

theorem isSome_rereadCost? {x : Float} (h : ReadsAgain x) :
    (rereadCost? x).isSome = true ↔ x.isFinite = true := by
  unfold rereadCost?
  split_ifs with hx
  · simp [hx, h hx]
  · simp [hx]

theorem returns_cost {x : Float} (h : ReadsAgain x) :
    Returns Json.ofFloat asFloat? x (rereadCost? x) := by
  unfold Json.ofFloat rereadCost?
  by_cases hx : x.isFinite = true
  · obtain ⟨y, hy⟩ := Option.isSome_iff_exists.mp (h hx)
    have hfloat : ofFloat x = .float x := if_pos hx
    refine ⟨?_, ?_⟩
    · simp [hx, Readable, hy]
    · simp [hx, Json.reread, hy, asFloat?]
  · refine ⟨?_, ?_⟩
    · simp [hx, Readable]
    · simp [hx, Json.reread, asFloat?]

theorem returns_uint64 (n : UInt64) : Returns uint64Json asUInt64? n (some n) := by
  have hmax : n.toNat ≤ Word.maxUnsigned64 := Nat.le_of_lt_succ n.toNat_lt
  refine ⟨⟨Int.natCast_nonneg _, Int.ofNat_le.mpr hmax⟩, ?_⟩
  simp [uint64Json, Json.nat, Json.reread, asUInt64?, asNat?, hmax]

namespace Usage

def reread? (u : Usage) : Option Usage := do
  let cost ← rereadCost? u.cost
  return { u with cost }

theorem returns {u : Usage} (h : ReadsAgain u.cost) :
    Returns Usage.json Usage.ofJson? u u.reread? := by
  have hin := returns_uint64 u.tokensIn
  have hout := returns_uint64 u.tokensOut
  have hcost := returns_cost h
  have hrecord := record?_reread ["tokensIn", "tokensOut", "costUnits"]
    [("tokensIn", uint64Json u.tokensIn), ("tokensOut", uint64Json u.tokensOut),
      ("costUnits", Json.ofFloat u.cost)] rfl (by decide)
  refine ⟨⟨hin.readable, hout.readable, hcost.readable, trivial⟩, ?_⟩
  simp only [ofJson?, Usage.json, hrecord, List.map_cons, List.map_nil, defaulted?, hin.reread,
    hout.reread, hcost.reread, Option.bind_eq_bind, Option.bind_some, reread?]

theorem isSome_reread? {u : Usage} (h : ReadsAgain u.cost) :
    u.reread?.isSome = true ↔ u.cost.isFinite = true := by
  rw [← isSome_rereadCost? h, reread?]
  cases rereadCost? u.cost <;> rfl

theorem reread?_eq_self {u : Usage} (h : rereadCost? u.cost = some u.cost) :
    u.reread? = some u := by
  rw [reread?, h]
  rfl

end Usage

namespace Bucket

def reread? (b : Bucket) : Option Bucket := do
  let used ← b.used.reread?
  let reserved ← b.reserved.reread?
  return { b with used, reserved }

structure Legible (b : Bucket) : Prop where
  lastUpdate : b.lastUpdate.IsValid
  used : ReadsAgain b.used.cost
  reserved : ReadsAgain b.reserved.cost

structure Finite (b : Bucket) : Prop where
  used : b.used.cost.isFinite = true
  reserved : b.reserved.cost.isFinite = true

instance : DecidablePred Bucket.Finite := fun b =>
  decidable_of_iff (b.used.cost.isFinite = true ∧ b.reserved.cost.isFinite = true)
    ⟨fun h => ⟨h.1, h.2⟩, fun h => ⟨h.used, h.reserved⟩⟩

variable {b : Bucket}

theorem returns (h : b.Legible) : Returns Bucket.json Bucket.ofJson? b b.reread? := by
  have hused := Usage.returns h.used
  have hreserved := Usage.returns h.reserved
  have htime : Instant.ofJson? (Json.str b.lastUpdate.text).reread = some b.lastUpdate := by
    rw [Instant.ofJson?, (returns_text _).reread, Option.bind_some,
      Timestamp.read?_text h.lastUpdate]
  have hrecord := record?_reread ["windowDay", "windowMonth", "used", "reserved", "hardStopped",
      "lastUpdate"]
    [("windowDay", .str b.day), ("windowMonth", .str b.month), ("used", b.used.json),
      ("reserved", b.reserved.json), ("hardStopped", .bool b.hardStopped),
      ("lastUpdate", .str b.lastUpdate.text)] rfl (by decide)
  refine ⟨?_, ?_⟩
  · simp only [Bucket.json, Readable, ReadableMembers, hused.readable, hreserved.readable, and_self]
  · simp only [ofJson?, Bucket.json, hrecord, List.map_cons, List.map_nil, required?, defaulted?,
      (returns_text _).reread, hused.reread, hreserved.reread, (returns_bool _).reread, htime,
      Option.bind_eq_bind, Option.bind_some, reread?]

theorem isSome_reread? (h : b.Legible) : b.reread?.isSome = true ↔ b.Finite := by
  have hused := Usage.isSome_reread? h.used
  have hreserved := Usage.isSome_reread? h.reserved
  have hboth : b.reread?.isSome = true ↔
      b.used.reread?.isSome = true ∧ b.reserved.reread?.isSome = true := by
    unfold reread?
    cases b.used.reread? <;> cases b.reserved.reread? <;> simp
  rw [hboth, hused, hreserved]
  exact ⟨fun h => ⟨h.1, h.2⟩, fun h => ⟨h.used, h.reserved⟩⟩

theorem reread?_eq_self (hused : rereadCost? b.used.cost = some b.used.cost)
    (hreserved : rereadCost? b.reserved.cost = some b.reserved.cost) : b.reread? = some b := by
  rw [reread?, Usage.reread?_eq_self hused, Usage.reread?_eq_self hreserved]
  rfl

end Bucket

theorem Bucket.valid_of_ofJson? {j : Json} {b : Bucket} (h : Bucket.ofJson? j = some b) :
    b.lastUpdate.IsValid := by
  unfold Bucket.ofJson? at h
  obtain ⟨fields, -, h⟩ := Option.bind_eq_some_iff.mp h
  split at h
  · simp only [Option.bind_eq_bind, Option.bind_eq_some_iff] at h
    obtain ⟨_, -, _, -, _, -, _, -, _, -, lastUpdate, htime, h⟩ := h
    obtain rfl := Option.some.inj h
    unfold required? at htime
    split at htime
    · obtain ⟨text, -, hread⟩ := Option.bind_eq_some_iff.mp htime
      exact Timestamp.isValid_of_read? hread
    · contradiction
  · contradiction

structure Cell.Reread (c c' : Cell) : Prop where
  bucket : c.bucket.map Bucket.reread? = c'.bucket.map some
  history : List.Forall₂ (fun b b' => b.reread? = some b') c.history c'.history

theorem isSome_bind_iff {α β : Type} {a : Option α} {f : α → Option β} {p : Prop}
    (h : ∀ x, (f x).isSome = true ↔ p) : (a.bind f).isSome = true ↔ a.isSome = true ∧ p := by
  cases a with
  | none => simp
  | some x => simpa using h x

theorem HourlyLog.returns {log : HourlyLog}
    (h : ∀ u ∈ log.values, Returns Usage.json Usage.ofJson? u u.reread?) :
    Returns HourlyLog.json HourlyLog.ofJson? log (log.traverse? Usage.reread?) := returns_map h

namespace LedgerState

def reread? (s : LedgerState) : Option LedgerState := do
  let sharedBuckets ← s.sharedBuckets.traverse? Bucket.reread?
  let sharedHistory ← s.sharedHistory.traverse? (fun bs => bs.mapM Bucket.reread?)
  let tenantBuckets ← s.tenantBuckets.traverse? (fun m => m.traverse? Bucket.reread?)
  let tenantHistory ← s.tenantHistory.traverse?
    (fun m => m.traverse? (fun bs => bs.mapM Bucket.reread?))
  let sharedHourly ← s.sharedHourly.traverse? (fun log => log.traverse? Usage.reread?)
  let tenantHourly ← s.tenantHourly.traverse?
    (fun m => m.traverse? (fun log => log.traverse? Usage.reread?))
  return { s with
    sharedBuckets, sharedHistory, tenantBuckets, tenantHistory, sharedHourly, tenantHourly }

structure Throughout (P : Bucket → Prop) (Q : Usage → Prop) (s : LedgerState) : Prop where
  sharedBuckets : ∀ b ∈ s.sharedBuckets.values, P b
  sharedHistory : ∀ bs ∈ s.sharedHistory.values, ∀ b ∈ bs, P b
  tenantBuckets : ∀ m ∈ s.tenantBuckets.values, ∀ b ∈ m.values, P b
  tenantHistory : ∀ m ∈ s.tenantHistory.values, ∀ bs ∈ m.values, ∀ b ∈ bs, P b
  sharedHourly : ∀ log ∈ s.sharedHourly.values, ∀ u ∈ log.values, Q u
  tenantHourly : ∀ m ∈ s.tenantHourly.values, ∀ log ∈ m.values, ∀ u ∈ log.values, Q u

section Throughout

variable {P : Bucket → Prop} {Q : Usage → Prop} {s : LedgerState}

theorem mem_buckets_cell {scope : Scope} {key : String} {b : Bucket} :
    b ∈ (s.cell scope key).buckets ↔
      (∃ bs, s.history? scope key = some bs ∧ b ∈ bs) ∨ s.bucket? scope key = some b := by
  unfold Cell.buckets cell
  rw [List.mem_append, history_eq]
  cases s.history? scope key <;> simp

theorem mem_hourly {scope : Scope} {key : String} {u : Usage} :
    u ∈ (s.hourly scope key).values ↔ ∃ log, s.hourly? scope key = some log ∧ u ∈ log.values := by
  unfold hourly
  cases s.hourly? scope key with
  | none =>
    simp only [Option.getD_none, reduceCtorEq, false_and, exists_false, iff_false]
    exact List.not_mem_nil
  | some log => simp

theorem every_iff : s.Every P Q ↔ s.Throughout P Q := by
  constructor
  · intro h
    have hbucket : ∀ scope key b, s.bucket? scope key = some b → P b :=
      fun _ _ _ hb => h.bucket _ _ _ (mem_buckets_cell.mpr (Or.inr hb))
    have hhistory : ∀ scope key bs, s.history? scope key = some bs → ∀ b ∈ bs, P b :=
      fun _ _ _ hbs b hb => h.bucket _ _ _ (mem_buckets_cell.mpr (Or.inl ⟨_, hbs, hb⟩))
    have hlogged : ∀ scope key log, s.hourly? scope key = some log → ∀ u ∈ log.values, Q u :=
      fun _ _ _ hlog u hu => h.logged _ _ _ (mem_hourly.mpr ⟨_, hlog, hu⟩)
    refine ⟨fun b hb => ?_, fun bs hbs => ?_, fun m hm b hb => ?_, fun m hm bs hbs => ?_,
      fun log hlog => ?_, fun m hm log hlog => ?_⟩
    · obtain ⟨key, hkey⟩ := SortedMap.mem_values.mp hb
      exact hbucket .shared key b hkey
    · obtain ⟨key, hkey⟩ := SortedMap.mem_values.mp hbs
      exact hhistory .shared key bs hkey
    · obtain ⟨t, ht⟩ := SortedMap.mem_values.mp hm
      obtain ⟨key, hkey⟩ := SortedMap.mem_values.mp hb
      exact hbucket (.tenant t) key b (by rw [bucket?, ht, Option.bind_some, hkey])
    · obtain ⟨t, ht⟩ := SortedMap.mem_values.mp hm
      obtain ⟨key, hkey⟩ := SortedMap.mem_values.mp hbs
      exact hhistory (.tenant t) key bs (by rw [history?, ht, Option.bind_some, hkey])
    · obtain ⟨key, hkey⟩ := SortedMap.mem_values.mp hlog
      exact hlogged .shared key log hkey
    · obtain ⟨t, ht⟩ := SortedMap.mem_values.mp hm
      obtain ⟨key, hkey⟩ := SortedMap.mem_values.mp hlog
      exact hlogged (.tenant t) key log (by rw [hourly?, ht, Option.bind_some, hkey])
  · intro h
    refine ⟨fun scope key b hb => ?_, fun scope key u hu => ?_⟩
    · rcases mem_buckets_cell.mp hb with ⟨bs, hbs, hmem⟩ | hlive
      · cases scope with
        | shared => exact h.sharedHistory bs (SortedMap.mem_values.mpr ⟨key, hbs⟩) b hmem
        | tenant t =>
          obtain ⟨m, hm, hbs⟩ := Option.bind_eq_some_iff.mp hbs
          exact h.tenantHistory m (SortedMap.mem_values.mpr ⟨t, hm⟩) bs
            (SortedMap.mem_values.mpr ⟨key, hbs⟩) b hmem
      · cases scope with
        | shared => exact h.sharedBuckets b (SortedMap.mem_values.mpr ⟨key, hlive⟩)
        | tenant t =>
          obtain ⟨m, hm, hlive⟩ := Option.bind_eq_some_iff.mp hlive
          exact h.tenantBuckets m (SortedMap.mem_values.mpr ⟨t, hm⟩) b
            (SortedMap.mem_values.mpr ⟨key, hlive⟩)
    · obtain ⟨log, hlog, hmem⟩ := mem_hourly.mp hu
      cases scope with
      | shared => exact h.sharedHourly log (SortedMap.mem_values.mpr ⟨key, hlog⟩) u hmem
      | tenant t =>
        obtain ⟨m, hm, hlog⟩ := Option.bind_eq_some_iff.mp hlog
        exact h.tenantHourly m (SortedMap.mem_values.mpr ⟨t, hm⟩) log
          (SortedMap.mem_values.mpr ⟨key, hlog⟩) u hmem

instance [DecidablePred P] [DecidablePred Q] : Decidable (s.Every P Q) :=
  decidable_of_iff ((∀ b ∈ s.sharedBuckets.values, P b) ∧
      (∀ bs ∈ s.sharedHistory.values, ∀ b ∈ bs, P b) ∧
      (∀ m ∈ s.tenantBuckets.values, ∀ b ∈ m.values, P b) ∧
      (∀ m ∈ s.tenantHistory.values, ∀ bs ∈ m.values, ∀ b ∈ bs, P b) ∧
      (∀ log ∈ s.sharedHourly.values, ∀ u ∈ log.values, Q u) ∧
      ∀ m ∈ s.tenantHourly.values, ∀ log ∈ m.values, ∀ u ∈ log.values, Q u)
    (every_iff.trans ⟨fun ⟨h1, h2, h3, h4, h5, h6⟩ => ⟨h1, h2, h3, h4, h5, h6⟩,
      fun ⟨h1, h2, h3, h4, h5, h6⟩ => ⟨h1, h2, h3, h4, h5, h6⟩⟩).symm

end Throughout

variable {s : LedgerState}

theorem returns (h : s.Every Bucket.Legible (fun u => ReadsAgain u.cost)) :
    Returns LedgerState.json LedgerState.ofJson? s s.reread? := by
  obtain ⟨h1, h2, h3, h4, h5, h6⟩ := every_iff.mp h
  have hshared := returns_map (fun b hb => Bucket.returns (h1 b hb))
  have hsharedHistory := returns_map
    (fun bs hbs => returns_list (fun b hb => Bucket.returns (h2 bs hbs b hb)))
  have htenant := returns_map
    (fun m hm => returns_map (fun b hb => Bucket.returns (h3 m hm b hb)))
  have htenantHistory := returns_map (fun m hm => returns_map
    (fun bs hbs => returns_list (fun b hb => Bucket.returns (h4 m hm bs hbs b hb))))
  have hhourly := returns_map
    (fun log hlog => HourlyLog.returns (fun u hu => Usage.returns (h5 log hlog u hu)))
  have htenantHourly := returns_map (fun m hm => returns_map
    (fun log hlog => HourlyLog.returns (fun u hu => Usage.returns (h6 m hm log hlog u hu))))
  have hset := returns_set s.exempt
  have hrecord := record?_reread ["globalBuckets", "globalHistory", "userBuckets", "userHistory",
      "globalHourly", "userHourly", "unlimitedMode", "unlimitedUsers"]
    [("globalBuckets", Json.ofMap Bucket.json s.sharedBuckets),
      ("globalHistory", Json.ofMap (fun bs => .arr (bs.map Bucket.json)) s.sharedHistory),
      ("userBuckets", Json.ofMap (Json.ofMap Bucket.json) s.tenantBuckets),
      ("userHistory",
        Json.ofMap (Json.ofMap (fun bs => .arr (bs.map Bucket.json))) s.tenantHistory),
      ("globalHourly", Json.ofMap HourlyLog.json s.sharedHourly),
      ("userHourly", Json.ofMap (Json.ofMap HourlyLog.json) s.tenantHourly),
      ("unlimitedMode", .bool s.unlimited), ("unlimitedUsers", Json.ofSet s.exempt)] rfl (by decide)
  refine ⟨?_, ?_⟩
  · simp only [LedgerState.json, Readable, ReadableMembers]
    exact ⟨hshared.readable, hsharedHistory.readable, htenant.readable, htenantHistory.readable,
      hhourly.readable, htenantHourly.readable, trivial, hset.readable, trivial⟩
  · simp only [ofJson?, LedgerState.json, hrecord, List.map_cons, List.map_nil, defaulted?,
      Option.bind_eq_bind, Option.bind_some, reread?]
    simp only [hshared.reread, hsharedHistory.reread, htenant.reread, htenantHistory.reread,
      hhourly.reread, htenantHourly.reread, (returns_bool _).reread, hset.reread, Option.bind_some]

theorem ofDocument?_documentText (h : s.Every Bucket.Legible (fun u => ReadsAgain u.cost)) :
    ofDocument? s.documentText = s.reread? := by
  have hread := returns h
  rw [ofDocument?, documentText, read?_pretty hread.readable, Option.bind_some, hread.reread]

theorem isSome_reread?_iff : s.reread?.isSome = true ↔
    s.Every (fun b => b.reread?.isSome = true) (fun u => u.reread?.isSome = true) := by
  have hall : s.reread?.isSome = true ↔ _ := isSome_bind_iff (fun _ => isSome_bind_iff (fun _ =>
    isSome_bind_iff (fun _ => isSome_bind_iff (fun _ => isSome_bind_iff (fun _ =>
      isSome_bind_iff (fun _ => iff_of_true rfl trivial))))))
  simp only [SortedMap.isSome_traverse?, isSome_mapM] at hall
  rw [hall, every_iff]
  constructor
  · rintro ⟨h1, h2, h3, h4, h5, h6, -⟩
    exact ⟨h1, h2, h3, h4, h5, h6⟩
  · rintro ⟨h1, h2, h3, h4, h5, h6⟩
    exact ⟨h1, h2, h3, h4, h5, h6, trivial⟩

theorem isSome_reread? (h : s.Every Bucket.Legible (fun u => ReadsAgain u.cost)) :
    s.reread?.isSome = true ↔ s.Every Bucket.Finite (fun u => u.cost.isFinite = true) := by
  rw [isSome_reread?_iff]
  constructor
  · intro hread
    exact ⟨fun scope key b hb => (Bucket.isSome_reread? (h.bucket scope key b hb)).mp
        (hread.bucket scope key b hb),
      fun scope key u hu => (Usage.isSome_reread? (h.logged scope key u hu)).mp
        (hread.logged scope key u hu)⟩
  · intro hfinite
    exact ⟨fun scope key b hb => (Bucket.isSome_reread? (h.bucket scope key b hb)).mpr
        (hfinite.bucket scope key b hb),
      fun scope key u hu => (Usage.isSome_reread? (h.logged scope key u hu)).mpr
        (hfinite.logged scope key u hu)⟩

theorem reread?_eq_self (h : s.Every
    (fun b => rereadCost? b.used.cost = some b.used.cost ∧
      rereadCost? b.reserved.cost = some b.reserved.cost)
    (fun u => rereadCost? u.cost = some u.cost)) : s.reread? = some s := by
  have hsame : s.Every (fun b => b.reread? = some b) (fun u => u.reread? = some u) :=
    ⟨fun scope key b hb => Bucket.reread?_eq_self (h.bucket scope key b hb).1
        (h.bucket scope key b hb).2,
      fun scope key u hu => Usage.reread?_eq_self (h.logged scope key u hu)⟩
  have hmany : ∀ bs : List Bucket, (∀ b ∈ bs, b.reread? = some b) →
      bs.mapM Bucket.reread? = some bs := by
    intro bs hbs
    exact (mapM_congr hbs).trans ((mapM_some id bs).trans (congrArg some bs.map_id))
  obtain ⟨h1, h2, h3, h4, h5, h6⟩ := every_iff.mp hsame
  rw [reread?, SortedMap.traverse?_eq_self h1,
    SortedMap.traverse?_eq_self (fun bs hbs => hmany bs (h2 bs hbs)),
    SortedMap.traverse?_eq_self (fun m hm => SortedMap.traverse?_eq_self (h3 m hm)),
    SortedMap.traverse?_eq_self (fun m hm =>
      SortedMap.traverse?_eq_self (fun bs hbs => hmany bs (h4 m hm bs hbs))),
    SortedMap.traverse?_eq_self (fun log hlog => SortedMap.traverse?_eq_self (h5 log hlog)),
    SortedMap.traverse?_eq_self (fun m hm =>
      SortedMap.traverse?_eq_self (fun log hlog => SortedMap.traverse?_eq_self (h6 m hm log hlog)))]
  rfl

section Cells

variable {s' : LedgerState}

theorem bucket?_of_reread? (h : s.reread? = some s') (scope : Scope) (key : String) :
    (s.bucket? scope key).map Bucket.reread? = (s'.bucket? scope key).map some := by
  unfold reread? at h
  simp only [Option.bind_eq_bind, Option.bind_eq_some_iff] at h
  obtain ⟨_, hshared, _, -, _, htenant, _, -, _, -, _, -, h⟩ := h
  obtain rfl := Option.some.inj h
  cases scope with
  | shared => exact SortedMap.get?_of_traverse? hshared key
  | tenant t => exact SortedMap.bind_get?_of_traverse? htenant t key

theorem history?_of_reread? (h : s.reread? = some s') (scope : Scope) (key : String) :
    (s.history? scope key).map (fun bs => bs.mapM Bucket.reread?) =
      (s'.history? scope key).map some := by
  unfold reread? at h
  simp only [Option.bind_eq_bind, Option.bind_eq_some_iff] at h
  obtain ⟨_, -, _, hshared, _, -, _, htenant, _, -, _, -, h⟩ := h
  obtain rfl := Option.some.inj h
  cases scope with
  | shared => exact SortedMap.get?_of_traverse? hshared key
  | tenant t => exact SortedMap.bind_get?_of_traverse? htenant t key

theorem reread_cell (h : s.reread? = some s') (scope : Scope) (key : String) :
    (s.cell scope key).Reread (s'.cell scope key) := by
  refine ⟨bucket?_of_reread? h scope key, ?_⟩
  have hhistory := history?_of_reread? h scope key
  change List.Forall₂ _ (s.history scope key) (s'.history scope key)
  rw [history_eq, history_eq]
  cases hs : s.history? scope key with
  | none =>
    rw [hs, Option.map_none, eq_comm, Option.map_eq_none_iff] at hhistory
    rw [hhistory]
    exact .nil
  | some bs =>
    rw [hs, Option.map_some] at hhistory
    obtain ⟨bs', hs', hbs⟩ := Option.map_eq_some_iff.mp hhistory.symm
    rw [hs']
    exact forall₂_of_mapM hbs.symm

end Cells

theorem timed_of_ofDocument? {text : String} (h : ofDocument? text = some s) :
    s.Every (fun b => b.lastUpdate.IsValid) (fun _ => True) := by
  obtain ⟨j, -, hj⟩ := Option.bind_eq_some_iff.mp h
  unfold ofJson? at hj
  obtain ⟨fields, -, hj⟩ := Option.bind_eq_some_iff.mp hj
  split at hj
  · simp only [Option.bind_eq_bind, Option.bind_eq_some_iff] at hj
    obtain ⟨sharedBuckets, h1, sharedHistory, h2, tenantBuckets, h3, tenantHistory, h4, _, -, _, -,
      _, -, _, -, hj⟩ := hj
    obtain rfl := Option.some.inj hj
    have hone := fun j b => Bucket.valid_of_ofJson? (j := j) (b := b)
    have hlist : ∀ j bs, asList? Bucket.ofJson? j = some bs → ∀ b ∈ bs, b.lastUpdate.IsValid := by
      intro j bs hbs b hb
      obtain ⟨j', hj'⟩ := exists_of_asList? hbs b hb
      exact hone j' b hj'
    refine ⟨fun scope key b hb => ?_, fun _ _ _ _ => trivial⟩
    rcases mem_buckets_cell.mp hb with ⟨bs, hbs, hmem⟩ | hlive
    · cases scope with
      | shared => exact of_defaulted_asMap? hlist h2 key bs hbs b hmem
      | tenant t =>
        obtain ⟨m, hm, hbs⟩ := Option.bind_eq_some_iff.mp hbs
        have htenant := of_defaulted_asMap? (fun _ _ hm => of_asMap? hlist hm) h4 t m hm
        exact htenant key bs hbs b hmem
    · cases scope with
      | shared => exact of_defaulted_asMap? hone h1 key b hlive
      | tenant t =>
        obtain ⟨m, hm, hlive⟩ := Option.bind_eq_some_iff.mp hlive
        exact of_defaulted_asMap? (fun _ _ hm => of_asMap? hone hm) h3 t m hm key b hlive
  · contradiction

end LedgerState

end LaneQuota
