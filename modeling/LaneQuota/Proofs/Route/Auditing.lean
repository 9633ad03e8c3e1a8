import LaneQuota.Route.Audit
import Mathlib.Tactic.SplitIfs

namespace LaneQuota

structure AuditCall where
  time : Instant
  workItem : String
  route : Route
  lane : Option String
deriving DecidableEq

namespace AuditLog

def notes (l : AuditLog) : List AuditCall → List AuditRecord × AuditLog
  | [] => ([], l)
  | c :: rest =>
    let noted := l.note c.time c.workItem c.route c.lane
    let later := noted.2.notes rest
    (noted.1 :: later.1, later.2)

structure Window (l : AuditLog) (made : List AuditRecord) : Prop where
  room : 0 < l.capacity
  records : l.records = made.drop (made.length - l.capacity)

theorem window_ofCapacity (capacity : Nat) (path : Option String) :
    (ofCapacity capacity path).Window [] :=
  ⟨Nat.le_max_right capacity 1, List.drop_nil.symm⟩

namespace Window

variable {l : AuditLog} {made : List AuditRecord}

theorem length_records (h : l.Window made) : l.records.length = min made.length l.capacity := by
  rw [h.records, List.length_drop]
  omega

theorem record (h : l.Window made) (r : AuditRecord) : (l.record r).Window (made ++ [r]) := by
  refine ⟨h.room, ?_⟩
  have hroom := h.room
  have hlength := h.length_records
  have hfits : made.length + 1 - l.capacity ≤ made.length := by omega
  change (if l.capacity ≤ l.records.length then l.records.drop 1 else l.records) ++ [r] =
    (made ++ [r]).drop ((made ++ [r]).length - l.capacity)
  rw [List.length_append, List.length_singleton, List.drop_append_of_le_length hfits]
  congr 1
  -- The oldest record goes only if the window was full, and then the window moves on by one.
  split_ifs with hfull
  · rw [h.records, List.drop_drop]
    congr 1
    omega
  · rw [h.records]
    congr 1
    omega

theorem notes (h : l.Window made) (calls : List AuditCall) :
    (l.notes calls).2.Window (made ++ (l.notes calls).1) := by
  induction calls generalizing l made with
  | nil => simpa [AuditLog.notes] using h
  | cons c calls ih =>
    have hlater := ih (h.record ⟨c.workItem, c.time, c.route, c.lane⟩)
    rw [List.append_assoc] at hlater
    exact hlater

theorem recent_eq (h : l.Window made) (limit : Nat) :
    l.recent limit = made.reverse.take (min limit (min made.length l.capacity)) := by
  rw [recent, h.records, List.reverse_drop, List.take_take]
  congr 1
  omega

theorem records_split (h : l.Window made) {earlier later : List AuditRecord} {r : AuditRecord}
    (hmade : made = earlier ++ r :: later) (hroom : later.length < l.capacity) :
    l.records = earlier.drop (made.length - l.capacity) ++ r :: later := by
  subst hmade
  have hfits : (earlier ++ r :: later).length - l.capacity ≤ earlier.length := by
    rw [List.length_append, List.length_cons]
    omega
  rw [h.records, List.drop_append_of_le_length hfits]

theorem made_split (h : l.Window made) {older newer : List AuditRecord} {r : AuditRecord}
    (hrecords : l.records = older ++ r :: newer) :
    made = (made.take (made.length - l.capacity) ++ older) ++ r :: newer ∧
      newer.length < l.capacity := by
  have hlength := h.length_records
  rw [hrecords, List.length_append, List.length_cons] at hlength
  refine ⟨?_, by omega⟩
  rw [List.append_assoc, ← hrecords, h.records, List.take_append_drop]

theorem get?_eq_some_iff (h : l.Window made) {workItem : String} {r : AuditRecord} :
    l.get? workItem = some r ↔ r.workItem = workItem ∧
      ∃ earlier later, made = earlier ++ r :: later ∧ later.length < l.capacity ∧
        ∀ r' ∈ later, r'.workItem ≠ workItem := by
  rw [get?, List.find?_eq_some_iff_append, decide_eq_true_eq]
  refine and_congr_right fun _ => ⟨?_, ?_⟩
  · rintro ⟨newer, older, hsplit, hnewer⟩
    have hrecords : l.records = older.reverse ++ r :: newer.reverse := by
      simpa using congrArg List.reverse hsplit
    obtain ⟨hmade, hroom⟩ := h.made_split hrecords
    exact ⟨_, _, hmade, hroom, by simpa using hnewer⟩
  · rintro ⟨earlier, later, hmade, hroom, hlater⟩
    have hrecords := congrArg List.reverse (h.records_split hmade hroom)
    rw [List.reverse_append, List.reverse_cons, List.append_assoc,
      List.singleton_append] at hrecords
    exact ⟨_, _, hrecords, by simpa using hlater⟩

theorem get?_eq_none_iff (h : l.Window made) {workItem : String} :
    l.get? workItem = none ↔ ∀ earlier r later, made = earlier ++ r :: later →
      r.workItem = workItem → l.capacity ≤ later.length := by
  simp only [get?, List.find?_eq_none, List.mem_reverse, decide_eq_true_eq]
  constructor
  · intro hnone earlier r later hmade hitem
    refine Nat.le_of_not_lt fun hroom => hnone r ?_ hitem
    rw [h.records_split hmade hroom]
    exact List.mem_append_right _ List.mem_cons_self
  · intro hpast r hr hitem
    obtain ⟨older, newer, hrecords⟩ := List.append_of_mem hr
    obtain ⟨hmade, hroom⟩ := h.made_split hrecords
    exact Nat.not_le_of_lt hroom (hpast _ r newer hmade hitem)

end Window

variable (l : AuditLog) (calls : List AuditCall)

theorem capacity_notes : (l.notes calls).2.capacity = l.capacity := by
  induction calls generalizing l with
  | nil => rfl
  | cons c calls ih => exact ih _

theorem map_notes :
    (l.notes calls).1.map (fun r => AuditCall.mk r.time r.workItem r.route r.lane) = calls := by
  induction calls generalizing l with
  | nil => rfl
  | cons c calls ih => exact congrArg (c :: ·) (ih _)

end AuditLog

/-- Routes are noted as they are, each in a record of its own. A log holds the last of these records,
the oldest first, as many as it has room for; a log without room has room for one. It shows the
newest first, and for a work item its latest record, as long as that is held. -/
theorem audit_is_window (capacity : Nat) (path : Option String) (calls : List AuditCall) :
    let run := (AuditLog.ofCapacity capacity path).notes calls
    let made := run.1
    let l := run.2
    let n := calls.length
    let c := max capacity 1
    made.map (fun r => AuditCall.mk r.time r.workItem r.route r.lane) = calls ∧
      l.records = made.drop (n - c) ∧ l.records.length = min n c ∧
      (∀ limit, l.recent limit = made.reverse.take (min limit (min n c)) ∧
        (l.recent limit).length = min limit (min n c)) ∧
      ∀ workItem,
        (∀ r, l.get? workItem = some r ↔ r.workItem = workItem ∧
          ∃ earlier later, made = earlier ++ r :: later ∧ later.length < c ∧
            ∀ r' ∈ later, r'.workItem ≠ workItem) ∧
        (l.get? workItem = none ↔ ∀ earlier r later, made = earlier ++ r :: later →
          r.workItem = workItem → c ≤ later.length) := by
  intro run made l n c
  have hmap : made.map (fun r => AuditCall.mk r.time r.workItem r.route r.lane) = calls :=
    AuditLog.map_notes _ calls
  have hcapacity : l.capacity = c := AuditLog.capacity_notes _ calls
  have hlength : made.length = n := by rw [← List.length_map, hmap]
  have hwindow : l.Window made := (AuditLog.window_ofCapacity capacity path).notes calls
  have hrecent : ∀ limit, l.recent limit = made.reverse.take (min limit (min n c)) := by
    intro limit
    rw [hwindow.recent_eq, hlength, hcapacity]
  refine ⟨hmap, ?_, ?_, fun limit => ⟨hrecent limit, ?_⟩, fun workItem => ⟨fun r => ?_, ?_⟩⟩
  · rw [hwindow.records, hlength, hcapacity]
  · rw [hwindow.length_records, hlength, hcapacity]
  · rw [hrecent, List.length_take, List.length_reverse, hlength]
    omega
  · rw [hwindow.get?_eq_some_iff, hcapacity]
  · rw [hwindow.get?_eq_none_iff, hcapacity]

end LaneQuota
