import LaneQuota.Calendar.ZoneTable
import LaneQuota.Proofs.Calendar.Days
import LaneQuota.Proofs.Ledger.Steps

namespace LaneQuota

abbrev Schedule := List (Instant × Operation)

def Schedule.Ascending (zone : Zone) (ops : Schedule) : Prop :=
  (ops.map (fun x => zone.dayNumber x.1)).Pairwise (· ≤ ·)

instance (zone : Zone) (ops : Schedule) : Decidable (ops.Ascending zone) :=
  inferInstanceAs (Decidable (List.Pairwise _ _))

theorem Schedule.Ascending.of_cons {zone : Zone} {now : Instant} {op : Operation} {ops : Schedule}
    (h : Schedule.Ascending zone ((now, op) :: ops)) :
    (∀ x ∈ ops, zone.dayNumber now ≤ zone.dayNumber x.1) ∧ ops.Ascending zone := by
  obtain ⟨hle, hasc⟩ := List.pairwise_cons.mp h
  exact ⟨fun x hx => hle _ (List.mem_map_of_mem hx), hasc⟩

theorem Schedule.Ascending.exists_le {zone : Zone} {ops : Schedule} (h : ops.Ascending zone) :
    ∃ n, ∀ x ∈ ops, n ≤ zone.dayNumber x.1 := by
  cases ops with
  | nil => exact ⟨0, by simp⟩
  | cons x rest =>
    refine ⟨zone.dayNumber x.1, fun y hy => ?_⟩
    rcases List.mem_cons.mp hy with rfl | hy
    · exact le_rfl
    · exact h.of_cons.1 y hy

namespace Ledger

def start (p : LedgerPolicy) : Ledger := ofState p LedgerState.empty

def after (l : Ledger) (ops : Schedule) : Ledger := (l.run ops).1

theorem after_cons (l : Ledger) (now : Instant) (op : Operation) (rest : Schedule) :
    l.after ((now, op) :: rest) = (l.step now op).ledger.after rest := rfl

theorem after_append (l : Ledger) (ops ops' : Schedule) :
    l.after (ops ++ ops') = (l.after ops).after ops' := by
  induction ops generalizing l with
  | nil => rfl
  | cons x rest ih => rw [List.cons_append, after_cons, ih, after_cons]

theorem after_concat (l : Ledger) (ops : Schedule) (x : Instant × Operation) :
    l.after (ops ++ [x]) = ((l.after ops).step x.1 x.2).ledger := l.after_append ops [x]

theorem policy_after (l : Ledger) (ops : Schedule) : (l.after ops).policy = l.policy := by
  induction ops generalizing l with
  | nil => rfl
  | cons x rest ih => rw [after_cons, ih, (l.effect_step x.1 x.2).policy]

def admission (l : Ledger) (now : Instant) : Operation → Option (Instant × Request)
  | .canCall r => if (l.canCall now r).answer.allowed then some (now, r) else none
  | _ => none

end Ledger

/-- What callers may do: the ledger, the call just let in, the time and the operation. -/
def Rule := Ledger → Option (Instant × Request) → Instant → Operation → Prop

def Rule.Holds (rule : Rule) : Ledger → Option (Instant × Request) → Schedule → Prop
  | _, _, [] => True
  | l, last, (now, op) :: rest =>
    rule l last now op ∧ rule.Holds (l.step now op).ledger (l.admission now op) rest

namespace Rule

def Preserves (rule : Rule) (zone : Zone)
    (inv : Ledger → Option (Instant × Request) → ℤ → Prop) : Prop :=
  ∀ l last n now op, inv l last n → n ≤ zone.dayNumber now → rule l last now op →
    inv (l.step now op).ledger (l.admission now op) (zone.dayNumber now)

variable {rule : Rule} {zone : Zone} {inv : Ledger → Option (Instant × Request) → ℤ → Prop}
  {ops : Schedule} {l : Ledger} {last : Option (Instant × Request)} {n : ℤ}

theorem Preserves.after (hp : rule.Preserves zone inv) (h : inv l last n)
    (hn : ∀ x ∈ ops, n ≤ zone.dayNumber x.1) (hasc : ops.Ascending zone)
    (hrule : rule.Holds l last ops) : ∃ last' n', inv (l.after ops) last' n' := by
  induction ops generalizing l last n with
  | nil => exact ⟨last, n, h⟩
  | cons x rest ih =>
    obtain ⟨now, op⟩ := x
    obtain ⟨hop, hrest⟩ := hrule
    obtain ⟨hle, hasc'⟩ := hasc.of_cons
    have hstep := hp l last n now op h (hn _ List.mem_cons_self) hop
    rw [Ledger.after_cons]
    exact ih hstep hle hasc' hrest

theorem Preserves.afterStart (hp : rule.Preserves zone inv) {p : LedgerPolicy}
    (h : ∀ n, inv (Ledger.start p) none n) (hasc : ops.Ascending zone)
    (hrule : rule.Holds (Ledger.start p) none ops) :
    ∃ last' n', inv ((Ledger.start p).after ops) last' n' := by
  obtain ⟨n, hn⟩ := hasc.exists_le
  exact hp.after (h n) hn hasc hrule

end Rule

def sampleLane : LaneKey := ⟨"burn", "anthropic"⟩

def samplePolicy (limits : Limits) : LedgerPolicy :=
  .ofSettings ZoneTable.named .standard ⟨[⟨sampleLane, limits⟩]⟩

def noon (day : ℕ) : Instant := ⟨day * 86400 + 43200, 0⟩

end LaneQuota
