import LaneQuota.Proofs.Ledger.Separation
import LaneQuota.Settings.Issue

/-!
# The lanes of the settings

Settings name lanes in their limits, and assign lanes to routes, to the fallback and to the usage
report. Checking the settings looks at the names in the limits only. So the lanes that pass it are
counted apart exactly if those that are assigned have names as the limits have to.
-/

namespace LaneQuota

namespace Settings

def limitedLanes (s : Settings) : List LaneKey := s.limits.map LaneLimit.key

def assignedLanes (s : Settings) : List LaneKey :=
  [s.routing.instant, s.routing.task, s.routing.agentLoop, s.ledger.fallbackKey, s.sync.key]

def lanes (s : Settings) : List LaneKey := s.limitedLanes ++ s.assignedLanes

end Settings

section Issues

variable {e : LaneLimit} {es : List LaneLimit} {i : Issue}

theorem issues_subset_limitIssues (he : e ∈ es) (first : ℕ) :
    ∃ index, ∀ i ∈ e.issues index, i ∈ limitIssues first es := by
  induction es generalizing first with
  | nil => contradiction
  | cons e' rest ih =>
    rcases List.mem_cons.mp he with rfl | he
    · exact ⟨first, fun i hi => List.mem_append_left _ hi⟩
    · obtain ⟨index, hindex⟩ := ih he (first + 1)
      exact ⟨index, fun i hi => List.mem_append_right _ (hindex i hi)⟩

theorem LaneLimit.wellFormed_key (index : ℕ) (h : ∀ i ∈ e.issues index, i.severity ≠ .error) :
    e.key.WellFormed := by
  refine ⟨fun hlane => ?_, fun hcolon => ?_, fun hprovider => ?_⟩
  · exact h (.emptyName index) (by simp [LaneLimit.issues, Issue.when, hlane]) rfl
  · exact h (.colonInLane index) (by simp [LaneLimit.issues, Issue.when, hcolon]) rfl
  · exact h (.emptyName index) (by simp [LaneLimit.issues, Issue.when, hprovider]) rfl

theorem Settings.wellFormed_limited {s : Settings} {known : KnownZones} {env : Environment}
    (h : ∀ i ∈ s.issues known env, i.severity ≠ .error) : ∀ k ∈ s.limitedLanes, k.WellFormed := by
  intro k hk
  obtain ⟨e, he, rfl⟩ := List.mem_map.mp hk
  obtain ⟨index, hindex⟩ := issues_subset_limitIssues he 0
  refine LaneLimit.wellFormed_key index (fun i hi => h i ?_)
  simp only [Settings.issues, List.mem_append]
  exact Or.inl (Or.inl (Or.inl (Or.inr (hindex i hi))))

end Issues

namespace Settings

structure SeparatesLanes (s : Settings) : Prop where
  reads : ∀ k ∈ s.lanes, LaneKey.read? k.text = some k
  texts : ∀ k ∈ s.lanes, ∀ k' ∈ s.lanes, k ≠ k' → k.text ≠ k'.text
  decisions : ∀ k ∈ s.lanes, ∀ k' ∈ s.lanes, k ≠ k' →
    ∀ (owners : String → LaneKey) (l : Ledger) (now later : Instant) (op : Operation)
      (tenant : Option String) (estimate : Usage),
      l.Matches owners → op.Matches owners → op.target? owners = some k' →
        ((l.step now op).ledger.canCall later ⟨k, tenant, estimate⟩).answer =
          (l.canCall later ⟨k, tenant, estimate⟩).answer

variable {s : Settings}

theorem separatesLanes_of_wellFormed (h : ∀ k ∈ s.lanes, k.WellFormed) : s.SeparatesLanes where
  reads k hk := (h k hk).read?_text
  texts k hk k' hk' hne htext :=
    hne (LaneKey.text_injective (h k hk).plain (h k' hk').plain htext)
  decisions k hk k' hk' hne owners l now later op _ _ hl hop htarget :=
    have hagree : l.Agree owners k (l.step now op).ledger :=
      Ledger.agree_step_other (h k hk).plain (h k' hk').plain hne.symm htarget hop hl
    (hagree.canCall later rfl).answer.symm

theorem extends_assigned {k k' : LaneKey} (hlimited : ∀ k ∈ s.limitedLanes, k.WellFormed)
    (hk : k ∈ s.lanes) (h : k.Extends k') : k ∈ s.assignedLanes := by
  rcases List.mem_append.mp hk with hk | hk
  · exact absurd (hlimited k hk).plain h.not_plain
  · exact hk

/-- Where checking the settings finds no error, their lanes are counted apart exactly if those that
are assigned are named as the limits have to be. Two lanes share a bucket exactly if one of them is
assigned and takes in a part of the provider of the other. -/
theorem separatesLanes_iff (s : Settings) (known : KnownZones) (env : Environment)
    (hissues : ∀ i ∈ s.issues known env, i.severity ≠ .error) :
    (s.SeparatesLanes ↔ ∀ k ∈ s.assignedLanes, k.WellFormed) ∧
      ∀ k ∈ s.lanes, ∀ k' ∈ s.lanes, k ≠ k' → (k.text = k'.text ↔
        k ∈ s.assignedLanes ∧ k.Extends k' ∨ k' ∈ s.assignedLanes ∧ k'.Extends k) := by
  have hlimited := wellFormed_limited hissues
  refine ⟨⟨fun h k hk => ?_, fun h => ?_⟩, fun k hk k' hk' hne => ?_⟩
  · exact LaneKey.read?_text_iff.mp (h.reads k (List.mem_append_right _ hk))
  · exact separatesLanes_of_wellFormed (fun k hk => (List.mem_append.mp hk).elim (hlimited k) (h k))
  · rw [LaneKey.text_eq_iff]
    constructor
    · rintro (heq | h | h)
      · exact absurd heq hne
      · exact Or.inl ⟨extends_assigned hlimited hk h, h⟩
      · exact Or.inr ⟨extends_assigned hlimited hk' h, h⟩
    · exact fun h => Or.inr (h.imp And.right And.right)

def nestedLane : LaneKey := ⟨"burn", "eu:anthropic"⟩

def nestedSettings : Settings :=
  { Settings.standard with
    limits := [⟨nestedLane, some 1000, none, true⟩]
    routing := { RoutingSettings.standard with agentLoop := nestedLane, task := sampleLane } }

theorem separatesLanes_nested :
    (∀ i ∈ nestedSettings.issues ZoneTable.named ∅, i.severity ≠ .error) ∧
      nestedLane ∈ nestedSettings.lanes ∧ sampleLane ∈ nestedSettings.lanes ∧
      nestedSettings.SeparatesLanes := by
  have hissues : ∀ i ∈ nestedSettings.issues ZoneTable.named ∅, i.severity ≠ .error := by
    decide +kernel
  exact ⟨hissues, by decide, by decide,
    (separatesLanes_iff nestedSettings ZoneTable.named ∅ hissues).1.mpr (by decide +kernel)⟩

def splitLane : LaneKey := ⟨"burn:eu", "anthropic"⟩

def overlappingSettings : Settings :=
  { Settings.standard with
    limits := [⟨nestedLane, some 1000, none, true⟩]
    routing := { RoutingSettings.standard with task := splitLane } }

/-- Checking finds nothing, but what is spent on the lane for tasks closes the limited lane, and the
lane for tasks stays open when the limited lane has nothing left. -/
theorem lanes_share_overlapping :
    let l := Ledger.start
      (.ofSettings ZoneTable.named overlappingSettings.ledger overlappingSettings.limitsTable)
    let allows (l : Ledger) (lane : LaneKey) : Bool :=
      (l.canCall (noon 1) ⟨lane, none, .ofTokens 5 0⟩).answer.allowed
    let spent (lane : LaneKey) : Ledger :=
      (l.commit (noon 1) "a" lane none (.ofTokens 1000 0)).ledger
    overlappingSettings.issues ZoneTable.named ∅ = [] ∧
      (nestedLane ∈ overlappingSettings.lanes ∧ splitLane ∈ overlappingSettings.lanes) ∧
      (nestedLane ≠ splitLane ∧ nestedLane.text = splitLane.text) ∧
      LaneKey.read? splitLane.text = some nestedLane ∧
      (allows l nestedLane = true ∧ allows (spent splitLane) nestedLane = false) ∧
      (allows (spent nestedLane) nestedLane = false ∧
        allows (spent nestedLane) splitLane = true) := by
  decide +kernel

end Settings

end LaneQuota
