import LaneQuota.Proofs.Json.Numbers
import LaneQuota.Proofs.Json.Texts

namespace LaneQuota

namespace Json

open JsonNumber

def rereadFloat? (x : Float) : Option Float :=
  match spelling? (floatText .json x).toList with
  | some (s, []) =>
    match s.value with
    | .float y => some y
    | _ => none
  | _ => none

theorem exists_spelling_of_rereadFloat? {x y : Float} (h : rereadFloat? x = some y) :
    ∃ s, spelling? (floatText .json x).toList = some (s, []) ∧ s.value = .float y := by
  unfold rereadFloat? at h
  split at h
  · next s heq =>
    refine ⟨s, heq, ?_⟩
    split at h
    · next z hz => rw [hz, Option.some.inj h]
    · contradiction
  · contradiction

mutual

/-- Whole numbers have no sign and fit 64 bits, and the texts of doubles are read as doubles. -/
def Readable : Json → Prop
  | .int n => 0 ≤ n ∧ n ≤ Word.maxUnsigned64
  | .float x => (rereadFloat? x).isSome
  | .arr items => ReadableItems items
  | .obj members => ReadableMembers members
  | .unreadable => False
  | _ => True

def ReadableItems : List Json → Prop
  | [] => True
  | j :: rest => j.Readable ∧ ReadableItems rest

def ReadableMembers : List (String × Json) → Prop
  | [] => True
  | (_, j) :: rest => j.Readable ∧ ReadableMembers rest

end

mutual

def reread : Json → Json
  | .float x => .float ((rereadFloat? x).getD x)
  | .arr items => .arr (rereadItems items)
  | .obj members => .obj (rereadMembers members)
  | j => j

def rereadItems : List Json → List Json
  | [] => []
  | j :: rest => j.reread :: rereadItems rest

def rereadMembers : List (String × Json) → List (String × Json)
  | [] => []
  | (k, j) :: rest => (k, j.reread) :: rereadMembers rest

end

theorem rereadItems_eq (items : List Json) : rereadItems items = items.map reread := by
  induction items with
  | nil => rfl
  | cons j rest ih => rw [rereadItems, ih, List.map_cons]

theorem rereadMembers_eq (members : List (String × Json)) :
    rereadMembers members = members.map (fun m => (m.1, m.2.reread)) := by
  induction members with
  | nil => rfl
  | cons m rest ih => rw [rereadMembers, ih, List.map_cons]

theorem readableItems_iff (items : List Json) :
    ReadableItems items ↔ ∀ j ∈ items, j.Readable := by
  induction items with
  | nil => simp [ReadableItems]
  | cons j rest ih => simp [ReadableItems, ih]

theorem readableMembers_iff (members : List (String × Json)) :
    ReadableMembers members ↔ ∀ m ∈ members, m.2.Readable := by
  induction members with
  | nil => simp [ReadableMembers]
  | cons m rest ih => simp [ReadableMembers, ih]

/-! ## Blanks -/

section Blanks

variable {c : Char} {ws cs rest : List Char} {fuel : ℕ}

theorem skipSpace_append (h : ∀ c ∈ ws, isSpace c = true) (cs : List Char) :
    skipSpace (ws ++ cs) = skipSpace cs := List.dropWhile_append_of_pos h

theorem skipSpace_cons (h : isSpace c = false) (cs : List Char) :
    skipSpace (c :: cs) = c :: cs := List.dropWhile_cons_of_neg (by simpa using h)

theorem isSpace_newline (level : ℕ) : ∀ c ∈ (newline level).toList, isSpace c = true := by
  have hline : "\n".toList = ['\n'] := rfl
  intro c hc
  simp only [newline, String.toList_append, hline, String.toList_ofList, List.mem_append,
    List.mem_singleton] at hc
  rcases hc with rfl | hc
  · rfl
  · rw [List.eq_of_mem_replicate hc]
    rfl

theorem ends_newline (level : ℕ) (rest : List Char) : Ends ((newline level).toList ++ rest) := by
  have hline : "\n".toList = ['\n'] := rfl
  simp only [newline, String.toList_append, hline, List.cons_append, List.nil_append]
  exact ends_cons rfl (by decide) _

theorem readValue?_blanks (h : ∀ c ∈ ws, isSpace c = true) (fuel : ℕ) (cs : List Char) :
    readValue? fuel (ws ++ cs) = readValue? fuel cs := by
  cases fuel with
  | zero => rw [readValue?, readValue?]
  | succ fuel => rw [readValue?, readValue?, skipSpace_append h]

theorem readItems?_blanks (h : ∀ c ∈ ws, isSpace c = true) (fuel : ℕ) (cs : List Char) :
    readItems? fuel (ws ++ cs) = readItems? fuel cs := by
  cases fuel with
  | zero => rw [readItems?, readItems?]
  | succ fuel => rw [readItems?, readItems?, readValue?_blanks h]

theorem readMembers?_blanks (h : ∀ c ∈ ws, isSpace c = true) (fuel : ℕ) (cs : List Char) :
    readMembers? fuel (ws ++ cs) = readMembers? fuel cs := by
  cases fuel with
  | zero => rw [readMembers?, readMembers?]
  | succ fuel => rw [readMembers?, readMembers?, skipSpace_append h]

end Blanks

/-! ## Scalars -/

section Scalars

variable {cs rest : List Char} {fuel : ℕ}

theorem head_of_spelling? {c : Char} {s : Spelling} (h : spelling? (c :: cs) = some (s, rest)) :
    c = '-' ∨ isDigit c = true := by
  by_cases hminus : c = '-'
  · exact Or.inl hminus
  · right
    by_contra hdigit
    have hnone : spelling? (c :: cs) = none := by
      unfold spelling?
      split
      · simp_all
      · simp [unsigned?, hdigit]
    rw [hnone] at h
    contradiction

theorem ne_of_head {c d : Char} (hc : c = '-' ∨ isDigit c = true) (hminus : d ≠ '-')
    (hdigit : isDigit d = false) : c ≠ d := by
  rintro rfl
  rcases hc with rfl | hc
  · exact hminus rfl
  · rw [hdigit] at hc
    contradiction

theorem isSpace_of_head {c : Char} (hc : c = '-' ∨ isDigit c = true) : isSpace c = false := by
  have h1 := ne_of_head (d := ' ') hc (by decide) rfl
  have h2 := ne_of_head (d := '\n') hc (by decide) rfl
  have h3 := ne_of_head (d := '\t') hc (by decide) rfl
  have h4 := ne_of_head (d := '\r') hc (by decide) rfl
  simp [isSpace, h1, h2, h3, h4]

theorem readValue?_number {s : Spelling} (h : spelling? cs = some (s, rest)) (fuel : ℕ) :
    readValue? (fuel + 1) cs = some (s.value, rest) := by
  cases cs with
  | nil => contradiction
  | cons c cs =>
    have hc := head_of_spelling? h
    rw [readValue?, skipSpace_cons (isSpace_of_head hc)]
    split
    · next heq => exact absurd (List.cons.inj heq).1 (ne_of_head hc (by decide) rfl)
    · next heq => exact absurd (List.cons.inj heq).1 (ne_of_head hc (by decide) rfl)
    · next heq => exact absurd (List.cons.inj heq).1 (ne_of_head hc (by decide) rfl)
    · next heq => exact absurd (List.cons.inj heq).1 (ne_of_head hc (by decide) rfl)
    · next heq => exact absurd (List.cons.inj heq).1 (ne_of_head hc (by decide) rfl)
    · next heq => exact absurd (List.cons.inj heq).1 (ne_of_head hc (by decide) rfl)
    · rw [h]
      rfl

theorem toList_null : Json.null.compact.toList = ['n', 'u', 'l', 'l'] := rfl

theorem toList_true : (Json.bool true).compact.toList = ['t', 'r', 'u', 'e'] := rfl

theorem toList_false : (Json.bool false).compact.toList = ['f', 'a', 'l', 's', 'e'] := rfl

theorem readValue?_null (fuel : ℕ) (rest : List Char) :
    readValue? (fuel + 1) (Json.null.compact.toList ++ rest) = some (.null, rest) := by
  rw [toList_null, readValue?]
  rfl

theorem readValue?_bool (b : Bool) (fuel : ℕ) (rest : List Char) :
    readValue? (fuel + 1) ((Json.bool b).compact.toList ++ rest) = some (.bool b, rest) := by
  cases b with
  | false =>
    rw [toList_false, readValue?]
    rfl
  | true =>
    rw [toList_true, readValue?]
    rfl

theorem readValue?_text (s : String) (fuel : ℕ) (rest : List Char) :
    readValue? (fuel + 1) ((quoted s).toList ++ rest) = some (.str s, rest) := by
  obtain ⟨cs, hcs, hread⟩ := readText?_quoted s
  rw [hcs, List.cons_append, readValue?, skipSpace_cons (by decide)]
  change (readText? (some []) (cs ++ rest)).map _ = _
  rw [hread]
  rfl

theorem readValue?_int {n : ℤ} (h0 : 0 ≤ n) (h : n ≤ Word.maxUnsigned64) (fuel : ℕ)
    (hrest : Ends rest) :
    readValue? (fuel + 1) ((intText n).toList ++ rest) = some (.int n, rest) := by
  obtain ⟨m, rfl⟩ := Int.eq_ofNat_of_zero_le h0
  have hm : m ≤ Word.maxUnsigned64 := by exact_mod_cast h
  have htext : (intText (m : ℤ)).toList = Nat.toDigits 10 m := String.toList_ofList
  rw [htext, readValue?_number (spelling?_append (spelling?_toDigits m) hrest)]
  simp only [Spelling.value, digitsValue_toDigits, if_neg hm.not_gt]
  rfl

theorem readValue?_float {x : Float} (h : (rereadFloat? x).isSome = true) (fuel : ℕ)
    (hrest : Ends rest) : readValue? (fuel + 1) ((floatText .json x).toList ++ rest) =
      some (reread (.float x), rest) := by
  obtain ⟨y, hy⟩ := Option.isSome_iff_exists.mp h
  obtain ⟨s, hs, hvalue⟩ := exists_spelling_of_rereadFloat? hy
  rw [readValue?_number (spelling?_append hs hrest), hvalue, reread, hy]
  rfl

end Scalars

/-! ## Values -/

def lines (level : ℕ) (texts : List String) : List Char :=
  (joined ("," ++ newline level) texts).toList

theorem lines_singleton (level : ℕ) (s : String) : lines level [s] = s.toList := by
  rw [lines, joined]

theorem lines_cons (level : ℕ) (s s' : String) (rest : List String) :
    lines level (s :: s' :: rest) =
      s.toList ++ ',' :: ((newline level).toList ++ lines level (s' :: rest)) := by
  have hcomma : ",".toList = [','] := rfl
  rw [lines, joined, String.toList_append, String.toList_append, String.toList_append, hcomma]
  · simp [lines]
  · simp

theorem prettyAt_items (level : ℕ) (j : Json) (items : List Json) :
    (prettyAt level (.arr (j :: items))).toList =
      '[' :: ((newline (level + 1)).toList ++ (lines (level + 1) (prettyItems (level + 1)
        (j :: items)) ++ ((newline level).toList ++ [']']))) := by
  have hopen : "[".toList = ['['] := rfl
  have hclose : "]".toList = [']'] := rfl
  rw [prettyAt]
  · simp [lines, hopen, hclose]
  · simp

theorem prettyAt_members (level : ℕ) (m : String × Json) (members : List (String × Json)) :
    (prettyAt level (.obj (m :: members))).toList =
      '\x7b' :: ((newline (level + 1)).toList ++ (lines (level + 1) (prettyMembers (level + 1)
        (m :: members)) ++ ((newline level).toList ++ ['\x7d']))) := by
  have hopen : "\x7b".toList = ['\x7b'] := rfl
  have hclose : "\x7d".toList = ['\x7d'] := rfl
  rw [prettyAt]
  · simp [lines, hopen, hclose]
  · simp

theorem toList_arr_nil : "[]".toList = ['[', ']'] := rfl

theorem toList_obj_nil : "\x7b\x7d".toList = ['\x7b', '\x7d'] := rfl

theorem cons_of_spelling? {cs rest : List Char} {s : Spelling}
    (h : spelling? cs = some (s, rest)) :
    ∃ c cs', cs = c :: cs' ∧ isSpace c = false ∧ c ≠ ']' := by
  cases cs with
  | nil => contradiction
  | cons c cs =>
    have hc := head_of_spelling? h
    exact ⟨c, cs, rfl, isSpace_of_head hc, ne_of_head hc (by decide) rfl⟩

theorem prettyAt_head {j : Json} (hj : j.Readable) (level : ℕ) : ∃ c cs,
    (prettyAt level j).toList = c :: cs ∧ isSpace c = false ∧ c ≠ ']' := by
  cases j with
  | null => exact ⟨'n', _, toList_null, by decide⟩
  | bool b =>
    cases b with
    | false => exact ⟨'f', _, toList_false, by decide⟩
    | true => exact ⟨'t', _, toList_true, by decide⟩
  | int n =>
    rw [Readable] at hj
    obtain ⟨m, rfl⟩ := Int.eq_ofNat_of_zero_le hj.1
    have htext : (intText (m : ℤ)).toList = Nat.toDigits 10 m := String.toList_ofList
    exact htext ▸ cons_of_spelling? (spelling?_toDigits m)
  | float x =>
    rw [Readable] at hj
    obtain ⟨y, hy⟩ := Option.isSome_iff_exists.mp hj
    obtain ⟨s, hs, -⟩ := exists_spelling_of_rereadFloat? hy
    exact cons_of_spelling? hs
  | str s =>
    obtain ⟨cs, hcs, -⟩ := readText?_quoted s
    exact ⟨'"', cs, hcs, by decide⟩
  | arr items =>
    cases items with
    | nil => exact ⟨'[', _, toList_arr_nil, by decide⟩
    | cons j items => exact ⟨'[', _, prettyAt_items level j items, by decide⟩
  | obj members =>
    cases members with
    | nil => exact ⟨'\x7b', _, toList_obj_nil, by decide⟩
    | cons m members => exact ⟨'\x7b', _, prettyAt_members level m members, by decide⟩
  | unreadable =>
    rw [Readable] at hj
    exact hj.elim

theorem readValue?_arr_nil (fuel : ℕ) (rest : List Char) :
    readValue? (fuel + 1) ("[]".toList ++ rest) = some (.arr [], rest) := by
  rw [toList_arr_nil, readValue?]
  rfl

theorem readValue?_obj_nil (fuel : ℕ) (rest : List Char) :
    readValue? (fuel + 1) ("\x7b\x7d".toList ++ rest) = some (.obj [], rest) := by
  rw [toList_obj_nil, readValue?]
  rfl

theorem readValue?_items {ws : List Char} (hws : ∀ c ∈ ws, isSpace c = true) {c : Char}
    (hc : isSpace c = false ∧ c ≠ ']') (fuel : ℕ) (cs : List Char) :
    readValue? (fuel + 1) ('[' :: (ws ++ c :: cs)) =
      (readItems? fuel (c :: cs)).map (fun x => (Json.arr x.1, x.2)) := by
  rw [readValue?, skipSpace_cons (by decide)]
  simp only [skipSpace_append hws, skipSpace_cons hc.1]
  split
  · next heq => exact absurd (List.cons.inj heq).1 hc.2
  · rfl

theorem readValue?_members {ws : List Char} (hws : ∀ c ∈ ws, isSpace c = true) (fuel : ℕ)
    (cs : List Char) : readValue? (fuel + 1) ('\x7b' :: (ws ++ '"' :: cs)) =
      (readMembers? fuel ('"' :: cs)).map (fun x => ((x.1.map Json.obj).getD .unreadable, x.2)) := by
  have hquote : skipSpace ('"' :: cs) = '"' :: cs := skipSpace_cons (by decide) cs
  rw [readValue?, skipSpace_cons (by decide)]
  simp only [skipSpace_append hws, hquote]
  rfl

theorem readMembers?_member (k : String) {j : Json} {text : String} {rest : List Char} {fuel : ℕ}
    (hj : readValue? fuel (text.toList ++ rest) = some (j, rest)) :
    readMembers? (fuel + 1) ((quoted k ++ ": " ++ text).toList ++ rest) =
      match skipSpace rest with
      | '\x7d' :: rest => some (some [(k, j)], rest)
      | ',' :: rest => (readMembers? fuel rest).map
          (fun x => (x.1.map (fun ms => (k, j) :: ms), x.2))
      | _ => none := by
  have hcolon : ": ".toList = [':', ' '] := rfl
  have hspace : ∀ c ∈ [' '], isSpace c = true := by simp [isSpace]
  have hblank : readValue? fuel (' ' :: (text.toList ++ rest)) = some (j, rest) :=
    (readValue?_blanks hspace fuel _).trans hj
  obtain ⟨cs, hcs, hread⟩ := readText?_quoted k
  simp only [String.toList_append, hcs, hcolon, List.cons_append, List.append_assoc,
    List.nil_append]
  have hmark : skipSpace (':' :: ' ' :: (text.toList ++ rest)) =
      ':' :: ' ' :: (text.toList ++ rest) := skipSpace_cons (by decide) _
  rw [readMembers?, skipSpace_cons (by decide)]
  simp only [hread, hmark, hblank]
  rfl

theorem lines_head (level : ℕ) {s : String} {c : Char} {cs : List Char} (h : s.toList = c :: cs)
    (rest : List String) : ∃ ds, lines level (s :: rest) = c :: ds := by
  cases rest with
  | nil => exact ⟨cs, by rw [lines_singleton, h]⟩
  | cons s' rest => exact ⟨_, by rw [lines_cons, h, List.cons_append]⟩

mutual

theorem readValue?_prettyAt (j : Json) (hj : j.Readable) (level fuel : ℕ) (rest : List Char)
    (hrest : Ends rest) (hfuel : 2 * (prettyAt level j).toList.length ≤ fuel) :
    readValue? fuel ((prettyAt level j).toList ++ rest) = some (j.reread, rest) := by
  -- Going into a list takes fuel, and so does every item; each brings a character of its own for it.
  obtain ⟨c, cs, hhead, -⟩ := prettyAt_head hj level
  obtain ⟨fuel, rfl⟩ : ∃ f, fuel = f + 1 := Nat.exists_eq_add_one.mpr (by
    rw [hhead, List.length_cons] at hfuel
    omega)
  cases j with
  | null => exact readValue?_null fuel rest
  | bool b => exact readValue?_bool b fuel rest
  | int n =>
    rw [Readable] at hj
    exact readValue?_int hj.1 hj.2 fuel hrest
  | float x =>
    rw [Readable] at hj
    exact readValue?_float hj fuel hrest
  | str s => exact readValue?_text s fuel rest
  | arr items =>
    cases items with
    | nil => exact readValue?_arr_nil fuel rest
    | cons j items =>
      rw [Readable] at hj
      rw [prettyAt_items] at hfuel ⊢
      simp only [List.length_cons, List.length_append] at hfuel
      have hitems := readItems?_pretty (j :: items) (by simp) hj (level + 1) level fuel rest
        (by omega)
      rw [ReadableItems] at hj
      obtain ⟨c, cs, hcs, hc⟩ := prettyAt_head hj.1 (level + 1)
      obtain ⟨ds, hds⟩ := lines_head (level + 1) hcs (prettyItems (level + 1) items)
      rw [prettyItems, hds] at hitems ⊢
      simp only [List.cons_append, List.append_assoc, List.nil_append] at hitems ⊢
      rw [readValue?_items (isSpace_newline _) hc, hitems]
      rfl
  | obj members =>
    cases members with
    | nil => exact readValue?_obj_nil fuel rest
    | cons m members =>
      obtain ⟨k, j⟩ := m
      rw [Readable] at hj
      rw [prettyAt_members] at hfuel ⊢
      simp only [List.length_cons, List.length_append] at hfuel
      have hmembers := readMembers?_pretty ((k, j) :: members) (by simp) hj (level + 1) level fuel
        rest (by omega)
      obtain ⟨cs, hcs, -⟩ := readText?_quoted k
      obtain ⟨ds, hds⟩ := lines_head (level + 1) (s := quoted k ++ ": " ++ prettyAt (level + 1) j)
        (by rw [String.toList_append, String.toList_append, hcs, List.cons_append, List.cons_append])
        (prettyMembers (level + 1) members)
      rw [prettyMembers, hds] at hmembers ⊢
      simp only [List.cons_append, List.append_assoc, List.nil_append] at hmembers ⊢
      rw [readValue?_members (isSpace_newline _), hmembers]
      rfl
  | unreadable =>
    rw [Readable] at hj
    exact hj.elim

theorem readMembers?_pretty (members : List (String × Json)) (hne : members ≠ [])
    (hmembers : ReadableMembers members) (level level' fuel : ℕ) (rest : List Char)
    (hfuel : 2 * (lines level (prettyMembers level members)).length + 1 ≤ fuel) :
    readMembers? fuel (lines level (prettyMembers level members) ++
      ((newline level').toList ++ '\x7d' :: rest)) = some (some (rereadMembers members), rest) := by
  cases members with
  | nil => contradiction
  | cons m members =>
    obtain ⟨k, j⟩ := m
    rw [ReadableMembers] at hmembers
    obtain ⟨fuel, rfl⟩ : ∃ f, fuel = f + 1 := Nat.exists_eq_add_one.mpr (by omega)
    cases members with
    | nil =>
      rw [prettyMembers, prettyMembers, lines_singleton] at hfuel ⊢
      simp only [String.toList_append, List.length_append] at hfuel
      rw [readMembers?_member k (readValue?_prettyAt j hmembers.1 level fuel _ (ends_newline _ _)
          (by omega)), skipSpace_append (isSpace_newline level'), skipSpace_cons (by decide)]
      rfl
    | cons m' members =>
      obtain ⟨k', j'⟩ := m'
      rw [prettyMembers, prettyMembers, lines_cons, ← prettyMembers] at hfuel ⊢
      simp only [String.toList_append, List.length_append, List.length_cons] at hfuel
      have hlater := readMembers?_pretty ((k', j') :: members) (by simp) hmembers.2 level level' fuel
        rest (by omega)
      rw [List.append_assoc, List.cons_append, List.append_assoc,
        readMembers?_member k (readValue?_prettyAt j hmembers.1 level fuel _
          (ends_cons rfl (by decide) _) (by omega)), skipSpace_cons (by decide)]
      change (readMembers? fuel _).map _ = _
      rw [readMembers?_blanks (isSpace_newline level), hlater]
      rfl

theorem readItems?_pretty (items : List Json) (hne : items ≠ []) (hitems : ReadableItems items)
    (level level' fuel : ℕ) (rest : List Char)
    (hfuel : 2 * (lines level (prettyItems level items)).length + 1 ≤ fuel) :
    readItems? fuel (lines level (prettyItems level items) ++
      ((newline level').toList ++ ']' :: rest)) = some (rereadItems items, rest) := by
  cases items with
  | nil => contradiction
  | cons j items =>
    rw [ReadableItems] at hitems
    obtain ⟨fuel, rfl⟩ : ∃ f, fuel = f + 1 := Nat.exists_eq_add_one.mpr (by omega)
    cases items with
    | nil =>
      rw [prettyItems, prettyItems, lines_singleton] at hfuel ⊢
      rw [readItems?, readValue?_prettyAt j hitems.1 level fuel _ (ends_newline _ _) (by omega)]
      dsimp only
      rw [skipSpace_append (isSpace_newline level'), skipSpace_cons (by decide)]
      rfl
    | cons j' items =>
      rw [prettyItems, prettyItems, lines_cons, ← prettyItems] at hfuel ⊢
      simp only [List.length_append, List.length_cons] at hfuel
      have hlater := readItems?_pretty (j' :: items) (by simp) hitems.2 level level' fuel rest
        (by omega)
      rw [List.append_assoc, List.cons_append, List.append_assoc, readItems?,
        readValue?_prettyAt j hitems.1 level fuel _ (ends_cons rfl (by decide) _) (by omega)]
      dsimp only
      rw [skipSpace_cons (by decide)]
      change (readItems? fuel _).map _ = _
      rw [readItems?_blanks (isSpace_newline level), hlater]
      rfl

end

theorem read?_pretty {j : Json} (hj : j.Readable) : read? j.pretty = some j.reread := by
  have hread := readValue?_prettyAt j hj 0 (2 * j.pretty.toList.length + 2) [] ends_nil
    (Nat.le_add_right _ _)
  rw [List.append_nil] at hread
  change readValue? (2 * j.pretty.toList.length + 2) j.pretty.toList = _ at hread
  simp only [read?, hread]
  rfl

end Json

end LaneQuota
