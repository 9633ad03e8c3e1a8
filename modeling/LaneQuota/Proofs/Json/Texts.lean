import LaneQuota.Json.Reader
import LaneQuota.Json.Writer
import Mathlib

namespace LaneQuota

namespace Json

variable (seen rest : List Char)

theorem readText?_unit {a b c d : Char} {u : ℕ} (hu : hexUnit? a b c d = some u)
    (hhigh : isHighSurrogate u = false) (hlow : isLowSurrogate u = false) :
    readText? (some seen) ('\\' :: 'u' :: a :: b :: c :: d :: rest) =
      readText? (some (Char.ofNat u :: seen)) rest := by
  rw [readText?.eq_def]
  split
  case h_5 hnot heq =>
    cases heq
    exact absurd rfl (hnot a b c d rest rfl)
  case h_6 hnot heq =>
    cases heq
    exact absurd rfl (hnot 'u' _ rfl)
  all_goals simp_all

theorem readText?_short {c d : Char} (hc : shortEscape? c = some d) :
    readText? (some seen) ('\\' :: c :: rest) = readText? (some (d :: seen)) rest := by
  have hu : c ≠ 'u' := by
    rintro rfl
    simp [shortEscape?] at hc
  rw [readText?.eq_def]
  split
  case h_6 hnot heq =>
    cases heq
    exact absurd rfl (hnot c rest rfl)
  all_goals simp_all

theorem readText?_plain {c : Char} (hquote : c ≠ '"') (hslash : c ≠ '\\') (hlow : ¬c < ' ') :
    readText? (some seen) (c :: rest) = readText? (some (c :: seen)) rest := by
  rw [readText?.eq_def]
  split <;> simp_all

theorem hexUnit?_control {n : ℕ} (h : n < 256) :
    hexUnit? '0' '0' (Hex.digit (n / 16)) (Hex.digit (n % 16)) = some n := by
  have h0 : Hex.value? '0' = some 0 := rfl
  rw [hexUnit?, Hex.value?_digit _ (by omega), Hex.value?_digit _ (by omega), h0]
  simp only [Option.bind_eq_bind, Option.bind_some, Option.pure_def, Option.some.injEq]
  omega

theorem readText?_escapeChar (c : Char) :
    readText? (some seen) (escapeChar c ++ rest) = readText? (some (c :: seen)) rest := by
  unfold escapeChar
  split
  · exact readText?_short seen rest rfl
  · exact readText?_short seen rest rfl
  · exact readText?_short seen rest rfl
  · exact readText?_short seen rest rfl
  · exact readText?_short seen rest rfl
  · exact readText?_short seen rest rfl
  · exact readText?_short seen rest rfl
  · split_ifs with hlow
    · have hn : c.toNat < 32 := UInt32.lt_iff_toNat_lt.mp hlow
      have hunit := hexUnit?_control (show c.toNat < 256 by omega)
      have hread := readText?_unit seen rest hunit (by simp [isHighSurrogate]; omega)
        (by simp [isLowSurrogate]; omega)
      rwa [Char.ofNat_toNat] at hread
    · exact readText?_plain seen rest ‹_› ‹_› hlow

theorem readText?_escaped (cs : List Char) :
    readText? (some seen) (cs.flatMap escapeChar ++ '"' :: rest) =
      some (some (String.ofList (seen.reverse ++ cs)), rest) := by
  induction cs generalizing seen with
  | nil =>
    rw [List.flatMap_nil, List.nil_append, readText?.eq_def]
    simp
  | cons c cs ih =>
    rw [List.flatMap_cons, List.append_assoc, readText?_escapeChar, ih]
    simp

theorem readText?_quoted (s : String) : ∃ cs, (quoted s).toList = '"' :: cs ∧
    ∀ rest, readText? (some []) (cs ++ rest) = some (some s, rest) := by
  refine ⟨s.toList.flatMap escapeChar ++ ['"'], ?_, fun rest => ?_⟩
  · have hquote : "\"".toList = ['"'] := rfl
    simp [quoted, hquote]
  · rw [List.append_assoc, List.singleton_append, readText?_escaped]
    simp

end Json

end LaneQuota
