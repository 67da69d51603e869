import Oracion.Proofs.Chars.Words
import Oracion.Text

/-!
# Lines and line feeds

A text is a line without a line feed, or such a line, a line feed and another text.  This is
how proofs about lines go through a text.  The carriage return that may stand before the line
feed is blank, so it makes no difference to a line from which the blanks around it are taken.

## Main definitions

* `withReturns` — a text with a carriage return before every line feed.

## Main results

* `trim_append_blank`, `trim_trim` — trimming, by what is left of a text.
* `Text.intercalate_of_append` — what holds for two texts with something between them holds for
  any number.
* `Text.line_induction` — **induction on the lines of a text.**
* `Text.lines_of_notMem`, `Text.lines_line_append` — the lines of either kind of text.
-/

namespace Oracion
namespace Chars

variable {b c : Char} {u v : List Char}

/-! ### Trimming -/

theorem trimEnd_append_blank (hb : isBlank b = true) (u : List Char) :
    trimEnd (u ++ [b]) = trimEnd u := by
  rw [trimEnd, trimEnd, List.reverse_append, List.reverse_singleton, List.singleton_append,
    List.dropWhile_cons_of_pos hb]

/-- A blank at the end of a text is trimmed away. -/
theorem trim_append_blank (hb : isBlank b = true) (u : List Char) :
    trim (u ++ [b]) = trim u := by
  unfold trim trimStart
  rw [List.dropWhile_append]
  split
  · next hnil =>
    -- the text is blank all through
    rw [List.isEmpty_iff] at hnil
    rw [hnil, List.dropWhile_cons_of_pos hb, List.dropWhile_nil]
  · exact trimEnd_append_blank hb _

theorem trimStart_eq_self (hu : ∀ c ∈ u.head?, isBlank c = false) : trimStart u = u := by
  cases u with
  | nil => rfl
  | cons c u => rw [trimStart_cons, hu c rfl, if_neg Bool.false_ne_true]

/-- **What is trimmed stays as it is.** -/
theorem trim_trim (u : List Char) : trim (trim u) = trim u := by
  have hstart : trimStart (trim u) = trim u := by
    apply trimStart_eq_self
    intro c hc
    obtain ⟨v, hv⟩ := List.head?_eq_some_iff.mp hc
    exact not_isBlank_of_trim_eq_cons hv
  have hend : trimEnd (trim u) = trim u := List.rdropWhile_idempotent isBlank (trimStart u)
  rw [trim, hstart, hend]

/-- Trimming adds no character. -/
theorem mem_of_mem_trim (h : c ∈ trim u) : c ∈ u := by
  have hend : trim u <+: trimStart u := List.rdropWhile_prefix isBlank (trimStart u)
  have hstart : trimStart u <:+ u := List.dropWhile_suffix isBlank
  exact hstart.mem (hend.mem h)

/-! ### Lines -/

/-- What has no line feed in it is one line, unless it is empty. -/
theorem lines_of_notMem (h : '\n' ∉ u) : lines u = if u = [] then [] else [u] := by
  induction u with
  | nil => rfl
  | cons a u ih =>
    rw [List.mem_cons, not_or] at h
    have ha : a ≠ '\n' := Ne.symm h.1
    rw [if_neg (List.cons_ne_nil a u)]
    cases u with
    | nil => simp [lines, splitLines, ha]
    | cons b u =>
      have hb : b ≠ '\n' := by
        rintro rfl
        exact h.2 List.mem_cons_self
      have hrest := ih h.2
      rw [if_neg (List.cons_ne_nil b u), lines] at hrest
      simp only [lines, splitLines, ha, hb, and_false, if_false, hrest, consLine]

/-- What stands before a line feed is a line, less a carriage return at its end. -/
theorem lines_append_lf_cons (h : '\n' ∉ u) (v : List Char) :
    ∃ l, (u = l ∨ u = l ++ ['\r']) ∧ lines (u ++ '\n' :: v) = l :: lines v := by
  induction u with
  | nil =>
    refine ⟨[], .inl rfl, ?_⟩
    cases v <;> simp [lines, splitLines]
  | cons a u ih =>
    rw [List.mem_cons, not_or] at h
    have ha : a ≠ '\n' := Ne.symm h.1
    obtain ⟨l, hl, hlines⟩ := ih h.2
    cases u with
    | nil =>
      by_cases hreturn : a = '\r'
      · exact ⟨[], .inr (by rw [hreturn]; rfl), by simp [lines, splitLines, hreturn]⟩
      · refine ⟨[a], .inl rfl, ?_⟩
        cases v <;> simp [lines, splitLines, ha, hreturn, consLine]
    | cons b u =>
      have hb : b ≠ '\n' := by
        rintro rfl
        exact h.2 List.mem_cons_self
      refine ⟨a :: l, ?_, ?_⟩
      · rcases hl with hl | hl
        · exact .inl (by rw [hl])
        · exact .inr (by rw [hl]; rfl)
      · simp only [List.cons_append, lines] at hlines ⊢
        rw [splitLines, hlines, if_neg ha, if_neg (fun hcrlf => hb hcrlf.2), consLine]

end Chars

namespace Text

/-- What goes with putting two texts together goes with putting any number together. -/
theorem intercalate_of_append {α : Type} {f : String → List α} {sep : String} (hempty : f "" = [])
    (happend : ∀ a b, f (a ++ sep ++ b) = f a ++ f b) (ss : List String) :
    f (sep.intercalate ss) = ss.flatMap f := by
  induction ss with
  | nil => exact hempty
  | cons s ss ih =>
    cases ss with
    | nil => rw [String.intercalate_singleton, List.flatMap_singleton]
    | cons s' ss => rw [String.intercalate_cons_cons, happend, ih, List.flatMap_cons (x := s)]

/-! ### Lines of a text -/

/-- A text with a carriage return before every line feed. -/
def withReturns (s : String) : String :=
  String.ofList (s.toList.flatMap fun c => if c = '\n' then ['\r', '\n'] else [c])

theorem trim_append_return (s : String) : trim (s ++ "\r") = trim s := by
  have hreturn : (s ++ "\r").toList = s.toList ++ ['\r'] := by simp
  rw [trim, trim, hreturn, Chars.trim_append_blank (by decide)]

@[simp] theorem trim_trim (s : String) : trim (trim s) = trim s := by
  rw [trim, toList_trim, Chars.trim_trim, trim]

theorem mem_of_mem_trim {s : String} {c : Char} (h : c ∈ (trim s).toList) : c ∈ s.toList := by
  rw [toList_trim] at h
  exact Chars.mem_of_mem_trim h

/-- **Induction on the lines of a text**: it has no line feed, or it is a line without one, a
line feed and a text for which the statement holds. -/
@[elab_as_elim]
theorem line_induction {motive : String → Prop}
    (last : ∀ l, '\n' ∉ l.toList → motive l)
    (line : ∀ l rest, '\n' ∉ l.toList → motive rest → motive (l ++ "\n" ++ rest))
    (s : String) : motive s := by
  induction hn : s.toList.length using Nat.strongRecOn generalizing s with
  | _ n ih =>
    by_cases hmem : '\n' ∈ s.toList
    · obtain ⟨u, v, hs, hu⟩ := List.eq_append_cons_of_mem hmem
      have hsplit : s = String.ofList u ++ "\n" ++ String.ofList v := by
        apply String.toList_inj.mp
        simp [hs]
      have hshorter : (String.ofList v).toList.length < n := by
        rw [← hn, hs, String.toList_ofList, List.length_append, List.length_cons]
        omega
      rw [hsplit]
      apply line
      · rwa [String.toList_ofList]
      · exact ih _ hshorter (String.ofList v) rfl
    · exact last s hmem

theorem lines_of_notMem {l : String} (h : '\n' ∉ l.toList) :
    lines l = if l = "" then [] else [l] := by
  rw [lines, Chars.lines_of_notMem h]
  by_cases hl : l = ""
  · subst hl
    rfl
  · have hne : l.toList ≠ [] := by simpa using hl
    rw [if_neg hl, if_neg hne, List.map_cons, List.map_nil, String.ofList_toList]

/-- The first line of a text that has a line feed, up to blanks around it, and the others. -/
theorem lines_line_append {l : String} (h : '\n' ∉ l.toList) (rest : String) :
    ∃ l', trim l' = trim l ∧ lines (l ++ "\n" ++ rest) = l' :: lines rest := by
  obtain ⟨u, hu, hlines⟩ := Chars.lines_append_lf_cons h rest.toList
  refine ⟨String.ofList u, ?_, ?_⟩
  · rcases hu with hu | hu
    · rw [← hu, String.ofList_toList]
    · rw [trim, trim, hu, String.toList_ofList, Chars.trim_append_blank (by decide)]
  · have htoList : (l ++ "\n" ++ rest).toList = l.toList ++ '\n' :: rest.toList := by simp
    rw [lines, htoList, hlines, List.map_cons]
    rfl

theorem withReturns_of_notMem {l : String} (h : '\n' ∉ l.toList) : withReturns l = l := by
  have hself : (l.toList.flatMap fun c => if c = '\n' then ['\r', '\n'] else [c]) = l.toList := by
    refine (List.flatMap_congr ?_).trans (List.flatMap_singleton' l.toList)
    intro c hc
    have hc' : c ≠ '\n' := by
      rintro rfl
      exact h hc
    exact if_neg hc'
  rw [withReturns, hself, String.ofList_toList]

theorem withReturns_line_append {l : String} (h : '\n' ∉ l.toList) (rest : String) :
    withReturns (l ++ "\n" ++ rest) = l ++ "\r" ++ "\n" ++ withReturns rest := by
  have happend : ∀ s t, withReturns (s ++ t) = withReturns s ++ withReturns t := by
    intro s t
    simp [withReturns]
  have hfeed : withReturns "\n" = "\r" ++ "\n" := by decide
  rw [happend, happend, withReturns_of_notMem h, hfeed, ← String.append_assoc]

end Text
end Oracion
