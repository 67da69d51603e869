/-!
# Sets of words

A finite set of words is kept as its strictly ascending list, so that two sets with
the same words are the same list and no word occurs twice.  Words are ordered by
their code points: accented letters come after all plain ones.

## Main definitions

* `insertAscending` — puts a word into an ascending list, unless it is there.
* `WordSet`, `WordSet.ofList` — sets of words, and the set of the words of a list.

## Main results

* `WordSet.mem_ofList` — a set made from a list has exactly the words of the list.
-/

namespace Oracion

/-- Puts a word at its place in an ascending list, unless it is already there. -/
def insertAscending (w : String) : List String → List String
  | [] => [w]
  | v :: vs =>
      if w < v then w :: v :: vs
      else if w = v then v :: vs
      else v :: insertAscending w vs

theorem mem_insertAscending {w x : String} {vs : List String} :
    x ∈ insertAscending w vs ↔ x = w ∨ x ∈ vs := by
  induction vs with
  | nil => simp [insertAscending]
  | cons v vs ih =>
    unfold insertAscending
    split
    · simp
    · split
      · next h => subst h; simp
      · simp [ih, or_left_comm]

theorem pairwise_insertAscending {w : String} {vs : List String}
    (h : vs.Pairwise (· < ·)) : (insertAscending w vs).Pairwise (· < ·) := by
  induction vs with
  | nil => simp [insertAscending]
  | cons v vs ih =>
    obtain ⟨hv, hvs⟩ := List.pairwise_cons.mp h
    unfold insertAscending
    split
    · next hlt =>
      refine List.pairwise_cons.mpr ⟨fun x hx => ?_, h⟩
      rcases List.mem_cons.mp hx with rfl | hx
      · exact hlt
      · exact String.lt_trans hlt (hv x hx)
    · next hnlt =>
      split
      · exact h
      · next hne =>
        -- neither before nor equal: the new word comes after the head
        have hgt : v < w := by
          have hle : v ≤ w := String.not_lt.mp hnlt
          rcases Classical.em (v < w) with hlt | hge
          · exact hlt
          · exact absurd (String.le_antisymm (String.not_lt.mp hge) hle) hne
        refine List.pairwise_cons.mpr ⟨fun x hx => ?_, ih hvs⟩
        rcases mem_insertAscending.mp hx with rfl | hx
        · exact hgt
        · exact hv x hx

/-- A finite set of words. -/
structure WordSet where
  /-- The words of the set, in order. -/
  words : List String
  /-- Each word comes before all that follow it. -/
  ascending : words.Pairwise (· < ·)
  deriving DecidableEq

namespace WordSet

/-- The set without words. -/
def empty : WordSet := ⟨[], List.Pairwise.nil⟩

instance : Inhabited WordSet := ⟨empty⟩

/-- A set with one more word. -/
def insert (s : WordSet) (w : String) : WordSet :=
  ⟨insertAscending w s.words, pairwise_insertAscending s.ascending⟩

/-- The set of the words of a list. -/
def ofList (ws : List String) : WordSet := ws.foldr (fun w s => s.insert w) empty

/-- Whether a word is in the set. -/
def contains (s : WordSet) (w : String) : Bool := s.words.contains w

/-- How many words the set has. -/
def size (s : WordSet) : Nat := s.words.length

@[simp] theorem words_empty : empty.words = [] := rfl

@[simp] theorem contains_iff {s : WordSet} {w : String} : s.contains w = true ↔ w ∈ s.words := by
  simp [contains]

theorem mem_insert {s : WordSet} {w x : String} :
    x ∈ (s.insert w).words ↔ x = w ∨ x ∈ s.words := mem_insertAscending

theorem mem_ofList {ws : List String} {x : String} : x ∈ (ofList ws).words ↔ x ∈ ws := by
  induction ws with
  | nil => simp [ofList]
  | cons w ws ih =>
    rw [show ofList (w :: ws) = (ofList ws).insert w from rfl, mem_insert, ih, List.mem_cons]

@[simp] theorem contains_ofList (ws : List String) (w : String) :
    (ofList ws).contains w = decide (w ∈ ws) := by
  rw [Bool.eq_iff_iff, contains_iff, mem_ofList, decide_eq_true_eq]

/-- No word occurs twice. -/
theorem nodup (s : WordSet) : s.words.Nodup :=
  s.ascending.imp fun {a b} (h : a < b) (he : a = b) => String.lt_irrefl b (he ▸ h)

end WordSet
end Oracion
