import Mathlib.Data.List.Chain
import Oracion.Proofs.Chars.Words

/-!
# Blanks and longest runs

What the pieces of a text are, said without the function that finds them: blanks one by one
and, between them, runs of other characters that are as long as they can be.  A text falls
apart in this way, and in no other.

## Main definitions

* `Piece.Proper`, `Piece.Apart` — what a piece has to be, and what two neighbours must not be.
* `IsSplit ps cs` — the pieces `ps` are the blanks and the longest runs of the text `cs`.

## Main results

* `isSplit_iff` — **there is one such list of pieces for each text.**
-/

namespace Oracion
namespace Chars

/-- A blank is blank, and a word has characters, none of which is blank. -/
def Piece.Proper : Piece → Prop
  | .blank c => isBlank c = true
  | .word w => w ≠ [] ∧ ∀ c ∈ w, isBlank c = false

/-- Not both pieces are words. -/
def Piece.Apart (p q : Piece) : Prop := p.word? = none ∨ q.word? = none

/-- The pieces are the blanks of a text and its longest runs of other characters. -/
structure IsSplit (ps : List Piece) (cs : List Char) : Prop where
  /-- Put together they are the text. -/
  joined : ps.flatMap Piece.chars = cs
  /-- Each is a blank or a word. -/
  proper : ∀ p ∈ ps, p.Proper
  /-- No word touches another, so that none could be longer. -/
  apart : ps.IsChain Piece.Apart

theorem IsSplit.eq_pieces {ps : List Piece} {cs : List Char} (h : IsSplit ps cs) :
    ps = pieces cs := by
  obtain ⟨rfl, hproper, hapart⟩ := h
  induction ps with
  | nil => rfl
  | cons p ps ih =>
    obtain ⟨hp, hps⟩ := List.forall_mem_cons.mp hproper
    have hrest : ps = pieces (ps.flatMap Piece.chars) := ih hps hapart.tail
    cases p with
    | blank b =>
      show .blank b :: ps = consPiece b (pieces (ps.flatMap Piece.chars))
      rw [← hrest, consPiece_of_blank hp]
    | word w =>
      obtain ⟨c, u, rfl⟩ := List.exists_cons_of_ne_nil hp.1
      have hword : pieces (c :: u) = [.word (c :: u)] := pieces_of_not_blank u c hp.2
      -- what follows a word is nothing, or a blank
      cases ps with
      | nil =>
        show [.word (c :: u)] = pieces (c :: u ++ [])
        rw [List.append_nil, hword]
      | cons q ps =>
        cases q with
        | blank b =>
          have hb : isBlank b = true := hps (.blank b) (List.mem_cons_self ..)
          have hcons : .blank b :: ps = consPiece b (pieces (ps.flatMap Piece.chars)) := hrest
          rw [consPiece_of_blank hb, List.cons.injEq] at hcons
          show .word (c :: u) :: .blank b :: ps = pieces (c :: u ++ b :: ps.flatMap Piece.chars)
          rw [pieces_append_blank hb, hword, ← hcons.2]
          rfl
        | word v =>
          have htouch : Piece.Apart (.word (c :: u)) (.word v) :=
            (List.isChain_cons_cons.mp hapart).1
          simp [Piece.Apart, Piece.word?] at htouch

theorem IsSplit.cons {ps : List Piece} {cs : List Char} (h : IsSplit ps cs) (c : Char) :
    IsSplit (consPiece c ps) (c :: cs) := by
  obtain ⟨hjoined, hproper, hapart⟩ := h
  refine ⟨by rw [flatMap_chars_consPiece, hjoined], ?_, ?_⟩
  · unfold consPiece
    split
    · next hc => exact List.forall_mem_cons.mpr ⟨hc, hproper⟩
    · next hc =>
      have hc' : isBlank c = false := by simpa using hc
      split
      · next w rest =>
        obtain ⟨hw, hrest⟩ := List.forall_mem_cons.mp hproper
        have hcw : ∀ d ∈ c :: w, isBlank d = false := List.forall_mem_cons.mpr ⟨hc', hw.2⟩
        exact List.forall_mem_cons.mpr ⟨⟨List.cons_ne_nil c w, hcw⟩, hrest⟩
      · have hword : ∀ d ∈ [c], isBlank d = false := List.forall_mem_singleton.mpr hc'
        exact List.forall_mem_cons.mpr ⟨⟨List.cons_ne_nil c [], hword⟩, hproper⟩
  · unfold consPiece
    split
    · exact hapart.cons fun _ _ => .inl rfl
    · split
      · next w rest =>
        have hnext : ∀ p ∈ rest.head?, p.word? = none := fun p hp =>
          (hapart.rel_head? hp).resolve_left (by simp [Piece.word?])
        exact hapart.tail.cons fun p hp => .inr (hnext p hp)
      · next hother =>
        -- the character starts a word of its own because no word follows
        refine hapart.cons fun p hp => .inr ?_
        cases p with
        | blank b => rfl
        | word w =>
          obtain ⟨rest, hrest⟩ := List.head?_eq_some_iff.mp hp
          exact absurd hrest (hother w rest)

theorem isSplit_pieces (cs : List Char) : IsSplit (pieces cs) cs := by
  induction cs with
  | nil => exact ⟨rfl, by simp, .nil⟩
  | cons c cs ih => exact ih.cons c

/-- **There is one list of pieces for each text.** -/
theorem isSplit_iff {ps : List Piece} {cs : List Char} : IsSplit ps cs ↔ ps = pieces cs := by
  constructor
  · exact IsSplit.eq_pieces
  · rintro rfl
    exact isSplit_pieces cs

end Chars
end Oracion
