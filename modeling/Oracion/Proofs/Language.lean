import Mathlib.Computability.Language
import Mathlib.Order.CompletePartialOrder

/-!
# Viable prefixes

A sequence is *viable* for a language when some word of the language starts with it.
A reader that goes from left to right and never takes back a decision is right as long
as what it has read is viable, and it must stop at the first item that makes it not so.

When a word of one language is followed by a word of another, the reader has to see
where the first ends.  One item of lookahead is enough if no item that continues a word
of the first language starts a word of the second; `Separated` is that condition, and
the lemmas below say that viability for the product can then be decided factor by
factor.

## Main definitions

* `Viable L w` — `w` starts a word of `L`.
* `Separated L M` — what continues a word of `L` does not start a word of `M`.

## Main results

* `Separated.prefix_left` — what is viable for the first factor is read from it.
* `Separated.eq_and_prefix` — where the first factor cannot go on, it has ended.
-/

namespace Oracion

variable {α : Type} {L M : Language α} {u v w : List α} {a : α}

/-- Some word of `L` starts with `w`. -/
def Viable (L : Language α) (w : List α) : Prop := ∃ x ∈ L, w <+: x

theorem viable_of_mem (h : w ∈ L) : Viable L w := ⟨w, h, List.prefix_rfl⟩

@[simp] theorem mem_singleton {x : List α} : w ∈ ({x} : Language α) ↔ w = x := Iff.rfl

@[simp] theorem viable_singleton {x : List α} : Viable ({x} : Language α) w ↔ w <+: x := by
  simp [Viable]

@[simp] theorem viable_iSup {ι : Type} {K : ι → Language α} :
    Viable (⨆ i, K i) w ↔ ∃ i, Viable (K i) w := by
  simp only [Viable, Language.mem_iSup]
  constructor
  · rintro ⟨x, ⟨i, hx⟩, hwx⟩
    exact ⟨i, x, hx, hwx⟩
  · rintro ⟨i, x, hx, hwx⟩
    exact ⟨x, ⟨i, hx⟩, hwx⟩

/-- If the words of `L` that start with `a` are `a` and a word of `M`, then what is viable
for `L` after `a` is what is viable for `M`. -/
theorem viable_cons_iff (h : ∀ w, a :: w ∈ L ↔ w ∈ M) : Viable L (a :: w) ↔ Viable M w := by
  constructor
  · rintro ⟨x, hx, hwx⟩
    obtain ⟨t, rfl⟩ := hwx
    rw [List.cons_append] at hx
    exact ⟨w ++ t, (h _).mp hx, List.prefix_append w t⟩
  · rintro ⟨x, hx, hwx⟩
    exact ⟨a :: x, (h x).mpr hx, List.cons_prefix_cons.mpr ⟨rfl, hwx⟩⟩

theorem Viable.of_prefix (h : Viable L w) (huw : u <+: w) : Viable L u := by
  obtain ⟨x, hx, hwx⟩ := h
  exact ⟨x, hx, huw.trans hwx⟩

/-- A viable sequence is viable up to any of its items. -/
theorem Viable.snoc (h : Viable L (u ++ a :: v)) : Viable L (u ++ [a]) :=
  h.of_prefix ((List.prefix_append_right_inj u).mpr (List.prefix_append [a] v))

/-- A viable sequence is viable for the product, if the second factor has a word. -/
theorem Viable.mul_right (h : Viable L w) (hM : ∃ y, y ∈ M) : Viable (L * M) w := by
  obtain ⟨x, hx, hwx⟩ := h
  obtain ⟨y, hy⟩ := hM
  exact ⟨x ++ y, Language.append_mem_mul hx hy, hwx.trans (List.prefix_append x y)⟩

/-- After a word of the first factor, what is viable for the second is viable for the
product. -/
theorem Viable.mul_left (h : Viable M w) (hu : u ∈ L) : Viable (L * M) (u ++ w) := by
  obtain ⟨y, hy, hwy⟩ := h
  exact ⟨u ++ y, Language.append_mem_mul hu hy, (List.prefix_append_right_inj u).mpr hwy⟩

/-- No item that continues a word of `L` starts a word of `M`. -/
def Separated (L M : Language α) : Prop :=
  ∀ w a, w ∈ L → Viable L (w ++ [a]) → ¬ Viable M [a]

namespace Separated

/-- **What is viable for the first factor is read from it.**  If a product of words starts
with something viable for the first language, the first word does. -/
theorem prefix_left (hs : Separated L M) (hu : Viable L u) {x y : List α} (hx : x ∈ L)
    (hy : y ∈ M) (h : u <+: x ++ y) : u <+: x := by
  rcases List.prefix_or_prefix_of_prefix h (List.prefix_append x y) with hux | hxu
  · exact hux
  · obtain ⟨t, rfl⟩ := hxu
    cases t with
    | nil => rw [List.append_nil]
    | cons a t =>
      -- the first word would end inside `u`, and the next item would start the second
      exfalso
      rw [List.prefix_append_right_inj] at h
      exact hs x a hx hu.snoc ⟨y, hy, (List.prefix_append [a] t).trans h⟩

/-- **Where the first factor cannot go on, it has ended.**  If `u` is viable for the first
language and the next item does not continue it, then in every product that goes on with
that item the first word is `u`. -/
theorem eq_and_prefix (hs : Separated L M) (hu : Viable L u) (ha : ¬ Viable L (u ++ [a]))
    {x y : List α} (hx : x ∈ L) (hy : y ∈ M) (h : u ++ a :: v <+: x ++ y) :
    x = u ∧ a :: v <+: y := by
  have hux : u <+: x := hs.prefix_left hu hx hy ((List.prefix_append u (a :: v)).trans h)
  obtain ⟨t, rfl⟩ := hux
  cases t with
  | nil =>
    rw [List.append_nil, List.prefix_append_right_inj] at h
    exact ⟨List.append_nil u, h⟩
  | cons b t =>
    exfalso
    rw [List.append_assoc, List.prefix_append_right_inj, List.cons_append,
      List.cons_prefix_cons] at h
    obtain ⟨rfl, -⟩ := h
    exact ha (viable_of_mem hx).snoc

/-- A product that is `u` with something after it, where `u` cannot go on, falls apart at
the end of `u`. -/
theorem eq_of_append_eq (hs : Separated L M) (hu : Viable L u)
    (ha : ∀ a t, v = a :: t → ¬ Viable L (u ++ [a])) {x y : List α} (hx : x ∈ L) (hy : y ∈ M)
    (h : x ++ y = u ++ v) : x = u ∧ y = v := by
  have hux : u <+: x := hs.prefix_left hu hx hy (h ▸ List.prefix_append u v)
  obtain ⟨t, rfl⟩ := hux
  rw [List.append_assoc, List.append_right_inj] at h
  cases t with
  | nil => exact ⟨List.append_nil u, h⟩
  | cons a t => exact absurd (viable_of_mem hx).snoc (ha a (t ++ y) h.symm)

/-! ### The product, factor by factor -/

/-- After a word of the first factor, the product goes on only as the second does. -/
theorem not_viable_append (hs : Separated L M) (hu : u ∈ L) (ha : ¬ Viable L (u ++ [a]))
    (hv : ¬ Viable M (a :: v)) : ¬ Viable (L * M) (u ++ a :: v) := by
  rintro ⟨_, hxy, hpre⟩
  obtain ⟨x, hx, y, hy, rfl⟩ := Language.mem_mul.mp hxy
  obtain ⟨-, hvy⟩ := hs.eq_and_prefix (viable_of_mem hu) ha hx hy hpre
  exact hv ⟨y, hy, hvy⟩

/-- What the first factor cannot go on with, the product cannot either, as long as the
first word has not ended. -/
theorem not_viable_left (hs : Separated L M) (hu : Viable L u) (hmem : u ∉ L)
    (ha : ¬ Viable L (u ++ [a])) : ¬ Viable (L * M) (u ++ [a]) := by
  rintro ⟨_, hxy, hpre⟩
  obtain ⟨x, hx, y, hy, rfl⟩ := Language.mem_mul.mp hxy
  obtain ⟨rfl, -⟩ := hs.eq_and_prefix hu ha hx hy hpre
  exact hmem hx

/-- After a word of the first factor that does not go on, only a word of the second
completes a product. -/
theorem append_notMem_mul (hs : Separated L M) (hu : u ∈ L)
    (ha : ∀ a t, v = a :: t → ¬ Viable L (u ++ [a])) (hv : v ∉ M) : u ++ v ∉ L * M := by
  intro h
  obtain ⟨x, hx, y, hy, hxy⟩ := Language.mem_mul.mp h
  obtain ⟨-, rfl⟩ := hs.eq_of_append_eq (viable_of_mem hu) ha hx hy hxy
  exact hv hy

/-- A proper start of a first word is no product. -/
theorem notMem_mul_left (hs : Separated L M) (hu : Viable L u) (hmem : u ∉ L) :
    u ∉ L * M := by
  intro h
  obtain ⟨x, hx, y, hy, hxy⟩ := Language.mem_mul.mp h
  have hend : ∀ a t, ([] : List α) = a :: t → ¬ Viable L (u ++ [a]) := by
    intro a t hnil
    exact absurd hnil (List.cons_ne_nil a t).symm
  obtain ⟨rfl, -⟩ := hs.eq_of_append_eq hu hend hx hy (hxy.trans (List.append_nil u).symm)
  exact hmem hx

end Separated
end Oracion
