import Oracion.Chars.Clusters.Role

/-!
# Clusters

What a reader takes for one character may be several: a letter with its accents, a
flag, a family joined from pictographs, a conjunct.  The extended grapheme clusters of
a text are these units.  Whether a character continues the cluster in front of it
hangs on the two characters at the border and, for flags, pictographs and conjuncts,
on a stretch of the text before them.

## Main definitions

* `joins` — whether a character continues the cluster before it.
* `clusters` — the clusters of a text, in order.

## Main results

* `flatten_clusters` — the clusters put together are the text.
* `ne_nil_of_mem_clusters` — no cluster is empty.
-/

namespace Oracion
namespace Chars

/-! ### Borders

The text before a border is given from its end: the nearest character comes first. -/

/-- Whether a text ends in a pictograph, with extenders perhaps, and a joiner. -/
def awaitsPictograph : List Char → Bool
  | [] => false
  | c :: before => c == joiner && (before.dropWhile extenders.holds).head?.any pictographs.holds

/-- Whether a text ends in half a flag: the regional indicators at its end make pairs, and
one is left over. -/
def awaitsFlagLetter (before : List Char) : Bool :=
  (before.takeWhile flagLetters.holds).length % 2 == 1

/-- Whether a text ends in something that a character with this role completes. -/
def awaits (before : List Char) : ClusterRole → Bool
  | .consonant => awaitsConsonant before
  | .pictograph => awaitsPictograph before
  | .flagLetter => awaitsFlagLetter before
  | _ => false

/-- Whether a character continues the cluster at the end of the text before it. -/
def joins (before : List Char) (c : Char) : Bool :=
  match before with
  | [] => false
  | b :: _ =>
      let left := ClusterRole.of b
      let right := ClusterRole.of c
      (left == .carriageReturn && right == .lineFeed) ||
        (!left.standsApart && !right.standsApart &&
          (left.inSyllable right || right.attaches || left == .prepend || awaits before right))

/-! ### Splitting -/

/-- Puts a character in front of split text, as part of its first cluster or alone. -/
def consCluster (together : Bool) (c : Char) : List (List Char) → List (List Char)
  | [] => [[c]]
  | k :: ks => if together then (c :: k) :: ks else [c] :: k :: ks

/-- The clusters of a text that comes after another one. -/
def clustersFrom : List Char → List Char → List (List Char)
  | _, [] => []
  | before, c :: cs =>
      consCluster (cs.head?.any (joins (c :: before))) c (clustersFrom (c :: before) cs)

/-- The clusters of a text, in order. -/
def clusters (cs : List Char) : List (List Char) := clustersFrom [] cs

@[simp] theorem clustersFrom_nil (before : List Char) : clustersFrom before [] = [] := rfl

@[simp] theorem clusters_nil : clusters [] = [] := rfl

theorem flatten_consCluster (together : Bool) (c : Char) (ks : List (List Char)) :
    (consCluster together c ks).flatten = c :: ks.flatten := by
  cases ks <;> cases together <;> rfl

theorem ne_nil_of_mem_consCluster {together : Bool} {c : Char} {ks : List (List Char)}
    (hks : ∀ k ∈ ks, k ≠ []) : ∀ k ∈ consCluster together c ks, k ≠ [] := by
  cases ks <;> cases together <;> simp_all [consCluster]

theorem flatten_clustersFrom (before cs : List Char) : (clustersFrom before cs).flatten = cs := by
  induction cs generalizing before with
  | nil => rfl
  | cons c cs ih => rw [clustersFrom, flatten_consCluster, ih]

/-- **Splitting loses nothing.** -/
@[simp] theorem flatten_clusters (cs : List Char) : (clusters cs).flatten = cs :=
  flatten_clustersFrom [] cs

theorem ne_nil_of_mem_clustersFrom (before cs : List Char) :
    ∀ k ∈ clustersFrom before cs, k ≠ [] := by
  induction cs generalizing before with
  | nil => simp
  | cons c cs ih => exact ne_nil_of_mem_consCluster (ih (c :: before))

/-- No cluster is empty. -/
theorem ne_nil_of_mem_clusters {cs k : List Char} (h : k ∈ clusters cs) : k ≠ [] :=
  ne_nil_of_mem_clustersFrom [] cs k h

end Chars
end Oracion
