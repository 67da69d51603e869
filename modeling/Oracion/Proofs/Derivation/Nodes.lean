import Oracion.Derivation

/-!
# The nodes of a derivation

A node of a derivation has an address: the numbers of the children that lead to it from the
root.  The nodes can be listed with their addresses so that each comes before all that hangs
below it and after all that hangs below an earlier sibling.  This order is that of the
addresses, compared from the root on.

## Main definitions

* `Derivation.subtree?` — the part of a tree at an address.
* `Derivation.nodes` — the nodes of a tree with their addresses.

## Main results

* `Derivation.induction`, `Derivation.forest_induction` — induction on trees, and on trees side
  by side.
* `Derivation.mem_nodes` — **the nodes listed are those that have an address.**
* `Derivation.pairwise_nodes` — **they are listed in the order of their addresses.**
-/

namespace Oracion
namespace Derivation

/-- **Induction on trees**, with a hypothesis for each child. -/
@[elab_as_elim, induction_eliminator]
theorem induction {motive : Derivation → Prop}
    (node : ∀ l w ts, (∀ t ∈ ts, motive t) → motive (node l w ts)) (t : Derivation) : motive t :=
  @Derivation.rec motive (fun ts => ∀ t ∈ ts, motive t) node nofun
    (fun _ _ ht hts => List.forall_mem_cons.mpr ⟨ht, hts⟩) t

/-- **Induction on trees side by side**, with a hypothesis for the children of the first tree and
one for the other trees. -/
@[elab_as_elim]
theorem forest_induction {motive : List Derivation → Prop} (nil : motive [])
    (cons : ∀ l w us ts, motive us → motive ts → motive (node l w us :: ts))
    (ts : List Derivation) : motive ts :=
  @Derivation.rec_1 (fun t => motive t.children) motive (fun _ _ _ h => h) nil
    (fun | node l w us, ts => cons l w us ts) ts

/-! ### Addresses -/

/-- The part of a tree at an address: the numbers of the children to go through, from the root
on. -/
def subtree? (t : Derivation) : List Nat → Option Derivation
  | [] => some t
  | i :: p => t.children[i]?.bind fun c => c.subtree? p

@[simp] theorem subtree?_nil (t : Derivation) : t.subtree? [] = some t := rfl

@[simp] theorem subtree?_cons (t : Derivation) (i : Nat) (p : List Nat) :
    t.subtree? (i :: p) = t.children[i]?.bind fun c => c.subtree? p := rfl

/-! ### Nodes in order -/

mutual

/-- The nodes of a tree with their addresses: the root, and then child by child what hangs below
it. -/
def nodes : Derivation → List (List Nat × Derivation)
  | node l w ts => ([], node l w ts) :: nodesFrom 0 ts

/-- The nodes of the children from number `i` on, with their addresses. -/
def nodesFrom (i : Nat) : List Derivation → List (List Nat × Derivation)
  | [] => []
  | t :: ts => t.nodes.map (fun n => (i :: n.1, n.2)) ++ nodesFrom (i + 1) ts

end

@[simp] theorem nodes_node (l : Label) (w : Option String) (ts : List Derivation) :
    (node l w ts).nodes = ([], node l w ts) :: nodesFrom 0 ts := rfl

@[simp] theorem nodesFrom_nil (i : Nat) : nodesFrom i [] = [] := rfl

@[simp] theorem nodesFrom_cons (i : Nat) (t : Derivation) (ts : List Derivation) :
    nodesFrom i (t :: ts) = t.nodes.map (fun n => (i :: n.1, n.2)) ++ nodesFrom (i + 1) ts := rfl

/-- A node below a root is a node of one of the children. -/
theorem mem_nodesFrom {i : Nat} {ts : List Derivation} {p : List Nat} {d : Derivation} :
    (p, d) ∈ nodesFrom i ts ↔
      ∃ j c q, ts[j]? = some c ∧ (q, d) ∈ c.nodes ∧ p = (i + j) :: q := by
  induction ts generalizing i with
  | nil => simp
  | cons t ts ih =>
    rw [nodesFrom_cons, List.mem_append, ih, List.mem_map]
    constructor
    · rintro (⟨⟨q, d'⟩, hq, heq⟩ | ⟨j, c, q, hc, hq, rfl⟩)
      · obtain ⟨rfl, rfl⟩ := Prod.mk.inj heq
        exact ⟨0, t, q, rfl, hq, rfl⟩
      · exact ⟨j + 1, c, q, hc, hq, by rw [Nat.add_right_comm, Nat.add_assoc]⟩
    · rintro ⟨_ | j, c, q, hc, hq, rfl⟩
      · obtain rfl : t = c := by simpa using hc
        exact .inl ⟨(q, d), hq, rfl⟩
      · exact .inr ⟨j, c, q, by simpa using hc, hq, by rw [Nat.add_right_comm, Nat.add_assoc]⟩

theorem mem_nodesFrom_zero {ts : List Derivation} {i : Nat} {p : List Nat} {d : Derivation} :
    (i :: p, d) ∈ nodesFrom 0 ts ↔ ∃ c, ts[i]? = some c ∧ (p, d) ∈ c.nodes := by
  rw [mem_nodesFrom]
  constructor
  · rintro ⟨j, c, q, hc, hq, heq⟩
    obtain ⟨rfl, rfl⟩ := List.cons.inj heq
    exact ⟨c, by rwa [Nat.zero_add], hq⟩
  · rintro ⟨c, hc, hp⟩
    exact ⟨i, c, p, hc, hp, by rw [Nat.zero_add]⟩

/-- **The nodes listed are those that have an address**, and each is what is found there. -/
theorem mem_nodes {t d : Derivation} {p : List Nat} :
    (p, d) ∈ t.nodes ↔ t.subtree? p = some d := by
  induction t generalizing p with
  | node l w ts ih =>
    rw [nodes_node, List.mem_cons]
    cases p with
    | nil =>
      have hbelow : ([], d) ∉ nodesFrom 0 ts := by
        rw [mem_nodesFrom]
        rintro ⟨j, c, q, -, -, hnil⟩
        cases hnil
      simp [hbelow, eq_comm]
    | cons i p =>
      rw [mem_nodesFrom_zero, subtree?_cons, Option.bind_eq_some_iff]
      simp only [Prod.mk.injEq, List.cons_ne_nil, false_and, false_or]
      refine exists_congr fun c => and_congr_right fun hc => ?_
      exact ih c (List.mem_of_getElem? hc)

/-- **The nodes are listed in the order of their addresses**: a node comes before those below it,
and what hangs below one child before what hangs below the next. -/
theorem pairwise_nodes (t : Derivation) : t.nodes.Pairwise fun m n => m.1 < n.1 := by
  induction t with
  | node l w ts ih =>
    rw [nodes_node, List.pairwise_cons]
    constructor
    · rintro ⟨p, d⟩ hp
      obtain ⟨j, c, q, -, -, rfl⟩ := mem_nodesFrom.mp hp
      exact List.nil_lt_cons _ _
    · generalize 0 = i
      induction ts generalizing i with
      | nil => exact .nil
      | cons t ts ih' =>
        obtain ⟨ht, hts⟩ := List.forall_mem_cons.mp ih
        rw [nodesFrom_cons, List.pairwise_append, List.pairwise_map]
        refine ⟨ht.imp fun h => List.cons_lt_cons_iff.mpr (.inr ⟨rfl, h⟩), ih' hts (i + 1), ?_⟩
        rintro _ hm ⟨p, d⟩ hp
        obtain ⟨n, -, rfl⟩ := List.mem_map.mp hm
        obtain ⟨j, c, q, -, -, rfl⟩ := mem_nodesFrom.mp hp
        exact List.cons_lt_cons_iff.mpr (.inl (by omega))

end Derivation
end Oracion
