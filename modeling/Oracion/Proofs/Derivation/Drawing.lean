import Mathlib.Data.List.Infix
import Oracion.Proofs.Derivation.Nodes

/-!
# The lines of a drawing

A drawing is made by going down the tree with an indent that grows.  What comes out can be said
without going anywhere: there is one line for each node, and what stands on it is known from the
address of the node.  In front of the title there is a column for each ancestor but the root,
which shows a bar if a sibling of the ancestor is still to come, and then the arm from which the
node hangs.

## Main definitions

* `Derivation.hasLater` — whether a node has a sibling after it.
* `Derivation.between` — the ancestors of a node without the root.
* `Derivation.stem`, `Derivation.line` — what stands in front of a node, and the whole line.
* `Derivation.OneLine` — no word of a tree has a line feed in it.

## Main results

* `Derivation.drawBelow_eq_map` — what is drawn below a root is the lines of its nodes.
* `Derivation.split_draw` — the lines of a drawing fall apart where they were put together.
* `Derivation.draw_lists_nodes` — **a drawing has a line for each node, in order.**
-/

namespace Oracion
namespace Derivation

variable {t c : Derivation} {i : Nat} {p a : List Nat}

/-! ### Stems -/

/-- Whether the node at an address has a sibling after it.  The root has none. -/
def hasLater (t : Derivation) (p : List Nat) : Bool :=
  match p.getLast? with
  | none => false
  | some i => (t.subtree? (p.dropLast ++ [i + 1])).isSome

/-- The addresses between the root and a node, from the outside in: those of the ancestors of the
node, without the root and without the node itself. -/
def between (p : List Nat) : List (List Nat) := p.inits.tail.dropLast

/-- What the lines below a node show of it: a bar if a sibling is still to come. -/
def column (t : Derivation) (p : List Nat) : String := if t.hasLater p then "│   " else "    "

/-- What a node hangs from: a tee if a sibling is still to come, or else a corner. -/
def arm (t : Derivation) (p : List Nat) : String := if t.hasLater p then "├── " else "└── "

/-- What stands in front of a node below the root: the columns of its ancestors without the root,
and its arm. -/
def stem (t : Derivation) (p : List Nat) : String :=
  String.join ((between p).map t.column) ++ t.arm p

/-- The line of the node `d` at the address `p`: its title, after its stem if it is not the
root. -/
def line (t : Derivation) (p : List Nat) (d : Derivation) : String :=
  if p = [] then d.title else t.stem p ++ d.title

theorem hasLater_singleton (t : Derivation) (i : Nat) :
    t.hasLater [i] = t.children[i + 1]?.isSome := by
  simp [hasLater]

/-- Whether a node has a sibling after it can be seen from any tree that it hangs in. -/
theorem hasLater_cons (hc : t.children[i]? = some c) (hp : p ≠ []) :
    t.hasLater (i :: p) = c.hasLater p := by
  obtain ⟨q, j, rfl⟩ : ∃ q j, p = q ++ [j] :=
    ⟨p.dropLast, p.getLast hp, (List.dropLast_append_getLast hp).symm⟩
  rw [← List.cons_append, hasLater, hasLater, List.getLast?_concat, List.getLast?_concat,
    List.dropLast_concat, List.dropLast_concat]
  simp [hc]

theorem between_cons (i : Nat) (hp : p ≠ []) :
    between (i :: p) = [i] :: (between p).map (i :: ·) := by
  obtain ⟨j, p, rfl⟩ := List.exists_cons_of_ne_nil hp
  have hne : p.inits ≠ [] := by
    cases p <;> simp
  simp [between, List.dropLast_cons_of_ne_nil, hne, List.map_dropLast]

theorem ne_nil_of_mem_between (h : a ∈ between p) : a ≠ [] := by
  cases p with
  | nil => cases h
  | cons i p =>
    rintro rfl
    have hmem : [] ∈ (i :: p).inits.tail := List.mem_of_mem_dropLast h
    simp at hmem

theorem stem_singleton (t : Derivation) (i : Nat) : t.stem [i] = t.arm [i] := by
  simp [stem, between]

/-- A node that hangs below a child has the stem that it has there, after the column of the
child. -/
theorem stem_cons (hc : t.children[i]? = some c) (hp : p ≠ []) :
    t.stem (i :: p) = t.column [i] ++ c.stem p := by
  have hcolumns : ((between p).map (i :: ·)).map t.column = (between p).map c.column := by
    rw [List.map_map]
    apply List.map_congr_left
    intro a ha
    show t.column (i :: a) = c.column a
    rw [column, column, hasLater_cons hc (ne_nil_of_mem_between ha)]
  have harm : t.arm (i :: p) = c.arm p := by
    rw [arm, arm, hasLater_cons hc hp]
  rw [stem, stem, between_cons i hp, List.map_cons, hcolumns, harm, String.join_cons,
    String.append_assoc]

/-! ### The drawing, node by node -/

theorem ne_nil_of_mem_nodesFrom {ts : List Derivation} {n : List Nat × Derivation}
    (h : n ∈ nodesFrom i ts) : n.1 ≠ [] := by
  obtain ⟨j, c, q, -, -, hp⟩ := mem_nodesFrom.mp h
  rw [hp]
  exact List.cons_ne_nil _ _

/-- The lines of the nodes of a child: that of the child itself, and then those that it has as a
tree of its own, one column further in. -/
theorem map_nodes_of_child (hc : t.children[i]? = some c) (indent : String) :
    (c.nodes.map fun n => indent ++ t.stem (i :: n.1) ++ n.2.title) =
      (indent ++ t.arm [i] ++ c.title) ::
        (nodesFrom 0 c.children).map fun n =>
          indent ++ t.column [i] ++ c.stem n.1 ++ n.2.title := by
  obtain ⟨l, w, ts⟩ := c
  rw [nodes_node, List.map_cons, stem_singleton]
  show _ :: _ = _ :: (nodesFrom 0 ts).map _
  congr 1
  apply List.map_congr_left
  intro n hn
  rw [stem_cons hc (ne_nil_of_mem_nodesFrom hn), ← String.append_assoc]

/-- The children from number `i` on are drawn as their nodes are, if each child is. -/
theorem drawAll_eq_map (indent : String) (i : Nat) {ts : List Derivation}
    (hts : t.children.drop i = ts)
    (ih : ∀ c ∈ ts, ∀ indent, c.drawBelow indent =
      (nodesFrom 0 c.children).map fun n => indent ++ c.stem n.1 ++ n.2.title) :
    drawAll indent ts = (nodesFrom i ts).map fun n => indent ++ t.stem n.1 ++ n.2.title := by
  induction ts generalizing i with
  | nil => rfl
  | cons c ts ih' =>
    obtain ⟨hdraw, hdraws⟩ := List.forall_mem_cons.mp ih
    have hc : t.children[i]? = some c := by
      rw [← List.head?_drop, hts, List.head?_cons]
    have hrest : t.children.drop (i + 1) = ts := by
      rw [← List.tail_drop, hts, List.tail_cons]
    have hlater : t.hasLater [i] = !ts.isEmpty := by
      rw [hasLater_singleton, ← List.head?_drop, hrest]
      cases ts <;> rfl
    have hconnector : (if ts.isEmpty then "└── " else "├── ") = t.arm [i] := by
      rw [arm, hlater]
      cases ts <;> rfl
    have hextension : (if ts.isEmpty then "    " else "│   ") = t.column [i] := by
      rw [column, hlater]
      cases ts <;> rfl
    rw [nodesFrom_cons, List.map_append, List.map_map, ← ih' (i + 1) hrest hdraws]
    show _ = (c.nodes.map fun n => indent ++ t.stem (i :: n.1) ++ n.2.title) ++ _
    rw [map_nodes_of_child hc, ← hdraw, ← hconnector, ← hextension]
    rfl

/-- **What is drawn below a root is the lines of its nodes**, each after the indent. -/
theorem drawBelow_eq_map (t : Derivation) (indent : String) :
    t.drawBelow indent =
      (nodesFrom 0 t.children).map fun n => indent ++ t.stem n.1 ++ n.2.title := by
  induction t generalizing indent with
  | node l w ts ih =>
    exact drawAll_eq_map indent 0 (List.drop_zero) fun c hc indent => ih c hc indent

/-- **A drawing is the lines of the nodes**, one under the other. -/
theorem draw_eq_joinLines (t : Derivation) :
    t.draw = Text.joinLines (t.nodes.map fun n => t.line n.1 n.2) := by
  have hbelow : (nodesFrom 0 t.children).map (fun n => t.line n.1 n.2) = t.drawBelow "" := by
    rw [drawBelow_eq_map]
    apply List.map_congr_left
    intro n hn
    rw [line, if_neg (ne_nil_of_mem_nodesFrom hn), String.empty_append]
  obtain ⟨l, w, ts⟩ := t
  rw [draw, nodes_node, List.map_cons, ← hbelow]
  rfl

/-! ### Splitting a drawing -/

/-- The characters that stems are made of. -/
def frame : List Char := [' ', '│', '├', '└', '─']

theorem toList_column (t : Derivation) (p : List Nat) :
    (t.column p).toList.length = 4 ∧ (t.column p).toList ⊆ frame := by
  rw [column]
  split <;> decide

theorem toList_arm (t : Derivation) (p : List Nat) :
    (t.arm p).toList.length = 4 ∧ (t.arm p).toList ⊆ frame := by
  rw [arm]
  split <;> decide

theorem toList_stem (t : Derivation) (p : List Nat) :
    (t.stem p).toList = (between p).flatMap (fun a => (t.column a).toList) ++ (t.arm p).toList := by
  simp [stem, String.toList_join, List.flatMap_map]

theorem mem_frame_of_mem_stem {c : Char} (h : c ∈ (t.stem p).toList) : c ∈ frame := by
  rw [toList_stem, List.mem_append, List.mem_flatMap] at h
  rcases h with ⟨a, -, hc⟩ | hc
  · exact (toList_column t a).2 hc
  · exact (toList_arm t p).2 hc

/-- No word of the tree has a line feed in it. -/
def OneLine (t : Derivation) : Prop := ∀ n ∈ t.nodes, ∀ w ∈ n.2.word, '\n' ∉ w.toList

instance (t : Derivation) : Decidable t.OneLine :=
  inferInstanceAs (Decidable (∀ n ∈ t.nodes, ∀ w ∈ n.2.word, '\n' ∉ w.toList))

/-- What follows the name of the label in a title: the word in quotes, if there is one. -/
def quoted : Option String → List Char
  | none => []
  | some w => ':' :: ' ' :: '"' :: (w.toList ++ ['"'])

theorem toList_title (d : Derivation) : d.title.toList = d.label.name.toList ++ quoted d.word := by
  obtain ⟨l, w, ts⟩ := d
  cases w with
  | none => simp [title, label, word, quoted]
  | some w => simp [title, label, word, quoted]

theorem lineFeed_notMem_title {d : Derivation} (h : ∀ w ∈ d.word, '\n' ∉ w.toList) :
    '\n' ∉ d.title.toList := by
  have hname : '\n' ∉ d.label.name.toList := by
    cases d.label with
    | word c => cases c <;> decide
    | _ => decide
  rw [toList_title, List.mem_append, not_or]
  refine ⟨hname, ?_⟩
  cases hw : d.word with
  | none => exact List.not_mem_nil
  | some w => simp [quoted, h w hw]

theorem lineFeed_notMem_line {d : Derivation} (h : ∀ w ∈ d.word, '\n' ∉ w.toList) :
    '\n' ∉ (t.line p d).toList := by
  have hstem : '\n' ∉ (t.stem p).toList := by
    intro hmem
    exact absurd (mem_frame_of_mem_stem hmem) (by decide)
  rw [line]
  split
  · exact lineFeed_notMem_title h
  · rw [String.toList_append, List.mem_append, not_or]
    exact ⟨hstem, lineFeed_notMem_title h⟩

/-- **The lines of a drawing fall apart where they were put together**, if no word has a line feed
in it. -/
theorem split_draw (h : t.OneLine) :
    (t.draw.split '\n').toList.map (·.copy) = t.nodes.map fun n => t.line n.1 n.2 := by
  have hfree : ∀ l ∈ t.nodes.map fun n => t.line n.1 n.2, '\n' ∉ l.toList := by
    intro l hl
    obtain ⟨n, hn, rfl⟩ := List.mem_map.mp hl
    exact lineFeed_notMem_line (h n hn)
  have hne : (t.nodes.map fun n => t.line n.1 n.2) ≠ [] := by
    cases t
    simp
  rw [draw_eq_joinLines]
  exact (String.toList_split_intercalate hfree).trans (if_neg hne)

/-- **A drawing has a line for each node, in order.**  If no word has a line feed in it, the lines
of a drawing are those of the nodes, and each is known from the address of its node.  The nodes
are all that have an address, and they come in the order of their addresses: a node before those
below it, and what hangs below one child before what hangs below the next. -/
theorem draw_lists_nodes (t : Derivation) (h : t.OneLine) :
    (t.draw.split '\n').toList.map (·.copy) = (t.nodes.map fun n => t.line n.1 n.2) ∧
      (∀ p d, (p, d) ∈ t.nodes ↔ t.subtree? p = some d) ∧
      t.nodes.Pairwise fun m n => m.1 < n.1 :=
  ⟨split_draw h, fun _ _ => mem_nodes, pairwise_nodes t⟩

/-- A tree with words on nodes that have children, among them signs of a drawing. -/
theorem draw_lists_nodes_of_deep :
    let t := node .sentence none
      [node .subject (some "└── ") [node (.word .noun) none [node (.word .verb) (some "\r") []]],
        node .predicate none [node .complement none []]]
    t.OneLine ∧ (t.draw.split '\n').toList.map (·.copy) =
      ["SENTENCE", "├── SUBJECT: \"└── \"", "│   └── NOUN", "│       └── VERB: \"\r\"",
        "└── PREDICATE", "    └── COMPLEMENT"] := by
  intro t
  have ht : t.OneLine := by decide
  exact ⟨ht, (draw_lists_nodes t ht).1.trans (by decide)⟩

end Derivation
end Oracion
