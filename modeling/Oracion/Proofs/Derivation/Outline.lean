import Oracion.Proofs.Chars.Cuts
import Oracion.Proofs.Derivation.Drawing

/-!
# A drawing determines its tree

A tree can be told from its drawing.  On each line the title starts at the first character that
no stem has, so the line says how deep its node hangs and what its title is, whatever the word in
the title holds.  The title says the label and the word.  And the depths of the nodes, in the order
in which a drawing lists them, say which node hangs below which: the children of a node are one
deeper, and the first node that is not deeper is past them.

## Main definitions

* `Derivation.outline` — the depths and the titles of the nodes, in order.
* `Derivation.readLine` — the depth and the title that a line shows.

## Main results

* `Derivation.title_inj` — the title of a node says its label and its word.
* `Derivation.outlineAll_append_inj` — **the depths and titles determine the trees.**
* `Derivation.readLine_line` — a line shows the depth and the title of its node.
* `Derivation.draw_determines_tree` — **a drawing determines its tree.**
-/

namespace Oracion

/-- All labels. -/
def Label.all : List Label :=
  [.sentence, .subject, .predicate, .complement] ++ Category.all.map Label.word

theorem Label.mem_all (l : Label) : l ∈ all := by
  cases l with
  | word c => cases c <;> decide
  | _ => decide

/-- No two labels have the same name. -/
theorem Label.name_inj {l m : Label} (h : l.name = m.name) : l = m := by
  have hall : ∀ l ∈ all, ∀ m ∈ all, l.name = m.name → l = m := by decide
  exact hall l (mem_all l) m (mem_all m) h

/-- The names are made of capitals. -/
theorem Label.isUpper_of_mem_name {l : Label} {c : Char} (h : c ∈ l.name.toList) :
    c.isUpper = true := by
  have hall : ∀ l ∈ all, l.name.toList.all Char.isUpper = true := by decide
  exact List.all_eq_true.mp (hall l (mem_all l)) c h

namespace Derivation

/-! ### Titles -/

theorem quoted_inj {w v : Option String} (h : quoted w = quoted v) : w = v := by
  cases w with
  | none =>
    cases v with
    | none => rfl
    | some v => cases h
  | some w =>
    cases v with
    | none => cases h
    | some v => simpa [quoted, String.toList_inj] using h

/-- The name of a label is the capitals that a title starts with. -/
theorem takeWhile_title (d : Derivation) :
    d.title.toList.takeWhile Char.isUpper = d.label.name.toList ∧
      d.title.toList.dropWhile Char.isUpper = quoted d.word := by
  rw [toList_title]
  apply Chars.takeWhile_dropWhile_append
  · intro c hc
    exact Label.isUpper_of_mem_name hc
  · intro c hc
    cases hw : d.word with
    | none =>
      rw [hw] at hc
      cases hc
    | some w =>
      rw [hw] at hc
      obtain rfl := Option.some.inj hc
      decide

/-- **The title of a node says its label and its word.** -/
theorem title_inj {d e : Derivation} (h : d.title = e.title) :
    d.label = e.label ∧ d.word = e.word := by
  obtain ⟨hd, hd'⟩ := takeWhile_title d
  obtain ⟨he, he'⟩ := takeWhile_title e
  rw [h] at hd hd'
  exact ⟨Label.name_inj (String.toList_inj.mp (hd.symm.trans he)), quoted_inj (hd'.symm.trans he')⟩

/-! ### Outlines -/

mutual

/-- The depths and the titles of the nodes of a tree whose root is at a given depth, each node
before those below it. -/
def outline (depth : Nat) : Derivation → List (Nat × String)
  | node l w ts => (depth, (node l w ts).title) :: outlineAll (depth + 1) ts

/-- The same for trees side by side. -/
def outlineAll (depth : Nat) : List Derivation → List (Nat × String)
  | [] => []
  | t :: ts => t.outline depth ++ outlineAll depth ts

end

/-- Rows that do not go on at a depth: the first of them, if there is one, is not as deep. -/
def Leaves (depth : Nat) (rows : List (Nat × String)) : Prop := ∀ r ∈ rows.head?, r.1 < depth

theorem Leaves.outlineAll {depth : Nat} {rows : List (Nat × String)} (h : Leaves depth rows)
    (ts : List Derivation) : Leaves (depth + 1) (outlineAll depth ts ++ rows) := by
  intro r hr
  cases ts with
  | nil =>
    have hlt : r.1 < depth := h r hr
    omega
  | cons t ts =>
    obtain ⟨l, w, us⟩ := t
    obtain rfl := Option.some.inj hr
    exact Nat.lt_succ_self depth

/-- Trees side by side have no row where the rows leave their depth. -/
theorem eq_nil_of_leaves {depth : Nat} {rows rest : List (Nat × String)} {ts : List Derivation}
    (h : Leaves depth rows) (heq : rows = outlineAll depth ts ++ rest) : ts = [] := by
  cases ts with
  | nil => rfl
  | cons t ts =>
    obtain ⟨l, w, us⟩ := t
    have hlt : depth < depth := h (depth, (node l w us).title) (by rw [heq]; rfl)
    omega

/-- **The depths and titles determine the trees.**  Trees side by side can be told from their rows,
if the rows after them are not as deep. -/
theorem outlineAll_append_inj {depth : Nat} {ts us : List Derivation}
    {rows rows' : List (Nat × String)} (hrows : Leaves depth rows) (hrows' : Leaves depth rows')
    (h : outlineAll depth ts ++ rows = outlineAll depth us ++ rows') : ts = us ∧ rows = rows' := by
  induction ts using forest_induction generalizing depth us rows rows' with
  | nil =>
    obtain rfl := eq_nil_of_leaves hrows h
    exact ⟨rfl, h⟩
  | cons l w cs ts ihc ih =>
    cases us with
    | nil => exact absurd (eq_nil_of_leaves hrows' h.symm) (List.cons_ne_nil _ _)
    | cons u us =>
      obtain ⟨l', w', cs'⟩ := u
      simp only [outlineAll, outline, List.cons_append, List.append_assoc, List.cons.injEq,
        Prod.mk.injEq, true_and] at h
      obtain ⟨htitle, hrest⟩ := h
      obtain ⟨rfl, rfl⟩ : l = l' ∧ w = w' := title_inj htitle
      -- the children are one deeper than what follows them
      obtain ⟨rfl, hsiblings⟩ := ihc (hrows.outlineAll ts) (hrows'.outlineAll us) hrest
      obtain ⟨rfl, rfl⟩ := ih hrows hrows' hsiblings
      exact ⟨rfl, rfl⟩

/-- A node below a root is as deep as its address is long. -/
theorem map_nodesFrom_eq_outlineAll (i depth : Nat) (ts : List Derivation) :
    (nodesFrom i ts).map (fun n => (depth + n.1.length, n.2.title)) =
      outlineAll (depth + 1) ts := by
  induction ts using forest_induction generalizing i depth with
  | nil => rfl
  | cons l w us ts ihu ih =>
    have hbelow : (nodesFrom 0 us).map (fun n => (depth + (n.1.length + 1), n.2.title)) =
        outlineAll (depth + 1 + 1) us := by
      rw [← ihu 0 (depth + 1)]
      apply List.map_congr_left
      intro n _
      have hdepth : depth + (n.1.length + 1) = depth + 1 + n.1.length := by omega
      rw [hdepth]
    rw [nodesFrom_cons, List.map_append, ih (i + 1) depth, outlineAll, outline, ← hbelow]
    simp only [nodes_node, List.map_cons, List.map_map]
    rfl

/-- **The outline of a tree can be read off its nodes.** -/
theorem map_nodes_eq_outline (t : Derivation) :
    t.nodes.map (fun n => (n.1.length, n.2.title)) = t.outline 0 := by
  obtain ⟨l, w, ts⟩ := t
  rw [nodes_node, List.map_cons, outline, ← map_nodesFrom_eq_outlineAll 0 0 ts]
  simp only [Nat.zero_add]
  rfl

/-! ### Reading a drawing -/

/-- The depth and the title that a line shows: the title starts at the first character that no
stem has, and each step down takes four characters. -/
def readLine (line : String) : Nat × String :=
  ((line.toList.takeWhile (· ∈ frame)).length / 4,
    String.ofList (line.toList.dropWhile (· ∈ frame)))

theorem length_stem (t : Derivation) {p : List Nat} (hp : p ≠ []) :
    (t.stem p).toList.length = 4 * p.length := by
  have hcolumn : ∀ a, (t.column a).toList.length = 4 := fun a => (toList_column t a).1
  have hbetween : (between p).length = p.length - 1 := by simp [between]
  have hpos : 0 < p.length := List.length_pos_iff.mpr hp
  rw [toList_stem, List.length_append, List.length_flatMap, (toList_arm t p).1]
  simp only [hcolumn, List.map_const', List.sum_replicate_nat, hbetween]
  omega

/-- No title starts with a character that stems are made of. -/
theorem notMem_frame_of_head?_title {d : Derivation} {c : Char} (hc : c ∈ d.title.toList.head?) :
    c ∉ frame := by
  have hall : ∀ l ∈ Label.all, l.name.toList ≠ [] := by decide
  have hframe : frame.all (fun c => !c.isUpper) = true := by decide
  have hname : d.label.name.toList ≠ [] := hall d.label (Label.mem_all _)
  rw [toList_title, List.head?_append_of_ne_nil _ hname] at hc
  have hupper : c.isUpper = true := Label.isUpper_of_mem_name (List.mem_of_mem_head? hc)
  intro hmem
  simpa [hupper] using List.all_eq_true.mp hframe c hmem

/-- **A line shows the depth and the title of its node.** -/
theorem readLine_line (t d : Derivation) (p : List Nat) :
    readLine (t.line p d) = (p.length, d.title) := by
  have htitle : ∀ c ∈ d.title.toList.head?, decide (c ∈ frame) = false := fun c hc =>
    decide_eq_false (notMem_frame_of_head?_title hc)
  rw [readLine, line]
  split
  · next hp =>
    obtain ⟨htake, hdrop⟩ := Chars.takeWhile_dropWhile_append (List.forall_mem_nil _) htitle
    rw [List.nil_append] at htake hdrop
    rw [htake, hdrop, hp, String.ofList_toList]
    rfl
  · next hp =>
    have hstem : ∀ c ∈ (t.stem p).toList, decide (c ∈ frame) = true := fun c hc =>
      decide_eq_true (mem_frame_of_mem_stem hc)
    obtain ⟨htake, hdrop⟩ := Chars.takeWhile_dropWhile_append hstem htitle
    rw [String.toList_append, htake, hdrop, length_stem t hp, String.ofList_toList,
      Nat.mul_div_cancel_left _ (by decide)]

/-- **A drawing determines its tree.**  Two trees without line feeds in their words have the same
drawing only if they are the same, whatever else the words hold and wherever they stand. -/
theorem draw_determines_tree {t u : Derivation} (ht : t.OneLine) (hu : u.OneLine) :
    t.draw = u.draw ↔ t = u := by
  constructor
  · intro h
    have hlines : t.nodes.map (fun n => t.line n.1 n.2) = u.nodes.map fun n => u.line n.1 n.2 := by
      rw [← split_draw ht, ← split_draw hu, h]
    have hrows := congrArg (List.map readLine) hlines
    simp only [List.map_map, Function.comp_def, readLine_line, map_nodes_eq_outline] at hrows
    have houtline : outlineAll 0 [t] ++ [] = outlineAll 0 [u] ++ [] := by
      simpa [outlineAll] using hrows
    have hnone : Leaves 0 [] := nofun
    obtain ⟨hforest, -⟩ := outlineAll_append_inj hnone hnone houtline
    exact List.singleton_inj.mp hforest
  · rintro rfl
    rfl

/-- A tree with a child, and one without whose word looks like the line of the child. -/
theorem draw_determines_tree_of_disguise :
    let t := node .sentence (some "a") [node .subject none []]
    let u := node .sentence (some "a\"└── SUBJECT") []
    t.OneLine ∧ u.OneLine ∧ t.draw ≠ u.draw := by
  intro t u
  have ht : t.OneLine := by decide
  have hu : u.OneLine := by decide
  refine ⟨ht, hu, ?_⟩
  rw [Ne, draw_determines_tree ht hu]
  simp [t, u]

end Derivation
end Oracion
