import Oracion.Proofs.Decimal.Numerals
import Oracion.Proofs.Json.Recognition

/-!
# Documents are read as they were written

The reader undoes the writer, because the writer keeps to the grammar.  A literal holds
whatever characters its text has, since those that would end it, or break the line, are
escaped.  A number is its digits, of which the first is a zero only if it stands alone.

Numbers are written for counts and times only, so the documents here are those whose numbers
are natural.

## Main definitions

* `Written` — the documents whose numbers are natural.

## Main results

* `literal_renderText` — a text is written as a literal that stands for it.
* `spells_render` — a document is written by the grammar.
* `parse?_render` — **documents are read as they were written.**
* `le_toNat_of_mem_render` — **a document is written without controls**, so on one line.
-/

namespace Oracion
namespace Json

/-! ### String literals -/

theorem hexUnit?_hexDigit :
    ∀ n < 0x20, hexUnit? '0' '0' (hexDigit (n / 16)) (hexDigit (n % 16)) = some n := by
  decide

/-- A character that is no control, quote or backslash stands for itself. -/
theorem escape_eq_self {c : Char} (hquote : c ≠ '"') (hslash : c ≠ '\\')
    (hcontrol : 0x20 ≤ c.toNat) : escape c = [c] := by
  have hne : ∀ d : Char, d.toNat < 0x20 → c ≠ d := by
    rintro d hd rfl
    omega
  rw [escape, if_neg hquote, if_neg hslash, if_neg (hne '\x08' (by decide)),
    if_neg (hne '\x0c' (by decide)), if_neg (hne '\n' (by decide)), if_neg (hne '\r' (by decide)),
    if_neg (hne '\t' (by decide)), if_neg (Nat.not_lt.mpr hcontrol)]

/-- An escaped character stands for that character. -/
theorem Quoted.escape (c : Char) {cs : List Char} {us : List Unit16} (h : Quoted cs us) :
    Quoted (escape c ++ cs) (.char c :: us) := by
  by_cases hplain : c ≠ '"' ∧ c ≠ '\\' ∧ 0x20 ≤ c.toNat
  · obtain ⟨hquote, hslash, hcontrol⟩ := hplain
    rw [escape_eq_self hquote hslash hcontrol]
    exact .plain hquote hslash hcontrol h
  · unfold Json.escape
    -- seven characters are escaped by a letter
    iterate 7
      refine iteInduction (motive := fun ds => Quoted (ds ++ cs) _) (fun hc => ?_) fun _ => ?_
      · exact .letter (by rw [hc]; rfl) h
    refine iteInduction (motive := fun ds => Quoted (ds ++ cs) _) (fun hcontrol => ?_)
      fun hcontrol => ?_
    · -- a control without a letter of its own is escaped by its number
      have hunit : Unit16.ofNat c.toNat = .char c := by
        unfold Unit16.ofNat
        rw [if_neg (by omega), if_neg (by omega), Char.ofNat_toNat]
      rw [← hunit]
      exact .number (hexUnit?_hexDigit c.toNat hcontrol) h
    · exact absurd ⟨‹_›, ‹_›, Nat.not_lt.mp hcontrol⟩ hplain

theorem quoted_flatMap_escape (cs : List Char) : Quoted (cs.flatMap escape) (cs.map .char) := by
  induction cs with
  | nil => exact .nil
  | cons c cs ih =>
    rw [List.flatMap_cons, List.map_cons]
    exact ih.escape c

theorem joinUnits_map_char (cs : List Char) : joinUnits (cs.map .char) = some cs := by
  induction cs with
  | nil => rfl
  | cons c cs ih =>
    rw [List.map_cons, joinUnits, ih]
    rfl

/-- **A text is written as a literal that stands for it.** -/
theorem literal_renderText (t : Option String) : Literal (renderText t).toList t := by
  cases t with
  | none =>
    have hunit : hexUnit? 'd' '8' '0' '0' = some 0xD800 := by decide
    exact ⟨['\\', 'u', 'd', '8', '0', '0'], [.high 0xD800], .number hunit .nil,
      by simp [renderText], rfl⟩
  | some s =>
    refine ⟨s.toList.flatMap escape, s.toList.map .char, quoted_flatMap_escape _,
      by simp [renderText, quote], ?_⟩
    rw [joinUnits_map_char, Option.map_some, String.ofList_toList]

/-! ### Numerals -/

theorem numeral_toString (n : Nat) : Numeral (toString n).toList := by
  have hdigits : ∀ d ∈ (toString n).toList, d.isDigit = true :=
    fun d hd => Decimal.isDigit_of_mem_toString hd
  have hwhole : Whole (toString n).toList := by
    rcases Decimal.toString_head n with hzero | ⟨d, ds, hds, hd⟩
    · exact .inl hzero
    · rw [hds] at hdigits ⊢
      exact .inr ⟨⟨List.cons_ne_nil d ds, hdigits⟩, by simpa using hd⟩
  exact .inl ⟨_, [], [], hwhole, .inl rfl, .inl rfl, by simp⟩

/-! ### Documents -/

/-- The documents whose numbers are natural. -/
inductive Written : Json → Prop
  | null : Written null
  | bool (b : Bool) : Written (bool b)
  | nat (n : Nat) : Written (ofNat n)
  | str (t : Option String) : Written (str t)
  | arr {items : List Json} (items_written : ∀ j ∈ items, Written j) : Written (arr items)
  | obj {members : List (Option String × Json)} (values_written : ∀ m ∈ members, Written m.2) :
      Written (obj members)

theorem written_ofFields {fields : List (String × Json)} (h : ∀ f ∈ fields, f.2.Written) :
    (ofFields fields).Written := by
  apply Written.obj
  intro m hm
  obtain ⟨f, hf, rfl⟩ := List.mem_map.mp hm
  exact h f hf

theorem written_map {α : Type} {f : α → Json} (h : ∀ a, (f a).Written) (as : List α) :
    (arr (as.map f)).Written := by
  apply Written.arr
  intro j hj
  obtain ⟨a, -, rfl⟩ := List.mem_map.mp hj
  exact h a

theorem render_ofNat (n : Nat) : (ofNat n).render = toString n := by
  rw [ofNat, render]

theorem toList_render_arr (items : List Json) :
    (arr items).render.toList =
      '[' :: ((",".intercalate (renderItems items)).toList ++ [']']) := by
  simp [render]

theorem toList_render_obj (members : List (Option String × Json)) :
    (obj members).render.toList =
      '\x7b' :: ((",".intercalate (renderMembers members)).toList ++ ['\x7d']) := by
  simp [render]

theorem spells_renderItems {items : List Json} (hne : items ≠ [])
    (hitems : ∀ j ∈ items, Spells j.render.toList (.value j)) :
    Spells (",".intercalate (renderItems items)).toList (.items items) := by
  induction items with
  | nil => exact absurd rfl hne
  | cons j js ih =>
    obtain ⟨hj, hjs⟩ := List.forall_mem_cons.mp hitems
    cases js with
    | nil =>
      rw [renderItems, renderItems, String.intercalate_singleton]
      exact .item hj
    | cons j' js =>
      have htext : (",".intercalate (renderItems (j :: j' :: js))).toList =
          j.render.toList ++ ',' :: (",".intercalate (renderItems (j' :: js))).toList := by
        simp [renderItems]
      rw [htext]
      exact .items hj (ih (List.cons_ne_nil j' js) hjs)

theorem spells_renderMembers {members : List (Option String × Json)} (hne : members ≠ [])
    (hvalues : ∀ m ∈ members, Spells m.2.render.toList (.value m.2)) :
    Spells (",".intercalate (renderMembers members)).toList (.members members) := by
  induction members with
  | nil => exact absurd rfl hne
  | cons m ms ih =>
    obtain ⟨k, j⟩ := m
    obtain ⟨hj, hms⟩ := List.forall_mem_cons.mp hvalues
    cases ms with
    | nil =>
      have htext : (",".intercalate (renderMembers [(k, j)])).toList =
          [] ++ (renderText k).toList ++ [] ++ ':' :: j.render.toList := by
        simp [renderMembers]
      rw [htext]
      exact .member blank_nil (literal_renderText k) blank_nil hj
    | cons m' ms =>
      have htext : (",".intercalate (renderMembers ((k, j) :: m' :: ms))).toList =
          [] ++ (renderText k).toList ++ [] ++ ':' :: (j.render.toList ++ ',' ::
            (",".intercalate (renderMembers (m' :: ms))).toList) := by
        simp [renderMembers]
      rw [htext]
      exact .members blank_nil (literal_renderText k) blank_nil hj
        (ih (List.cons_ne_nil m' ms) hms)

/-- **A document is written by the grammar.** -/
theorem spells_render {j : Json} (h : Written j) : Spells j.render.toList (.value j) := by
  induction h with
  | null => simpa [render] using Spells.null
  | bool b =>
    cases b
    · simpa [render] using Spells.false
    · simpa [render] using Spells.true
  | nat n =>
    have hnum := Spells.num (numeral_toString n)
    rw [String.ofList_toList] at hnum
    rw [render_ofNat]
    exact hnum
  | str t =>
    rw [render]
    exact .str (literal_renderText t)
  | @arr items _ ih =>
    rw [toList_render_arr]
    cases items with
    | nil => exact .noItems blank_nil
    | cons j js => exact .arr (spells_renderItems (List.cons_ne_nil j js) ih)
  | @obj members _ ih =>
    rw [toList_render_obj]
    cases members with
    | nil => exact .noMembers blank_nil
    | cons m ms => exact .obj (spells_renderMembers (List.cons_ne_nil m ms) ih)

/-- **A document is read as it was written.** -/
theorem parse?_render {j : Json} (h : Written j) : parse? j.render = some j :=
  parse?_eq_some_iff.mpr (spells_render h)

/-! ### Documents stand on one line -/

/-- What holds of the characters of all parts, and of what is put between them, holds of all
characters. -/
theorem forall_mem_intercalate {p : Char → Prop} {sep : String} {parts : List String}
    (hsep : ∀ c ∈ sep.toList, p c) (hparts : ∀ s ∈ parts, ∀ c ∈ s.toList, p c) :
    ∀ c ∈ (sep.intercalate parts).toList, p c := by
  induction parts with
  | nil => simp
  | cons s parts ih =>
    obtain ⟨hs, hrest⟩ := List.forall_mem_cons.mp hparts
    cases parts with
    | nil => simpa using hs
    | cons s' parts =>
      intro c hc
      rw [String.intercalate_cons_cons, String.toList_append, String.toList_append,
        List.mem_append, List.mem_append] at hc
      rcases hc with (hc | hc) | hc
      · exact hs c hc
      · exact hsep c hc
      · exact ih hrest c hc

theorem le_toNat_of_all {cs : List Char} (h : cs.all (0x20 ≤ ·.toNat) = true) :
    ∀ c ∈ cs, 0x20 ≤ c.toNat := by
  intro c hc
  simpa using List.all_eq_true.mp h c hc

/-- No character is written as a control. -/
theorem le_toNat_of_mem_escape {c d : Char} (hd : d ∈ escape c) : 0x20 ≤ d.toNat := by
  by_cases hcontrol : c.toNat < 0x20
  · have hall : ∀ n < 0x20, (escape (Char.ofNat n)).all (0x20 ≤ ·.toNat) = true := by decide
    rw [← Char.ofNat_toNat c] at hd
    exact le_toNat_of_all (hall c.toNat hcontrol) d hd
  · -- of all others the quote and the backslash are written with a backslash
    by_cases hc : c = '"' ∨ c = '\\'
    · rcases hc with rfl | rfl
      · exact le_toNat_of_all (by decide) d hd
      · exact le_toNat_of_all (by decide) d hd
    · obtain ⟨hquote, hslash⟩ := not_or.mp hc
      rw [escape_eq_self hquote hslash (Nat.not_lt.mp hcontrol), List.mem_singleton] at hd
      rw [hd]
      exact Nat.not_lt.mp hcontrol

theorem le_toNat_of_mem_renderText {t : Option String} :
    ∀ c ∈ (renderText t).toList, 0x20 ≤ c.toNat := by
  cases t with
  | none => exact le_toNat_of_all (by decide)
  | some s =>
    intro c hc
    have hcases : c = '"' ∨ ∃ d ∈ s.toList, c ∈ escape d := by
      simpa [renderText, quote, or_comm, or_assoc] using hc
    rcases hcases with rfl | ⟨d, -, hd⟩
    · decide
    · exact le_toNat_of_mem_escape hd

theorem renderItems_eq_map (items : List Json) : renderItems items = items.map render := by
  induction items with
  | nil => rfl
  | cons j js ih => rw [renderItems, ih, List.map_cons]

theorem renderMembers_eq_map (members : List (Option String × Json)) :
    renderMembers members = members.map fun m => renderText m.1 ++ ":" ++ m.2.render := by
  induction members with
  | nil => rfl
  | cons m ms ih => rw [renderMembers, ih, List.map_cons]

/-- What is put between brackets and commas is written without controls if its parts are. -/
theorem le_toNat_of_mem_enclosed {first last : Char} {parts : List String}
    (hfirst : 0x20 ≤ first.toNat) (hlast : 0x20 ≤ last.toNat)
    (hparts : ∀ s ∈ parts, ∀ c ∈ s.toList, 0x20 ≤ c.toNat) :
    ∀ c ∈ first :: ((",".intercalate parts).toList ++ [last]), 0x20 ≤ c.toNat := by
  have hcomma : ∀ c ∈ ",".toList, 0x20 ≤ c.toNat := le_toNat_of_all (by decide)
  intro c hc
  rw [List.mem_cons, List.mem_append, List.mem_singleton] at hc
  rcases hc with rfl | hc | rfl
  · exact hfirst
  · exact forall_mem_intercalate hcomma hparts c hc
  · exact hlast

/-- **A document is written without controls**, so on one line. -/
theorem le_toNat_of_mem_render {j : Json} (h : Written j) :
    ∀ c ∈ j.render.toList, 0x20 ≤ c.toNat := by
  induction h with
  | null => simp [render]
  | bool b => cases b <;> simp [render]
  | nat n =>
    intro c hc
    rw [render_ofNat] at hc
    have hdigit := Char.isDigit_iff_toNat.mp (Decimal.isDigit_of_mem_toString hc)
    exact Nat.le_trans (by decide) hdigit.1
  | str t => exact le_toNat_of_mem_renderText
  | @arr items _ ih =>
    rw [toList_render_arr, renderItems_eq_map]
    refine le_toNat_of_mem_enclosed (by decide) (by decide) ?_
    intro s hs
    obtain ⟨j, hj, rfl⟩ := List.mem_map.mp hs
    exact ih j hj
  | @obj members _ ih =>
    rw [toList_render_obj, renderMembers_eq_map]
    refine le_toNat_of_mem_enclosed (by decide) (by decide) ?_
    intro s hs c hc
    obtain ⟨m, hm, rfl⟩ := List.mem_map.mp hs
    rw [String.toList_append, String.toList_append, List.mem_append, List.mem_append] at hc
    rcases hc with (hc | hc) | hc
    · exact le_toNat_of_mem_renderText c hc
    · obtain rfl : c = ':' := by simpa using hc
      decide
    · exact ih m hm c hc

end Json
end Oracion
