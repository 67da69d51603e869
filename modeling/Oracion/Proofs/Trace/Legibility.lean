import Mathlib.Data.List.DropRight
import Mathlib.Data.List.Forall2
import Oracion.Proofs.Chars.Cuts
import Oracion.Proofs.Decimal.Numerals
import Oracion.Trace.Layout

/-!
# Reading a trace

The text of a trace is for people, but a machine can read it too.  The way in which the text of an
event starts tells what kind of event it is: none of these openings is the beginning of another.
The rest is numbers and names, each of which ends where another kind of character comes; only the
text that an analysis is about can hold anything, and it stands between two fixed texts.  In front
of all that there are blanks, with which no event starts, and the number of the record in brackets,
which may be wider than its column.

So a line that shows no time can be read back, whatever layout it has, and a list of lines, if no
event has a line feed in it.

## Main definitions

* `Form`, `Event.form`, `forms` — the openings of events, and how what follows them is read.
* `Event.details` — what follows the opening.
* `endsRun` — where digits, capitals or blanks come to their end.
* `Event.read?`, `Layout.read?` — the event that a text tells, and the record that a line shows.
* `Layout.Alike` — two records that a layout without times does not tell apart.

## Main results

* `Event.render_eq` — the text of an event is its opening and its details.
* `read?_of_mem_forms` — the opening of a text decides how it is read.
* `span_append` — what is of one kind of characters is told from what follows.
* `Event.read?_render` — **the text of an event is read back.**
* `Layout.read?_line` — **the line of a record is read back**, up to what the layout leaves out.
* `Layout.map_read?_text` — the lines of a trace are read back one by one.
* `text_is_unambiguous` — **lines and lists of lines tell records apart.**
-/

namespace Oracion

/-! ### Names -/

/-- The category with a name. -/
def Category.ofName? (name : List Char) : Option Category :=
  all.find? fun c => c.name.toList == name

theorem Category.ofName?_name (c : Category) : ofName? c.name.toList = some c := by
  cases c <;> decide

/-- The names of categories are made of capitals. -/
theorem Category.isUpper_of_mem_name {c : Category} {d : Char} (h : d ∈ c.name.toList) :
    d.isUpper = true := by
  have hall : ∀ c ∈ all, c.name.toList.all Char.isUpper = true := by decide
  exact List.all_eq_true.mp (hall c (mem_all c)) d h

namespace Trace

/-- The rule with a symbol. -/
def Production.ofSymbol? (symbol : List Char) : Option Production :=
  [sentence, subject, predicate, complement].find? fun p => p.symbol.toList == symbol

theorem Production.ofSymbol?_symbol (p : Production) : ofSymbol? p.symbol.toList = some p := by
  cases p <;> decide

/-- The symbols of rules have no blank in them. -/
theorem Production.ne_blank_of_mem_symbol {p : Production} {d : Char} (h : d ∈ p.symbol.toList) :
    (d != ' ') = true := by
  have hall : p.symbol.toList.all (· != ' ') = true := by cases p <;> decide
  exact List.all_eq_true.mp hall d h

/-! ### The forms of events -/

/-- The number that a text starts with. -/
def leadingNumber (cs : List Char) : Nat := Decimal.value (cs.takeWhile Char.isDigit)

/-- A way in which the text of an event can start, and how the rest of it is read. -/
structure Form where
  /-- How the text starts. -/
  opening : String
  /-- The event that the rest tells. -/
  read? : List Char → Option Event

/-- The form of an event. -/
def Event.form : Event → Form
  | analysisStart _ =>
      ⟨"=== ANALYZE '", fun cs =>
        some (analysisStart (String.ofList (cs.rdrop "' ===".toList.length)))⟩
  | tokenized _ => ⟨"tokenized into ", fun cs => some (tokenized (leadingNumber cs))⟩
  | lexicalGate 0 => ⟨"lexical gate passed", fun _ => some (lexicalGate 0)⟩
  | lexicalGate (_ + 1) =>
      ⟨"lexical gate FAILED (", fun cs => some (lexicalGate (leadingNumber cs))⟩
  | productionEnter _ => ⟨">> ", fun cs => (Production.ofSymbol? cs).map productionEnter⟩
  | productionExit .. =>
      ⟨"<< ", fun cs =>
        (Production.ofSymbol? (cs.takeWhile (· != ' '))).map fun p =>
          productionExit p (cs.dropWhile (· != ' ') == " OK".toList)⟩
  | matched .. =>
      ⟨"match ", fun cs =>
        (Category.ofName? (cs.takeWhile Char.isUpper)).map fun c =>
          matched c (leadingNumber ((cs.dropWhile Char.isUpper).drop " @".toList.length))⟩
  | mismatch .. =>
      ⟨"MISMATCH @", fun cs =>
        let names := (cs.dropWhile Char.isDigit).drop ": wanted ".toList.length
        (Category.ofName? (names.takeWhile Char.isUpper)).bind fun expected =>
          (Category.ofName? ((names.dropWhile Char.isUpper).drop ", saw ".toList.length)).map
            fun found => mismatch expected found (leadingNumber cs)⟩
  | trailingTokens _ =>
      ⟨"TRAILING tokens from @", fun cs => some (trailingTokens (leadingNumber cs))⟩
  | analysisEnd true => ⟨"=== VALID ===", fun _ => some (analysisEnd true)⟩
  | analysisEnd false => ⟨"=== INVALID ===", fun _ => some (analysisEnd false)⟩

/-- The text of an event without the opening of its form. -/
def Event.details : Event → String
  | analysisStart source => source ++ "' ==="
  | tokenized count => toString count ++ " tokens"
  | lexicalGate 0 => ""
  | lexicalGate (n + 1) => toString (n + 1) ++ " unknown)"
  | productionEnter p => p.symbol
  | productionExit p success => p.symbol ++ (if success then " OK" else " FAILED")
  | matched category position => category.name ++ (" @" ++ toString position)
  | mismatch expected found position =>
      toString position ++ (": wanted " ++ (expected.name ++ (", saw " ++ found.name)))
  | trailingTokens position => toString position
  | analysisEnd _ => ""

/-- **The text of an event is the opening of its form and its details.** -/
theorem Event.render_eq (e : Event) : e.render = e.form.opening ++ e.details := by
  cases e with
  | analysisStart source => exact String.append_assoc
  | tokenized n => exact String.append_assoc
  | lexicalGate n =>
    cases n with
    | zero => rfl
    | succ n => exact String.append_assoc
  | productionEnter p => rfl
  | productionExit p success => exact String.append_assoc
  | matched c n =>
    show "match " ++ c.name ++ " @" ++ toString n = "match " ++ (c.name ++ (" @" ++ toString n))
    rw [String.append_assoc, String.append_assoc]
  | mismatch c d n =>
    show "MISMATCH @" ++ toString n ++ ": wanted " ++ c.name ++ ", saw " ++ d.name =
      "MISMATCH @" ++ (toString n ++ (": wanted " ++ (c.name ++ (", saw " ++ d.name))))
    rw [String.append_assoc, String.append_assoc, String.append_assoc, String.append_assoc]
  | trailingTokens n => rfl
  | analysisEnd valid => cases valid <;> rfl

/-- The forms that events have, each of them once. -/
def forms : List Form :=
  [Event.analysisStart "", .tokenized 0, .lexicalGate 0, .lexicalGate 1,
    .productionEnter .sentence, .productionExit .sentence true, .matched .noun 0,
    .mismatch .noun .noun 0, .trailingTokens 0, .analysisEnd true,
    .analysisEnd false].map Event.form

theorem form_mem_forms (e : Event) : e.form ∈ forms := by
  rcases e with _ | _ | (_ | _) | _ | _ | _ | _ | _ | (_ | _) <;> simp [forms, Event.form]

/-- The event that a text tells: the form is that of its opening. -/
def Event.read? (cs : List Char) : Option Event :=
  (forms.find? fun f => f.opening.toList.isPrefixOf cs).bind fun f =>
    f.read? (cs.drop f.opening.toList.length)

/-- No opening is the beginning of another. -/
theorem pairwise_forms :
    forms.Pairwise fun f g =>
      ¬ f.opening.toList <+: g.opening.toList ∧ ¬ g.opening.toList <+: f.opening.toList := by
  decide

/-- **The opening of a text decides how it is read.** -/
theorem read?_of_mem_forms {f : Form} (hf : f ∈ forms) (details : List Char) :
    Event.read? (f.opening.toList ++ details) = f.read? details := by
  have hfind : forms.find? (fun g => g.opening.toList.isPrefixOf (f.opening.toList ++ details)) =
      some f := by
    obtain ⟨fs, gs, hforms⟩ := List.append_of_mem hf
    have hapart := pairwise_forms
    rw [hforms, List.pairwise_append] at hapart
    rw [List.find?_eq_some_iff_append]
    refine ⟨List.isPrefixOf_iff_prefix.mpr (List.prefix_append _ _), fs, gs, hforms, ?_⟩
    intro g hg
    obtain ⟨hgf, hfg⟩ := hapart.2.2 g hg f List.mem_cons_self
    -- two beginnings of one text are beginnings one of the other
    simp only [Bool.not_eq_true', ← Bool.not_eq_true, List.isPrefixOf_iff_prefix]
    intro hg'
    rcases List.prefix_or_prefix_of_prefix hg' (List.prefix_append _ _) with h | h
    · exact hgf h
    · exact hfg h
  rw [Event.read?, hfind, Option.bind_some, List.drop_left]

/-! ### Events -/

/-- Whether a run of characters of a kind ends where a text starts. -/
def endsRun (p : Char → Bool) (s : String) : Bool := s.toList.head?.all fun c => !p c

theorem endsRun_append {s : String} (hs : s ≠ "") (p : Char → Bool) (t : String) :
    endsRun p (s ++ t) = endsRun p s := by
  have hne : s.toList ≠ [] := by simpa using hs
  rw [endsRun, endsRun, String.toList_append, List.head?_append_of_ne_nil _ hne]

/-- What is of one kind is told from what follows it. -/
theorem span_append {p : Char → Bool} {s rest : String} (hs : ∀ c ∈ s.toList, p c = true)
    (hrest : endsRun p rest = true) :
    (s ++ rest).toList.takeWhile p = s.toList ∧ (s ++ rest).toList.dropWhile p = rest.toList := by
  have hhead : ∀ c ∈ rest.toList.head?, p c = false := by
    intro c hc
    rw [endsRun, hc] at hrest
    simpa using hrest
  rw [String.toList_append]
  exact Chars.takeWhile_dropWhile_append hs hhead

/-- A numeral ends where the digits end. -/
theorem span_numeral {s rest : String} (hs : ∀ c ∈ s.toList, c.isDigit = true)
    (hrest : endsRun Char.isDigit rest = true) :
    leadingNumber (s ++ rest).toList = Decimal.value s.toList ∧
      (s ++ rest).toList.dropWhile Char.isDigit = rest.toList := by
  obtain ⟨htake, hdrop⟩ := span_append hs hrest
  exact ⟨congrArg Decimal.value htake, hdrop⟩

theorem span_toString (n : Nat) {rest : String} (hrest : endsRun Char.isDigit rest = true) :
    leadingNumber (toString n ++ rest).toList = n ∧
      (toString n ++ rest).toList.dropWhile Char.isDigit = rest.toList := by
  have hdigits : ∀ c ∈ (toString n).toList, c.isDigit = true := fun c hc =>
    Decimal.isDigit_of_mem_toString hc
  have hspan := span_numeral hdigits hrest
  rwa [Decimal.value_toString] at hspan

theorem leadingNumber_toString (n : Nat) : leadingNumber (toString n).toList = n := by
  obtain ⟨hn, -⟩ : leadingNumber (toString n ++ "").toList = n ∧ _ := span_toString n rfl
  rwa [String.append_empty] at hn

/-- The name of a category ends where the capitals end. -/
theorem span_name (c : Category) {rest : String} (hrest : endsRun Char.isUpper rest = true) :
    (c.name ++ rest).toList.takeWhile Char.isUpper = c.name.toList ∧
      (c.name ++ rest).toList.dropWhile Char.isUpper = rest.toList :=
  span_append (fun _ hd => Category.isUpper_of_mem_name hd) hrest

/-- The symbol of a rule ends at the first blank. -/
theorem span_symbol (p : Production) {rest : String} (hrest : endsRun (· != ' ') rest = true) :
    (p.symbol ++ rest).toList.takeWhile (· != ' ') = p.symbol.toList ∧
      (p.symbol ++ rest).toList.dropWhile (· != ' ') = rest.toList :=
  span_append (fun _ hd => Production.ne_blank_of_mem_symbol hd) hrest

theorem drop_toList_append (s t : String) : (s ++ t).toList.drop s.toList.length = t.toList := by
  rw [String.toList_append, List.drop_left]

/-- The details of an event are read as the event. -/
theorem Event.read?_details (e : Event) : e.form.read? e.details.toList = some e := by
  cases e with
  | analysisStart source =>
    simp only [form, details, String.toList_append, List.rdrop_append_length, String.ofList_toList]
  | tokenized n =>
    exact congrArg (fun k => some (tokenized k)) (span_toString n (by decide)).1
  | lexicalGate n =>
    cases n with
    | zero => rfl
    | succ n => exact congrArg (fun k => some (lexicalGate k)) (span_toString (n + 1) (by decide)).1
  | productionEnter p => simp only [form, details, Production.ofSymbol?_symbol, Option.map_some]
  | productionExit p success =>
    have hstatus : endsRun (· != ' ') (if success then " OK" else " FAILED") = true := by
      cases success <;> decide
    obtain ⟨htake, hdrop⟩ := span_symbol p hstatus
    simp only [form, details, htake, hdrop, Production.ofSymbol?_symbol, Option.map_some]
    cases success <;> rfl
  | matched c n =>
    have hat : endsRun Char.isUpper (" @" ++ toString n) = true := by
      rw [endsRun_append (by decide)]
      decide
    obtain ⟨htake, hdrop⟩ := span_name c hat
    simp only [form, details, htake, hdrop, drop_toList_append, Category.ofName?_name,
      Option.map_some]
    exact congrArg (fun k => some (matched c k)) (leadingNumber_toString n)
  | mismatch expected found n =>
    have hcolon : endsRun Char.isDigit
        (": wanted " ++ (expected.name ++ (", saw " ++ found.name))) = true := by
      rw [endsRun_append (by decide)]
      decide
    have hcomma : endsRun Char.isUpper (", saw " ++ found.name) = true := by
      rw [endsRun_append (by decide)]
      decide
    obtain ⟨hnumber, hrest⟩ := span_toString n hcolon
    obtain ⟨htake, hdrop⟩ := span_name expected hcomma
    simp only [form, details, hnumber, hrest, htake, hdrop, drop_toList_append,
      Category.ofName?_name, Option.bind_some, Option.map_some]
  | trailingTokens n => exact congrArg (fun k => some (trailingTokens k)) (leadingNumber_toString n)
  | analysisEnd valid => cases valid <;> rfl

/-- **The text of an event is read back.** -/
theorem Event.read?_render (e : Event) : Event.read? e.render.toList = some e := by
  rw [e.render_eq, String.toList_append, read?_of_mem_forms (form_mem_forms e), e.read?_details]

/-! ### Lines -/

/-- The depth and the event that a text tells: two blanks for each rule, and then the event. -/
def readIndented? (cs : List Char) : Option (Nat × Event) :=
  (Event.read? (cs.dropWhile (· == ' '))).map fun e =>
    ((cs.takeWhile (· == ' ')).length / 2, e)

/-- The record that a line shows, in a layout without times.  What is not shown is zero. -/
def Layout.read? (l : Layout) (line : String) : Option Record :=
  if l.ids then
    let cs := line.toList.drop "[".toList.length
    (readIndented? ((cs.dropWhile Char.isDigit).drop "] ".toList.length)).map fun (depth, event) =>
      ⟨leadingNumber cs, depth, event, 0⟩
  else (readIndented? line.toList).map fun (depth, event) => ⟨0, depth, event, 0⟩

/-- What a layout without times shows of a record. -/
def Layout.shown (l : Layout) (r : Record) : Record :=
  { r with id := if l.ids then r.id else 0, nanos := 0 }

/-- No event starts with a blank. -/
theorem endsRun_render (e : Event) : endsRun (· == ' ') e.render = true := by
  have hall : ∀ f ∈ forms, f.opening ≠ "" ∧ endsRun (· == ' ') f.opening = true := by decide
  obtain ⟨hne, hopening⟩ := hall e.form (form_mem_forms e)
  rw [e.render_eq, endsRun_append hne, hopening]

/-- The depth and the event are read back. -/
theorem readIndented?_times (depth : Nat) (e : Event) :
    readIndented? (Text.times depth "  " ++ e.render).toList = some (depth, e) := by
  have hblanks : (Text.times depth "  ").toList = List.replicate (depth * 2) ' ' := by
    have htwo : "  ".toList = List.replicate 2 ' ' := by decide
    rw [Text.toList_times, htwo, List.flatten_replicate_replicate]
  have hall : ∀ c ∈ (Text.times depth "  ").toList, (c == ' ') = true := by
    intro c hc
    rw [hblanks] at hc
    rw [List.eq_of_mem_replicate hc]
    rfl
  obtain ⟨htake, hdrop⟩ := span_append hall (endsRun_render e)
  rw [readIndented?, htake, hdrop, Event.read?_render, hblanks, List.length_replicate,
    Nat.mul_div_cancel _ (by decide), Option.map_some]

/-- The column of a record's number is read back. -/
theorem span_digits (n : Nat) (rest : String) :
    leadingNumber (Decimal.digits 6 n ++ ("] " ++ rest)).toList = n ∧
      (Decimal.digits 6 n ++ ("] " ++ rest)).toList.dropWhile Char.isDigit =
        ("] " ++ rest).toList := by
  have hbracket : endsRun Char.isDigit ("] " ++ rest) = true := by
    rw [endsRun_append (by decide)]
    decide
  have hdigits : ∀ c ∈ (Decimal.digits 6 n).toList, c.isDigit = true := fun c hc =>
    Decimal.isDigit_of_mem_digits hc
  have hspan := span_numeral hdigits hbracket
  rwa [Decimal.value_digits] at hspan

/-- **The line of a record is read back**, up to what the layout leaves out. -/
theorem Layout.read?_line {l : Layout} (hl : l.times = false) (r : Record) :
    l.read? (l.line r) = some (l.shown r) := by
  cases hids : l.ids with
  | true =>
    have hline : l.line r = "[" ++ (Decimal.digits 6 r.id ++
        ("] " ++ (Text.times r.depth "  " ++ r.event.render))) := by
      rw [line, hids, hl, if_pos rfl, if_neg Bool.false_ne_true, String.append_empty,
        String.append_assoc, String.append_assoc, String.append_assoc]
    obtain ⟨hnumber, hrest⟩ := span_digits r.id (Text.times r.depth "  " ++ r.event.render)
    simp only [read?, hids, if_true, hline, drop_toList_append, hnumber, hrest,
      readIndented?_times, Option.map_some, shown]
  | false =>
    have hline : l.line r = Text.times r.depth "  " ++ r.event.render := by
      rw [line, hids, hl, if_neg Bool.false_ne_true, if_neg Bool.false_ne_true, String.append_empty,
        String.empty_append]
    simp only [read?, hids, Bool.false_eq_true, if_false, hline, readIndented?_times,
      Option.map_some, shown]

/-! ### Lists of lines -/

/-- An event whose text has no line feed in it.  Only the text that is analyzed can have one. -/
def Event.OneLine (e : Event) : Prop := ∀ source, e = .analysisStart source → '\n' ∉ source.toList

theorem lineFeed_notMem_append {s t : String} (hs : '\n' ∉ s.toList) (ht : '\n' ∉ t.toList) :
    '\n' ∉ (s ++ t).toList := by
  rw [String.toList_append, List.mem_append, not_or]
  exact ⟨hs, ht⟩

theorem lineFeed_notMem_toString (n : Nat) : '\n' ∉ (toString n).toList := by
  intro h
  exact absurd (Decimal.isDigit_of_mem_toString h) (by decide)

theorem lineFeed_notMem_name (c : Category) : '\n' ∉ c.name.toList := by
  cases c <;> decide

theorem lineFeed_notMem_symbol (p : Production) : '\n' ∉ p.symbol.toList := by
  cases p <;> decide

theorem lineFeed_notMem_details {e : Event} (he : e.OneLine) : '\n' ∉ e.details.toList := by
  cases e with
  | analysisStart source => exact lineFeed_notMem_append (he source rfl) (by decide)
  | tokenized n => exact lineFeed_notMem_append (lineFeed_notMem_toString n) (by decide)
  | lexicalGate n =>
    cases n with
    | zero => exact List.not_mem_nil
    | succ n => exact lineFeed_notMem_append (lineFeed_notMem_toString (n + 1)) (by decide)
  | productionEnter p => exact lineFeed_notMem_symbol p
  | productionExit p success =>
    exact lineFeed_notMem_append (lineFeed_notMem_symbol p) (by cases success <;> decide)
  | matched c n =>
    exact lineFeed_notMem_append (lineFeed_notMem_name c)
      (lineFeed_notMem_append (by decide) (lineFeed_notMem_toString n))
  | mismatch c d n =>
    have hnames : '\n' ∉ (c.name ++ (", saw " ++ d.name)).toList :=
      lineFeed_notMem_append (lineFeed_notMem_name c)
        (lineFeed_notMem_append (by decide) (lineFeed_notMem_name d))
    exact lineFeed_notMem_append (lineFeed_notMem_toString n)
      (lineFeed_notMem_append (by decide) hnames)
  | trailingTokens n => exact lineFeed_notMem_toString n
  | analysisEnd valid => exact List.not_mem_nil

theorem lineFeed_notMem_render {e : Event} (he : e.OneLine) : '\n' ∉ e.render.toList := by
  have hall : ∀ f ∈ forms, '\n' ∉ f.opening.toList := by decide
  rw [e.render_eq]
  exact lineFeed_notMem_append (hall e.form (form_mem_forms e)) (lineFeed_notMem_details he)

theorem lineFeed_notMem_line {l : Layout} (hl : l.times = false) {r : Record}
    (hr : r.event.OneLine) : '\n' ∉ (l.line r).toList := by
  have hdigits : '\n' ∉ (Decimal.digits 6 r.id).toList := by
    intro h
    exact absurd (Decimal.isDigit_of_mem_digits h) (by decide)
  have hindent : '\n' ∉ (Text.times r.depth "  ").toList := by
    rw [Text.toList_times]
    simp
  have hid : '\n' ∉ (if l.ids then "[" ++ Decimal.digits 6 r.id ++ "] " else "").toList := by
    split
    · exact lineFeed_notMem_append (lineFeed_notMem_append (by decide) hdigits) (by decide)
    · decide
  rw [Layout.line, hl, if_neg Bool.false_ne_true, String.append_empty]
  exact lineFeed_notMem_append (lineFeed_notMem_append hid hindent) (lineFeed_notMem_render hr)

/-- The empty text is no line of a record. -/
theorem Layout.read?_empty (l : Layout) : l.read? "" = none := by
  rcases l with ⟨_ | _, _ | _⟩ <;> decide

/-- **The lines of a trace are read back one by one.**  A trace without records has the empty text,
which is no line of a record. -/
theorem Layout.map_read?_text {l : Layout} (hl : l.times = false) {rs : List Record}
    (hrs : ∀ r ∈ rs, r.event.OneLine) :
    ((l.text rs).split '\n').toList.map (fun piece => l.read? piece.copy) =
      if rs = [] then [none] else (rs.map l.shown).map some := by
  have hfree : ∀ line ∈ rs.map l.line, '\n' ∉ line.toList := by
    intro line hline
    obtain ⟨r, hr, rfl⟩ := List.mem_map.mp hline
    exact lineFeed_notMem_line hl (hrs r hr)
  have hlines : ((l.text rs).split '\n').toList.map (·.copy) =
      if rs.map l.line = [] then [""] else rs.map l.line :=
    String.toList_split_intercalate hfree
  have hread := congrArg (List.map l.read?) hlines
  rw [List.map_map] at hread
  refine hread.trans ?_
  split
  · next hnil =>
    rw [if_pos (List.map_eq_nil_iff.mp hnil), List.map_singleton, l.read?_empty]
  · next hne =>
    rw [if_neg (mt List.map_eq_nil_iff.mpr hne), List.map_map, List.map_map]
    exact List.map_congr_left fun r _ => read?_line hl r

/-! ### What a trace tells -/

/-- Two records that look alike where no time is shown: they have the same depth and the same event,
and the same number if the numbers are shown. -/
def Layout.Alike (l : Layout) (r r' : Record) : Prop :=
  r.depth = r'.depth ∧ r.event = r'.event ∧ (l.ids = true → r.id = r'.id)

namespace Layout

variable {l : Layout} {r r' : Record} {rs rs' : List Record}

theorem shown_eq_iff : l.shown r = l.shown r' ↔ l.Alike r r' := by
  simp only [shown, Alike, Record.mk.injEq, and_true]
  cases l.ids with
  | true =>
    simp only [if_true, true_implies]
    exact and_rotate
  | false => simp

/-- A line depends only on what the layout shows. -/
theorem line_shown (hl : l.times = false) (r : Record) : l.line (l.shown r) = l.line r := by
  cases hids : l.ids with
  | true => simp only [line, shown, hids, hl, Bool.false_eq_true, if_false, if_true]
  | false => simp only [line, shown, hids, hl, Bool.false_eq_true, if_false]

/-- **Two lines are the same if the records look alike, and only then.** -/
theorem line_eq_iff (hl : l.times = false) : l.line r = l.line r' ↔ l.Alike r r' := by
  rw [← shown_eq_iff]
  constructor
  · intro h
    have hread := l.read?_line hl r
    rw [h, l.read?_line hl r'] at hread
    exact (Option.some.inj hread).symm
  · intro h
    rw [← line_shown hl r, h, line_shown hl r']

theorem forall₂_alike_iff : List.Forall₂ l.Alike rs rs' ↔ rs.map l.shown = rs'.map l.shown := by
  rw [← List.forall₂_eq_eq_eq, List.forall₂_map_left_iff, List.forall₂_map_right_iff]
  simp only [shown_eq_iff]

/-- **Two traces are the same if their records look alike one by one, and only then**, where no
event has a line feed in it. -/
theorem text_eq_iff (hl : l.times = false) (hrs : ∀ r ∈ rs, r.event.OneLine)
    (hrs' : ∀ r ∈ rs', r.event.OneLine) :
    l.text rs = l.text rs' ↔ List.Forall₂ l.Alike rs rs' := by
  rw [forall₂_alike_iff]
  constructor
  · intro h
    have hread := map_read?_text hl hrs
    rw [h, map_read?_text hl hrs'] at hread
    cases rs with
    | nil =>
      cases rs' with
      | nil => rfl
      | cons r' rs' => simp at hread
    | cons r rs =>
      cases rs' with
      | nil => simp at hread
      | cons r' rs' =>
        rw [if_neg (List.cons_ne_nil _ _), if_neg (List.cons_ne_nil _ _)] at hread
        exact (List.map_inj_right (fun _ _ => Option.some.inj)).mp hread.symm
  · intro h
    have hlines : ∀ rs : List Record, rs.map l.line = (rs.map l.shown).map l.line := by
      intro rs
      rw [List.map_map]
      exact List.map_congr_left fun r _ => (line_shown hl r).symm
    rw [text, text, hlines rs, hlines rs', h]

end Layout

/-- **A trace without times is unambiguous.**  Two lines are the same only for records of the same
depth and with the same event, and with the same number if that is shown.  Two traces in which no
analyzed text has a line feed in it are the same only if they have equally many records, and these
agree one by one in the same sense. -/
theorem text_is_unambiguous (l : Layout) (hl : l.times = false) :
    (∀ r r' : Record, l.line r = l.line r' ↔
      r.depth = r'.depth ∧ r.event = r'.event ∧ (l.ids = true → r.id = r'.id)) ∧
    ∀ rs rs' : List Record,
      (∀ r ∈ rs, ∀ source, r.event = .analysisStart source → '\n' ∉ source.toList) →
      (∀ r ∈ rs', ∀ source, r.event = .analysisStart source → '\n' ∉ source.toList) →
        (l.text rs = l.text rs' ↔ List.Forall₂ (fun r r' => r.depth = r'.depth ∧
          r.event = r'.event ∧ (l.ids = true → r.id = r'.id)) rs rs') :=
  ⟨fun _ _ => Layout.line_eq_iff hl, fun _ _ hrs hrs' => Layout.text_eq_iff hl hrs hrs'⟩

/-- A number wider than its column, and an analyzed text that looks like the end of one line and the
start of another. -/
theorem text_is_unambiguous_of_disguise :
    let l : Layout := ⟨true, false⟩
    let disguised : Record := ⟨1000000, 0, .analysisStart "a' ===[1000001] === ANALYZE 'b", 0⟩
    let first : Record := ⟨1000000, 0, .analysisStart "a", 0⟩
    let second : Record := ⟨1000001, 0, .analysisStart "b", 0⟩
    l.times = false ∧ l.line first ≠ l.line second ∧
      l.text [disguised] ≠ l.text [first, second] := by
  intro l disguised first second
  have hl : l.times = false := rfl
  obtain ⟨hline, htext⟩ := text_is_unambiguous l hl
  refine ⟨hl, ?_, ?_⟩
  · rw [Ne, hline]
    decide
  · rw [Ne, htext _ _ (by simp [disguised]) (by simp [first, second])]
    simp

end Trace
end Oracion
