import Mathlib.Data.List.DropRight
import Mathlib.Data.List.TakeWhile
import Oracion.Json.Reader

/-!
# The grammar of JSON texts

Which texts are JSON, and what document each of them is, stated without the reader: what a
numeral, a literal, an array and an object look like, and where space may stand.

The symbols are compared with the reader here: it reads the numerals and the literals of the
grammar and nothing else as such.  A numeral ends where no further character can belong to it,
so it is read whole only in front of something else (`Closes`); a literal shows by itself
where it ends.

## Main definitions

* `Numeral`, `Literal` — numerals, and string literals with the texts they stand for.
* `Spells` — **the grammar**: the characters that are a document, the items of an array or
  the members of an object.

## Main results

* `readNumeral_append`, `readNumeral_sound` — numerals are read, and nothing else as one.
* `readText_append`, `readText_sound` — the same for string literals.
-/

namespace Oracion
namespace Json

/-! ### Space -/

/-- Space between symbols, or nothing. -/
def Blank (cs : List Char) : Prop := ∀ c ∈ cs, isSpace c = true

theorem blank_nil : Blank [] := by
  intro c hc
  cases hc

theorem Blank.skipSpace_append {s : List Char} (hs : Blank s) (cs : List Char) :
    skipSpace (s ++ cs) = skipSpace cs := List.dropWhile_append_of_pos hs

/-- What is skipped is space. -/
theorem exists_blank_append (cs : List Char) : ∃ s, Blank s ∧ cs = s ++ skipSpace cs := by
  refine ⟨cs.takeWhile isSpace, ?_, List.takeWhile_append_dropWhile.symm⟩
  intro c hc
  exact List.mem_takeWhile_imp hc

theorem skipSpace_skipSpace (cs : List Char) : skipSpace (skipSpace cs) = skipSpace cs :=
  List.dropWhile_idempotent ..

theorem skipSpace_cons {c : Char} (hc : isSpace c = false) (cs : List Char) :
    skipSpace (c :: cs) = c :: cs := List.dropWhile_cons_of_neg (by simp [hc])

/-! ### Numerals -/

/-- Decimal digits, at least one. -/
def Digits (ds : List Char) : Prop := ds ≠ [] ∧ ∀ d ∈ ds, d.isDigit = true

/-- The digits before the point: a zero alone, or digits that do not start with one. -/
def Whole (ds : List Char) : Prop := ds = ['0'] ∨ (Digits ds ∧ ds.head? ≠ some '0')

/-- A point with digits after it, or nothing. -/
def Fraction (cs : List Char) : Prop := cs = [] ∨ ∃ ds, Digits ds ∧ cs = '.' :: ds

/-- The sign of an exponent, or nothing. -/
def Sign (cs : List Char) : Prop := cs = [] ∨ cs = ['+'] ∨ cs = ['-']

/-- An exponent, or nothing. -/
def Exponent (cs : List Char) : Prop :=
  cs = [] ∨ ∃ e sign ds, (e = 'e' ∨ e = 'E') ∧ Sign sign ∧ Digits ds ∧ cs = e :: sign ++ ds

/-- A numeral without its sign. -/
def Unsigned (cs : List Char) : Prop :=
  ∃ whole fraction exponent, Whole whole ∧ Fraction fraction ∧ Exponent exponent ∧
    cs = whole ++ fraction ++ exponent

/-- A numeral. -/
def Numeral (cs : List Char) : Prop := Unsigned cs ∨ ∃ ds, Unsigned ds ∧ cs = '-' :: ds

/-- The text is at its end, or goes on with no digit. -/
def NoDigit (rest : List Char) : Prop := ∀ c ∈ rest.head?, c.isDigit = false

/-- The text is at its end, or goes on with what is no part of a numeral. -/
def Closes (rest : List Char) : Prop :=
  ∀ c ∈ rest.head?, c.isDigit = false ∧ c ≠ '.' ∧ c ≠ 'e' ∧ c ≠ 'E'

theorem noDigit_cons {c : Char} (hc : c.isDigit = false) (cs : List Char) :
    NoDigit (c :: cs) := by
  intro d hd
  obtain rfl : c = d := by simpa using hd
  exact hc

theorem closes_cons {c : Char} (hc : c.isDigit = false ∧ c ≠ '.' ∧ c ≠ 'e' ∧ c ≠ 'E')
    (cs : List Char) : Closes (c :: cs) := by
  intro d hd
  obtain rfl : c = d := by simpa using hd
  exact hc

theorem Blank.closes_append {s rest : List Char} (hs : Blank s) (h : Closes rest) :
    Closes (s ++ rest) := by
  cases s with
  | nil => exact h
  | cons c s =>
    have hspace : c = ' ' ∨ c = '\n' ∨ c = '\t' ∨ c = '\r' := by
      simpa [isSpace, or_assoc] using hs c List.mem_cons_self
    apply closes_cons
    rcases hspace with rfl | rfl | rfl | rfl <;> decide

section Numerals

variable {cs ds rest : List Char}

theorem Closes.noDigit (h : Closes rest) : NoDigit rest := fun c hc => (h c hc).1

theorem Digits.exists_cons (h : Digits ds) : ∃ d ds', ds = d :: ds' ∧ d.isDigit = true := by
  cases ds with
  | nil => exact absurd rfl h.1
  | cons d ds => exact ⟨d, ds, rfl, h.2 d List.mem_cons_self⟩

theorem Exponent.noDigit_append (he : Exponent cs) (h : Closes rest) : NoDigit (cs ++ rest) := by
  rcases he with rfl | ⟨e, sign, ds, rfl | rfl, -, -, rfl⟩
  · exact h.noDigit
  · exact noDigit_cons (by decide) _
  · exact noDigit_cons (by decide) _

theorem Fraction.noDigit_append (hf : Fraction cs) (h : NoDigit rest) : NoDigit (cs ++ rest) := by
  rcases hf with rfl | ⟨ds, -, rfl⟩
  · exact h
  · exact noDigit_cons (by decide) _

/-- All the digits are read, and no more. -/
theorem readDigits_append (hds : Digits ds) (h : NoDigit rest) :
    readDigits (ds ++ rest) = some (ds, rest) := by
  have htake : rest.takeWhile Char.isDigit = [] := by
    cases rest with
    | nil => rfl
    | cons c cs => exact List.takeWhile_cons_of_neg (by simp [h c rfl])
  have hdrop : rest.dropWhile Char.isDigit = rest := by
    cases rest with
    | nil => rfl
    | cons c cs => exact List.dropWhile_cons_of_neg (by simp [h c rfl])
  unfold readDigits
  rw [List.takeWhile_append_of_pos hds.2, List.dropWhile_append_of_pos hds.2, htake, hdrop,
    List.append_nil]
  obtain ⟨d, ds, rfl, -⟩ := hds.exists_cons
  rfl

theorem readWhole_append (hds : Whole ds) (h : NoDigit rest) :
    readWhole (ds ++ rest) = some (ds, rest) := by
  rcases hds with rfl | ⟨hds, hzero⟩
  · rw [List.singleton_append]
    cases rest with
    | nil => rfl
    | cons c cs => simp [readWhole, h c rfl]
  · obtain ⟨d, ds, rfl, -⟩ := hds.exists_cons
    rw [readWhole.eq_def]
    split
    · next heq => exact absurd (congrArg some (List.cons.inj heq).1) hzero
    · exact readDigits_append hds h

theorem readFraction_append (hcs : Fraction cs) (h : NoDigit rest)
    (hpoint : rest.head? ≠ some '.') : readFraction (cs ++ rest) = some (cs, rest) := by
  rcases hcs with rfl | ⟨ds, hds, rfl⟩
  · rw [List.nil_append, readFraction.eq_def]
    split
    · exact absurd rfl hpoint
    · rfl
  · rw [List.cons_append, readFraction, readDigits_append hds h]
    rfl

theorem readSign_append {sign : List Char} (hsign : Sign sign) (hds : Digits ds) :
    readSign (sign ++ (ds ++ rest)) = (sign, ds ++ rest) := by
  rcases hsign with rfl | rfl | rfl
  · -- the digits that follow start with no sign
    obtain ⟨d, ds, rfl, hd⟩ := hds.exists_cons
    rw [List.nil_append, List.cons_append, readSign.eq_def]
    split
    · next heq => exact absurd ((List.cons.inj heq).1 ▸ hd) (by decide)
    · next heq => exact absurd ((List.cons.inj heq).1 ▸ hd) (by decide)
    · rfl
  · rfl
  · rfl

theorem readExponent_append (hcs : Exponent cs) (h : Closes rest) :
    readExponent (cs ++ rest) = some (cs, rest) := by
  rcases hcs with rfl | ⟨e, sign, ds, he, hsign, hds, rfl⟩
  · rw [List.nil_append]
    cases rest with
    | nil => rfl
    | cons c cs => simp [readExponent, (h c rfl).2.2.1, (h c rfl).2.2.2]
  · rw [List.cons_append, List.cons_append, List.append_assoc, readExponent, if_pos he,
      readSign_append hsign hds]
    dsimp only
    rw [readDigits_append hds h.noDigit]
    rfl

theorem readUnsigned_append (hcs : Unsigned cs) (h : Closes rest) :
    readUnsigned (cs ++ rest) = some (cs, rest) := by
  obtain ⟨whole, fraction, exponent, hwhole, hfraction, hexponent, rfl⟩ := hcs
  have hdigit : NoDigit (exponent ++ rest) := hexponent.noDigit_append h
  have hpoint : (exponent ++ rest).head? ≠ some '.' := by
    rcases hexponent with rfl | ⟨e, sign, ds, rfl | rfl, -, -, rfl⟩
    · intro hhead
      exact (h '.' hhead).2.1 rfl
    · simp
    · simp
  rw [List.append_assoc, List.append_assoc]
  simp only [readUnsigned, readWhole_append hwhole (hfraction.noDigit_append hdigit),
    readFraction_append hfraction hdigit hpoint, readExponent_append hexponent h,
    Option.bind_eq_bind, Option.bind_some, Option.pure_def]

theorem Unsigned.exists_cons (h : Unsigned cs) : ∃ d ds, cs = d :: ds ∧ d.isDigit = true := by
  obtain ⟨whole, fraction, exponent, rfl | ⟨hds, -⟩, -, -, rfl⟩ := h
  · exact ⟨'0', _, rfl, by decide⟩
  · obtain ⟨d, ds, rfl, hd⟩ := hds.exists_cons
    exact ⟨d, _, rfl, hd⟩

/-- A numeral is read whole. -/
theorem readNumeral_append (hcs : Numeral cs) (h : Closes rest) :
    readNumeral (cs ++ rest) = some (cs, rest) := by
  rcases hcs with hcs | ⟨ds, hds, rfl⟩
  · obtain ⟨d, ds, rfl, hd⟩ := hcs.exists_cons
    rw [readNumeral.eq_def]
    split
    · next heq => exact absurd ((List.cons.inj heq).1 ▸ hd) (by decide)
    · exact readUnsigned_append hcs h
  · rw [List.cons_append, readNumeral, readUnsigned_append hds h]
    rfl

/-! What is read is a numeral. -/

theorem readDigits_sound (h : readDigits cs = some (ds, rest)) :
    Digits ds ∧ cs = ds ++ rest := by
  unfold readDigits at h
  split at h
  · cases h
  · next hne =>
    obtain ⟨rfl, rfl⟩ := Prod.mk.inj (Option.some.inj h)
    exact ⟨⟨hne, fun d hd => List.mem_takeWhile_imp hd⟩, List.takeWhile_append_dropWhile.symm⟩

theorem readWhole_sound (h : readWhole cs = some (ds, rest)) : Whole ds ∧ cs = ds ++ rest := by
  rw [readWhole.eq_def] at h
  split at h
  · split at h
    · obtain ⟨rfl, rfl⟩ := Prod.mk.inj (Option.some.inj h)
      exact ⟨.inl rfl, rfl⟩
    · split at h
      · cases h
      · obtain ⟨rfl, rfl⟩ := Prod.mk.inj (Option.some.inj h)
        exact ⟨.inl rfl, rfl⟩
  · next hzero =>
    obtain ⟨hds, rfl⟩ := readDigits_sound h
    refine ⟨.inr ⟨hds, ?_⟩, rfl⟩
    intro hhead
    obtain ⟨d, ds, rfl, -⟩ := hds.exists_cons
    obtain rfl : d = '0' := by simpa using hhead
    exact hzero _ rfl

theorem readFraction_sound (h : readFraction cs = some (ds, rest)) :
    Fraction ds ∧ cs = ds ++ rest := by
  rw [readFraction.eq_def] at h
  split at h
  · obtain ⟨⟨ds', rest'⟩, hread, heq⟩ := Option.map_eq_some_iff.mp h
    obtain ⟨rfl, rfl⟩ := Prod.mk.inj heq
    obtain ⟨hds, rfl⟩ := readDigits_sound hread
    exact ⟨.inr ⟨ds', hds, rfl⟩, rfl⟩
  · obtain ⟨rfl, rfl⟩ := Prod.mk.inj (Option.some.inj h)
    exact ⟨.inl rfl, rfl⟩

theorem readSign_sound {sign : List Char} (h : readSign cs = (sign, rest)) :
    Sign sign ∧ cs = sign ++ rest := by
  rw [readSign.eq_def] at h
  split at h
  · obtain ⟨rfl, rfl⟩ := Prod.mk.inj h
    exact ⟨.inr (.inl rfl), rfl⟩
  · obtain ⟨rfl, rfl⟩ := Prod.mk.inj h
    exact ⟨.inr (.inr rfl), rfl⟩
  · obtain ⟨rfl, rfl⟩ := Prod.mk.inj h
    exact ⟨.inl rfl, rfl⟩

theorem readExponent_sound (h : readExponent cs = some (ds, rest)) :
    Exponent ds ∧ cs = ds ++ rest := by
  cases cs with
  | nil =>
    obtain ⟨rfl, rfl⟩ := Prod.mk.inj (Option.some.inj h)
    exact ⟨.inl rfl, rfl⟩
  | cons e cs =>
    rw [readExponent] at h
    split at h
    · next he =>
      obtain ⟨sign, cs', hsign⟩ : ∃ sign cs', readSign cs = (sign, cs') := ⟨_, _, rfl⟩
      rw [hsign] at h
      obtain ⟨⟨ds', rest'⟩, hread, heq⟩ := Option.map_eq_some_iff.mp h
      obtain ⟨rfl, rfl⟩ := Prod.mk.inj heq
      obtain ⟨hs, rfl⟩ := readSign_sound hsign
      obtain ⟨hds, rfl⟩ := readDigits_sound hread
      refine ⟨.inr ⟨e, sign, ds', he, hs, hds, rfl⟩, ?_⟩
      rw [List.cons_append, List.cons_append, List.append_assoc]
    · obtain ⟨rfl, rfl⟩ := Prod.mk.inj (Option.some.inj h)
      exact ⟨.inl rfl, rfl⟩

theorem readUnsigned_sound (h : readUnsigned cs = some (ds, rest)) :
    Unsigned ds ∧ cs = ds ++ rest := by
  simp only [readUnsigned, Option.bind_eq_bind, Option.bind_eq_some_iff, Option.pure_def,
    Option.some.injEq, Prod.mk.injEq, Prod.exists] at h
  obtain ⟨whole, cs₁, hwhole, fraction, cs₂, hfraction, exponent, cs₃, hexponent, rfl, rfl⟩ := h
  obtain ⟨hw, rfl⟩ := readWhole_sound hwhole
  obtain ⟨hf, rfl⟩ := readFraction_sound hfraction
  obtain ⟨he, rfl⟩ := readExponent_sound hexponent
  refine ⟨⟨whole, fraction, exponent, hw, hf, he, rfl⟩, ?_⟩
  simp only [List.append_assoc]

theorem readNumeral_sound (h : readNumeral cs = some (ds, rest)) :
    Numeral ds ∧ cs = ds ++ rest := by
  rw [readNumeral.eq_def] at h
  split at h
  · obtain ⟨⟨ds', rest'⟩, hread, heq⟩ := Option.map_eq_some_iff.mp h
    obtain ⟨rfl, rfl⟩ := Prod.mk.inj heq
    obtain ⟨hds, rfl⟩ := readUnsigned_sound hread
    exact ⟨.inr ⟨ds', hds, rfl⟩, rfl⟩
  · obtain ⟨hds, rfl⟩ := readUnsigned_sound h
    exact ⟨.inl hds, rfl⟩

end Numerals

/-! ### String literals -/

/-- What stands between the quotes of a literal, and the code units it stands for: a character
that needs no escape, an escape by a letter, or one by a number. -/
inductive Quoted : List Char → List Unit16 → Prop
  | nil : Quoted [] []
  | plain {c : Char} {cs : List Char} {us : List Unit16} (hquote : c ≠ '"') (hslash : c ≠ '\\')
      (hcontrol : 0x20 ≤ c.toNat) (h : Quoted cs us) : Quoted (c :: cs) (.char c :: us)
  | letter {e c : Char} {cs : List Char} {us : List Unit16} (he : unescape? e = some c)
      (h : Quoted cs us) : Quoted ('\\' :: e :: cs) (.char c :: us)
  | number {a b c d : Char} {n : Nat} {cs : List Char} {us : List Unit16}
      (hn : hexUnit? a b c d = some n) (h : Quoted cs us) :
      Quoted ('\\' :: 'u' :: a :: b :: c :: d :: cs) (Unit16.ofNat n :: us)

/-- A string literal and the text it stands for, if any. -/
def Literal (cs : List Char) (t : Option String) : Prop :=
  ∃ body us, Quoted body us ∧ cs = '"' :: (body ++ ['"']) ∧ t = (joinUnits us).map String.ofList

/-- What stands between the quotes is read up to the closing one. -/
theorem readUnits_append {cs : List Char} {us : List Unit16} (h : Quoted cs us)
    (rest : List Char) : readUnits (cs ++ '"' :: rest) = some (us, rest) := by
  induction h with
  | nil => rfl
  | plain hquote hslash hcontrol _ ih =>
    simp [readUnits, hslash, Nat.not_lt.mpr hcontrol, ih]
  | @letter e c cs us he _ ih =>
    have hu : e ≠ 'u' := by
      rintro rfl
      cases he
    simp [readUnits, hu, he, ih]
  | number hn _ ih => simp [readUnits, hn, ih]

theorem readUnits_sound {cs : List Char} {us : List Unit16} {rest : List Char}
    (h : readUnits cs = some (us, rest)) : ∃ body, Quoted body us ∧ cs = body ++ '"' :: rest := by
  fun_induction readUnits cs generalizing us with
  | case1 => cases h
  | case2 cs =>
    obtain ⟨rfl, rfl⟩ := Prod.mk.inj (Option.some.inj h)
    exact ⟨[], .nil, rfl⟩
  | case3 a b c d cs n hn ih =>
    obtain ⟨⟨us', rest'⟩, hread, heq⟩ := Option.map_eq_some_iff.mp h
    obtain ⟨rfl, rfl⟩ := Prod.mk.inj heq
    obtain ⟨body, hbody, rfl⟩ := ih hread
    exact ⟨_, .number hn hbody, rfl⟩
  | case4 => cases h
  | case5 e cs _ c hc ih =>
    obtain ⟨⟨us', rest'⟩, hread, heq⟩ := Option.map_eq_some_iff.mp h
    obtain ⟨rfl, rfl⟩ := Prod.mk.inj heq
    obtain ⟨body, hbody, rfl⟩ := ih hread
    exact ⟨_, .letter hc hbody, rfl⟩
  | case6 => cases h
  | case7 => cases h
  | case8 c cs hquote _ _ hplain ih =>
    obtain ⟨⟨us', rest'⟩, hread, heq⟩ := Option.map_eq_some_iff.mp h
    obtain ⟨rfl, rfl⟩ := Prod.mk.inj heq
    obtain ⟨body, hbody, rfl⟩ := ih hread
    obtain ⟨hslash, hcontrol⟩ := not_or.mp hplain
    exact ⟨_, .plain hquote hslash (Nat.not_lt.mp hcontrol) hbody, rfl⟩

theorem readText_append {cs : List Char} {t : Option String} (h : Literal cs t) :
    ∃ body, cs = '"' :: body ∧ ∀ rest, readText (body ++ rest) = some (t, rest) := by
  obtain ⟨body, us, hbody, rfl, rfl⟩ := h
  refine ⟨body ++ ['"'], rfl, ?_⟩
  intro rest
  rw [List.append_assoc, List.singleton_append, readText, readUnits_append hbody]
  rfl

theorem readText_sound {cs rest : List Char} {t : Option String}
    (h : readText cs = some (t, rest)) : ∃ name, Literal name t ∧ '"' :: cs = name ++ rest := by
  obtain ⟨⟨us, rest'⟩, hread, heq⟩ := Option.map_eq_some_iff.mp h
  obtain ⟨rfl, rfl⟩ := Prod.mk.inj heq
  obtain ⟨body, hbody, rfl⟩ := readUnits_sound hread
  refine ⟨'"' :: (body ++ ['"']), ⟨body, us, hbody, rfl, rfl⟩, ?_⟩
  simp

/-! ### Documents -/

/-- What a stretch of a text can be. -/
inductive Part where
  /-- A document. -/
  | value (j : Json)
  /-- The items of an array. -/
  | items (js : List Json)
  /-- The members of an object. -/
  | members (ms : List (Option String × Json))

/-- **The grammar of JSON**: the characters that are a document, the items of an array or the
members of an object.  Space may stand around every document and every name. -/
inductive Spells : List Char → Part → Prop
  | null : Spells "null".toList (.value null)
  | true : Spells "true".toList (.value (bool true))
  | false : Spells "false".toList (.value (bool false))
  | num {ds : List Char} (h : Numeral ds) : Spells ds (.value (num (String.ofList ds)))
  | str {cs : List Char} {t : Option String} (h : Literal cs t) : Spells cs (.value (str t))
  | noItems {s : List Char} (hs : Blank s) : Spells ('[' :: (s ++ [']'])) (.value (arr []))
  | arr {cs : List Char} {js : List Json} (h : Spells cs (.items js)) :
      Spells ('[' :: (cs ++ [']'])) (.value (arr js))
  | noMembers {s : List Char} (hs : Blank s) :
      Spells ('\x7b' :: (s ++ ['\x7d'])) (.value (obj []))
  | obj {cs : List Char} {ms : List (Option String × Json)} (h : Spells cs (.members ms)) :
      Spells ('\x7b' :: (cs ++ ['\x7d'])) (.value (obj ms))
  | space {s cs s' : List Char} {j : Json} (hs : Blank s) (h : Spells cs (.value j))
      (hs' : Blank s') : Spells (s ++ cs ++ s') (.value j)
  | item {cs : List Char} {j : Json} (h : Spells cs (.value j)) : Spells cs (.items [j])
  | items {cs cs' : List Char} {j : Json} {js : List Json} (h : Spells cs (.value j))
      (h' : Spells cs' (.items js)) : Spells (cs ++ ',' :: cs') (.items (j :: js))
  | member {s name s' cs : List Char} {k : Option String} {j : Json} (hs : Blank s)
      (hname : Literal name k) (hs' : Blank s') (h : Spells cs (.value j)) :
      Spells (s ++ name ++ s' ++ ':' :: cs) (.members [(k, j)])
  | members {s name s' cs cs' : List Char} {k : Option String} {j : Json}
      {ms : List (Option String × Json)} (hs : Blank s) (hname : Literal name k) (hs' : Blank s')
      (h : Spells cs (.value j)) (h' : Spells cs' (.members ms)) :
      Spells (s ++ name ++ s' ++ ':' :: (cs ++ ',' :: cs')) (.members ((k, j) :: ms))

end Json
end Oracion
