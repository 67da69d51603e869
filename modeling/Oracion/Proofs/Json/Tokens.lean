import Mathlib.Algebra.Group.Nat.Defs
import Oracion.Json.Codec
import Oracion.Proofs.Json.RoundTrip

/-!
# Tokens as JSON

A token is read back from the text it is written as.  It is also read from every other text
that has its three members, in whatever order they stand and however they are spelled, between
members with other names; and from no object in which one of the three is missing or stands
twice.  A position with more than 64 bits is not read, so what is read can be written and read
again.

## Main definitions

* `Token.fields`, `Token.names` — the members of a token, and their names.
* `Token.read?` — the token that a text is.

## Main results

* `Token.ofJson?_of_perm`, `Token.ofJson?_eq_none` — which objects are a token, and which are
  none.
* `Token.json_round_trip` — **tokens are read as they were written, whatever the order of their
  members and whatever stands between them.**
-/

namespace Oracion

theorem Json.position?_ofNat {n : Nat} (h : n ≤ Decimal.maxWord) :
    (Json.ofNat n).position? = some n := Decimal.word?_toString h

namespace Token

/-- The members of a token. -/
def fields (t : Token) : List (String × Json) :=
  [("category", t.category.toJson), ("text", .ofString t.text), ("position", .ofNat t.position)]

/-- The names of the members of a token. -/
def names : List String := ["category", "text", "position"]

/-- The token that a text is. -/
def read? (text : String) : Option Token := (Json.parse? text).bind ofJson?

theorem toJson_eq_ofFields (t : Token) : t.toJson = .ofFields t.fields := rfl

theorem written_toJson (t : Token) : t.toJson.Written := by
  apply Json.written_ofFields
  simp only [List.forall_mem_cons]
  exact ⟨.str _, .str _, .nat _, nofun⟩

/-! ### The members of an object -/

theorem member?_of_filter {members : List (Option String × Json)} {name : String} {j : Json}
    (h : members.filter (fun m => m.1 == some name) = [(some name, j)]) :
    member? members name = some j := by
  unfold member?
  rw [h]

theorem member?_eq_none {members : List (Option String × Json)} {name : String}
    (h : members.countP (fun m => m.1 == some name) ≠ 1) : member? members name = none := by
  unfold member?
  split
  · next heq =>
    rw [List.countP_eq_length_filter, heq] at h
    exact absurd rfl h
  · rfl

/-- Of members whose names are texts, one is found by its name if it is the only one. -/
theorem member?_ofFields {fields : List (String × Json)} {name : String} {j : Json}
    (h : fields.filter (fun f => f.1 == name) = [(name, j)]) :
    member? (fields.map fun (k, v) => (some k, v)) name = some j := by
  apply member?_of_filter
  rw [List.filter_map]
  have hname : ((fun m : Option String × Json => m.1 == some name) ∘
      fun f : String × Json => (some f.1, f.2)) = fun f => f.1 == name := by
    funext f
    simp
  rw [hname, h]
  rfl

/-- A member of the token is found among others, wherever it stands. -/
theorem member?_of_perm {t : Token} {fields : List (String × Json)}
    (h : (fields.filter fun f => f.1 ∈ names).Perm t.fields) {name : String} {j : Json}
    (hname : name ∈ names) (hj : t.fields.filter (fun f => f.1 == name) = [(name, j)]) :
    member? (fields.map fun (k, v) => (some k, v)) name = some j := by
  apply member?_ofFields
  have hfilter := h.filter fun f => f.1 == name
  rw [hj, List.perm_singleton, List.filter_filter] at hfilter
  rw [← hfilter]
  apply List.filter_congr
  intro f _
  by_cases hf : f.1 = name
  · simp [hf, hname]
  · simp [hf]

/-! ### The tokens that documents are -/

theorem ofValues?_toJson {t : Token} (h : t.position ≤ Decimal.maxWord) :
    ofValues? t.category.toJson (.ofString t.text) (.ofNat t.position) = some t := by
  have hcategory : Category.ofJson? t.category.toJson = some t.category :=
    Category.ofJsonName?_jsonName t.category
  have htext : (Json.ofString t.text).text? = some t.text := rfl
  simp [ofValues?, hcategory, htext, Json.position?_ofNat h]

/-- **An object is a token if it has the members of the token**, in any order and among any
other members. -/
theorem ofJson?_of_perm {t : Token} (ht : t.position ≤ Decimal.maxWord)
    {fields : List (String × Json)} (h : (fields.filter fun f => f.1 ∈ names).Perm t.fields) :
    ofJson? (.ofFields fields) = some t := by
  have hnames : (fields.map fun (k, v) => (some k, v)).all
      (fun m : Option String × Json => m.1.isSome) = true := by
    simp
  have hcategory : member? _ "category" = some t.category.toJson :=
    member?_of_perm h (by decide) rfl
  have htext : member? _ "text" = some (.ofString t.text) := member?_of_perm h (by decide) rfl
  have hposition : member? _ "position" = some (.ofNat t.position) :=
    member?_of_perm h (by decide) rfl
  rw [Json.ofFields, ofJson?, if_pos hnames]
  simp only [hcategory, htext, hposition, Option.bind_eq_bind, Option.bind_some,
    ofValues?_toJson ht]

/-- **An object is no token if one of the three members is missing or stands twice.** -/
theorem ofJson?_eq_none {members : List (Option String × Json)} {name : String}
    (hname : name ∈ names) (h : members.countP (fun m => m.1 == some name) ≠ 1) :
    ofJson? (.obj members) = none := by
  have hnone := member?_eq_none h
  have hcases : name = "category" ∨ name = "text" ∨ name = "position" := by
    simpa [names] using hname
  rw [ofJson?]
  split
  · -- the first of the three that is not there ends the reading
    rcases hcases with rfl | rfl | rfl
    · rw [hnone]
      rfl
    · cases member? members "category" <;> simp [hnone]
    · cases member? members "category" <;> cases member? members "text" <;> simp [hnone]
  · rfl

theorem position_le_of_ofValues? {category text position : Json} {t : Token}
    (h : ofValues? category text position = some t) : t.position ≤ Decimal.maxWord := by
  simp only [ofValues?, Option.bind_eq_bind, Option.bind_eq_some_iff, Option.pure_def,
    Option.some.injEq] at h
  obtain ⟨c, -, s, -, n, hn, rfl⟩ := h
  cases position with
  | num numeral => exact Decimal.le_maxWord_of_word? hn
  | _ => cases hn

/-- What is read as a token has a position with at most 64 bits. -/
theorem position_le_of_ofJson? {j : Json} {t : Token} (h : ofJson? j = some t) :
    t.position ≤ Decimal.maxWord := by
  unfold ofJson? at h
  split at h
  · exact position_le_of_ofValues? h
  · split at h
    · simp only [Option.bind_eq_bind, Option.bind_eq_some_iff] at h
      obtain ⟨category, -, text, -, position, -, hvalues⟩ := h
      exact position_le_of_ofValues? hvalues
    · cases h
  · cases h

/-! ### The tokens that texts are -/

theorem read?_of_spells {text : String} {j : Json} (h : Json.Spells text.toList (.value j)) :
    read? text = ofJson? j := by
  rw [read?, Json.parse?_eq_some_iff.mpr h]
  rfl

/-- A token is read as it was written. -/
theorem read?_render {t : Token} (h : t.position ≤ Decimal.maxWord) :
    read? t.toJson.render = some t := by
  rw [read?_of_spells (Json.spells_render t.written_toJson), toJson_eq_ofFields]
  exact ofJson?_of_perm h (.refl _)

/-- **Tokens are read as they were written.**  A token with a position below `2 ^ 64` is read
from the text it is written as, and from the text of any object that has its three members, in
any order and among any members with other names and any values.  An object in which one of the
three names is missing or stands twice is refused.  What is read as a token is a document, and
the token can be written and read again. -/
theorem json_round_trip :
    (∀ t : Token, t.position < 2 ^ 64 →
      read? t.toJson.render = some t ∧
      ∀ text fields, Json.Spells text.toList (.value (.ofFields fields)) →
        (fields.filter fun f => f.1 ∈ names).Perm t.fields → read? text = some t) ∧
    (∀ text members, Json.Spells text.toList (.value (.obj members)) →
      ∀ name ∈ names, members.countP (fun m => m.1 == some name) ≠ 1 → read? text = none) ∧
    (∀ text t, read? text = some t →
      (∃ j, Json.Spells text.toList (.value j)) ∧ read? t.toJson.render = some t) := by
  refine ⟨?_, ?_, ?_⟩
  · intro t ht
    have hle : t.position ≤ Decimal.maxWord := by
      rw [Decimal.maxWord]
      omega
    refine ⟨read?_render hle, ?_⟩
    intro text fields htext hfields
    rw [read?_of_spells htext]
    exact ofJson?_of_perm hle hfields
  · intro text members htext name hname hcount
    rw [read?_of_spells htext]
    exact ofJson?_eq_none hname hcount
  · intro text t h
    obtain ⟨j, hj, ht⟩ := Option.bind_eq_some_iff.mp h
    exact ⟨⟨j, Json.parse?_eq_some_iff.mp hj⟩, read?_render (position_le_of_ofJson? ht)⟩

/-- A token behind a member with another name and with its own in the reverse order, an object
in which two of the names are missing, and a token as an array. -/
theorem json_round_trip_of_reordered :
    let t : Token := ⟨.noun, "\"ñ", 3⟩
    let members := ("x", .arr [.null]) :: t.fields.reverse
    let text := "\x7b\"x\":[null],\"position\":3,\"text\":\"\\\"ñ\",\"category\":\"Noun\"\x7d"
    let short := "\x7b\"text\":\"\"\x7d"
    let array := "[\"Noun\",\"a\",0]"
    Json.Spells text.toList (.value (.ofFields members)) ∧
      (members.filter fun f => f.1 ∈ names).Perm t.fields ∧ read? text = some t ∧
      Json.Spells short.toList (.value (.ofFields [("text", .ofString "")])) ∧
      read? short = none ∧
      read? array = some ⟨.noun, "a", 0⟩ ∧
      read? (toJson ⟨.noun, "a", 0⟩).render = some ⟨.noun, "a", 0⟩ := by
  intro t members text short array
  have htext : Json.Spells text.toList (.value (.ofFields members)) := by
    have hrender : (Json.ofFields members).render = text := by decide +kernel
    rw [← hrender]
    apply Json.spells_render
    apply Json.written_ofFields
    simp only [members, fields, List.reverse_cons, List.reverse_nil, List.nil_append,
      List.cons_append, List.forall_mem_cons]
    exact ⟨.arr (by simpa using .null), .nat _, .str _, .str _, nofun⟩
  have hperm : (members.filter fun f => f.1 ∈ names).Perm t.fields := by
    rw [List.filter_cons_of_neg (by decide), List.filter_eq_self.mpr (by decide)]
    exact List.reverse_perm _
  have hshort : Json.Spells short.toList (.value (.ofFields [("text", .ofString "")])) := by
    have hrender : (Json.ofFields [("text", .ofString "")]).render = short := by decide +kernel
    rw [← hrender]
    exact Json.spells_render (Json.written_ofFields (by simpa using .str _))
  have harray : read? array = some ⟨.noun, "a", 0⟩ := by decide +kernel
  obtain ⟨hreads, hrefuses, hrewrites⟩ := json_round_trip
  refine ⟨htext, hperm, (hreads t (by decide)).2 text members htext hperm, hshort, ?_, harray,
    (hrewrites array _ harray).2⟩
  exact hrefuses short _ hshort "category" (by decide) (by decide)

end Token
end Oracion
