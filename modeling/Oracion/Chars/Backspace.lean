import Oracion.Chars.Clusters

/-!
# Backspaces

A backspace in a line takes back the cluster kept last before it, and nothing if there
is none.  How far a cluster reaches is noted as its number of bytes modulo 256, so that
of a cluster of 256 bytes or more only the remainder is taken back.

## Main definitions

* `Typed` — what is kept of a line, and how far its clusters reach.
* `Typed.enter` — one more cluster.
* `withoutBackspaces` — a line after its backspaces have done their work.

## Main results

* `withoutBackspaces_eq_self` — a line without backspaces stays as it is.
-/

namespace Oracion
namespace Chars

/-- The backspace. -/
def backspace : Char := '\x08'

/-- The number of bytes of a text modulo 256. -/
def extent (cs : List Char) : UInt8 := (String.ofList cs).utf8ByteSize.toUInt8

/-- A text without its first characters, as many as fit into `n` bytes. -/
def dropBytes : Nat → List Char → List Char
  | _, [] => []
  | n, c :: cs => if c.utf8Size ≤ n then dropBytes (n - c.utf8Size) cs else c :: cs

/-- What is kept of a line, the last first. -/
structure Typed where
  /-- The characters. -/
  kept : List Char
  /-- How far each of their clusters reaches. -/
  extents : List UInt8
  deriving DecidableEq, Repr, Inhabited

/-- What is kept after one more cluster. -/
def Typed.enter (t : Typed) (cluster : List Char) : Typed :=
  if cluster = [backspace] then
    match t.extents with
    | [] => t
    | n :: ns => ⟨dropBytes n.toNat t.kept, ns⟩
  else ⟨cluster.reverse ++ t.kept, extent cluster :: t.extents⟩

/-- A line after its backspaces have done their work. -/
def withoutBackspaces (cs : List Char) : List Char :=
  ((clusters cs).foldl Typed.enter ⟨[], []⟩).kept.reverse

theorem kept_foldl_enter {ks : List (List Char)} (h : [backspace] ∉ ks) (t : Typed) :
    (ks.foldl Typed.enter t).kept = ks.flatten.reverse ++ t.kept := by
  induction ks generalizing t with
  | nil => simp
  | cons k ks ih =>
    rw [List.mem_cons, not_or] at h
    rw [List.foldl_cons, ih h.2, Typed.enter, if_neg fun e => h.1 e.symm]
    simp

/-- A line without backspaces stays as it is. -/
theorem withoutBackspaces_eq_self {cs : List Char} (h : backspace ∉ cs) :
    withoutBackspaces cs = cs := by
  have none : [backspace] ∉ clusters cs := fun hk =>
    h (flatten_clusters cs ▸ List.mem_flatten.2 ⟨_, hk, List.mem_singleton.2 rfl⟩)
  simp [withoutBackspaces, kept_foldl_enter none]

end Chars
end Oracion
