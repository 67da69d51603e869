import Oracion.Decimal.Fixed
import Oracion.Trace.Event

/-!
# The text of a trace

One line for each record: on demand its number and its time, then two blanks for each
rule that was being matched, then the event.

## Main definitions

* `Layout` — which columns are shown.
* `timeText` — a time in the unit that suits it.
* `Layout.line`, `Layout.text` — a record, and a list of records, as text.
-/

namespace Oracion
namespace Trace

/-- Which columns stand before the event. -/
structure Layout where
  /-- Whether a record's number is shown. -/
  ids : Bool := false
  /-- Whether a record's time is shown. -/
  times : Bool := false
  deriving DecidableEq, Repr, Inhabited

/-- The layout with the event alone. -/
def Layout.plain : Layout := ⟨false, false⟩

/-- A time with three places in seconds from one second on and in milliseconds from one
millisecond on; below that in whole microseconds. -/
def timeText (nanos : Nat) : String :=
  let micros := nanos / 1000
  let inUnit (unit : Nat) : String := ((Decimal.Binary.ofNat micros).div (.ofNat unit)).fixed 3
  if 1000000 ≤ micros then inUnit 1000000 ++ "s"
  else if 1000 ≤ micros then inUnit 1000 ++ "ms"
  else toString micros ++ "us"

/-- A record as a line. -/
def Layout.line (l : Layout) (r : Record) : String :=
  (if l.ids then "[" ++ Decimal.digits 6 r.id ++ "] " else "") ++
    (if l.times then Text.padLeft 10 " " (timeText r.nanos) ++ " " else "") ++
    Text.times r.depth "  " ++ r.event.render

/-- Records as text, one under the other. -/
def Layout.text (l : Layout) (rs : List Record) : String := Text.joinLines (rs.map l.line)

end Trace
end Oracion
