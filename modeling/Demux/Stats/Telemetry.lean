import Demux.Json
import Demux.Stats

/-!
# Telemetry records

Statistics as JSON text.  Writing has one form; reading takes every presentation of a record: an
object with its fields in any order among fields it does not know, or an array of exactly its
fields in order.  A field may not be given twice, a counter is written in plain digits and fits a
tally, and only a listener's identifier may be left out.
-/

namespace Demux

namespace Tally

/-- A tally in decimal. -/
def toJson (t : Tally) : Json := .number (Nat.toDigits 10 t.val)

/-- The tally that a number in plain digits is, if a tally can hold it. -/
def ofJson? : Json → Option Tally
  | .number spelling =>
      if spelling.all Char.isDigit then ofNat? (Nat.ofDigitChars 10 spelling 0) else none
  | _ => none

end Tally

namespace DropCounters

/-- Drop counters as a record. -/
def toJson (c : DropCounters) : Json :=
  .ofFields [
    ("dropped", c.dropped.toJson),
    ("partial", c.partials.toJson),
    ("overflowed_bytes", c.overflow.toJson)]

/-- The drop counters that a record gives. -/
def ofJson? (j : Json) : Option DropCounters := do
  match ← j.fields? ["dropped", "partial", "overflowed_bytes"] with
  | [some dropped, some partials, some overflow] =>
      return {
        dropped := ← Tally.ofJson? dropped
        partials := ← Tally.ofJson? partials
        overflow := ← Tally.ofJson? overflow }
  | _ => none

end DropCounters

namespace GlobalCounters

/-- Global counters as a record. -/
def toJson (g : GlobalCounters) : Json :=
  .ofFields [("drops", g.drops.toJson), ("unmatched", g.unmatched.toJson)]

/-- The global counters that a record gives. -/
def ofJson? (j : Json) : Option GlobalCounters := do
  match ← j.fields? ["drops", "unmatched"] with
  | [some drops, some unmatched] =>
      return { drops := ← DropCounters.ofJson? drops, unmatched := ← Tally.ofJson? unmatched }
  | _ => none

end GlobalCounters

namespace ListenerStats

/-- An identifier as text, or nothing for the default route. -/
def idToJson : Option String → Json
  | none => .null
  | some id => .string (some id.toList)

/-- The identifier that a field gives; a field left out gives none. -/
def idOfJson? : Option Json → Option (Option String)
  | none => some none
  | some .null => some none
  | some (.string (some id)) => some (some (String.ofList id))
  | some _ => none

/-- The counters of a route as a record. -/
def toJson (l : ListenerStats) : Json :=
  .ofFields [
    ("id", idToJson l.id),
    ("drop_partial", .bool l.dropPartial),
    ("counters", l.counters.toJson)]

/-- The counters of a route that a record gives. -/
def ofJson? (j : Json) : Option ListenerStats := do
  match ← j.fields? ["id", "drop_partial", "counters"] with
  | [id, some dropPartial, some counters] =>
      return {
        id := ← idOfJson? id
        dropPartial := ← dropPartial.toBool?
        counters := ← DropCounters.ofJson? counters }
  | _ => none

end ListenerStats

namespace Stats

/-- Statistics as a record. -/
def toJson (s : Stats) : Json :=
  .ofFields [
    ("global", s.global.toJson),
    ("listeners", .array (s.listeners.map ListenerStats.toJson))]

/-- The statistics that a record gives. -/
def ofJson? (j : Json) : Option Stats := do
  match ← j.fields? ["global", "listeners"] with
  | [some global, some (.array listeners)] =>
      return {
        global := ← GlobalCounters.ofJson? global
        listeners := ← listeners.mapM ListenerStats.ofJson? }
  | _ => none

/-- Statistics as a telemetry record. -/
def encode (s : Stats) : String := String.ofList s.toJson.render

/-- The statistics that a telemetry record presents, if it presents any. -/
def decode? (text : String) : Option Stats := (Json.parse? text.toList).bind ofJson?

end Stats

end Demux
