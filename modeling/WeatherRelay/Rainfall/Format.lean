import WeatherRelay.Json.Document
import WeatherRelay.Json.Fields
import WeatherRelay.Json.Printer
import WeatherRelay.Rainfall.Record

/-!
# The format of the saved record

A record is saved as a JSON object. What reads it back may meet a list of its fields instead, and older records without
slots or without the minute.
-/

namespace WeatherRelay.Rainfall

open Json

/-- How records are written as text, and read. -/
structure Format where
  write : Record Float → String
  read? : String → Option (Record Float)

namespace Format

/-- An integer as a value. -/
def ofInt (n : Int) : Value := .number (if 0 ≤ n then .natural n.toNat.toUInt64 else .negative (Int64.ofInt n))

/-- A double as a value. -/
def ofFloat (x : Float) : Value := .number (.real x)

/-- A slot as a value. -/
def slotValue (s : Slot Float) : Value :=
  .object [("amount", ofFloat s.amount), ("stamp", (s.stamp.map ofInt).getD .null)]

/-- The moment of the saving as a value. -/
def timeValue (t : SavedAt) : Value :=
  .object [("year", ofInt t.year), ("month", ofInt t.month), ("day", ofInt t.day), ("hour", ofInt t.hour),
    ("minute", ofInt t.minute)]

/-- A record as a value. -/
def recordValue (r : Record Float) : Value :=
  .object [("time", timeValue r.time),
    ("rain_current_minute", ofFloat r.sums.minute),
    ("rain_current_hour", ofFloat r.sums.hour),
    ("rain_current_day", ofFloat r.sums.day),
    ("rain_current_month", ofFloat r.sums.month),
    ("rain_current_year", ofFloat r.sums.year),
    ("rain_60", ofFloat r.last60),
    ("rain_24", ofFloat r.last24),
    ("minute_slots", .array (r.minuteSlots.map slotValue)),
    ("hour_slots", .array (r.hourSlots.map slotValue))]

/-- Reads a slot. -/
def slot? (v : Value) : Option (Slot Float) := do
  let f ← Fields.of? ["amount", "stamp"] v
  return { amount := ← f.need? "amount" Value.float?, stamp := ← f.nullable? "stamp" Value.int64? }

/-- Reads a list of slots. -/
def slots? (v : Value) : Option (List (Slot Float)) := v.items?.bind (·.mapM slot?)

/-- Reads the moment of the saving. -/
def time? (v : Value) : Option SavedAt := do
  let f ← Fields.of? ["year", "month", "day", "hour", "minute"] v
  return {
    year := ← f.need? "year" Value.int32?
    month := ← f.need? "month" Value.nat32?
    day := ← f.need? "day" Value.nat32?
    hour := ← f.need? "hour" Value.nat32?
    minute := ← f.orElse? "minute" 0 Value.nat32? }

/-- Reads a record. -/
def record? (v : Value) : Option (Record Float) := do
  let f ← Fields.of? ["time", "rain_current_minute", "rain_current_hour", "rain_current_day", "rain_current_month",
    "rain_current_year", "rain_60", "rain_24", "minute_slots", "hour_slots"] v
  return {
    time := ← f.need? "time" time?
    sums := {
      minute := ← f.need? "rain_current_minute" Value.float?
      hour := ← f.need? "rain_current_hour" Value.float?
      day := ← f.need? "rain_current_day" Value.float?
      month := ← f.need? "rain_current_month" Value.float?
      year := ← f.need? "rain_current_year" Value.float? }
    last60 := ← f.need? "rain_60" Value.float?
    last24 := ← f.need? "rain_24" Value.float?
    minuteSlots := ← f.orElse? "minute_slots" [] slots?
    hourSlots := ← f.orElse? "hour_slots" [] slots? }

/-- The format of the service: JSON over several lines. -/
def json : Format where
  write r := String.ofList ((recordValue r).pretty 0)
  read? s := (Document.of? s).bind fun d => record? d.value

end Format

end WeatherRelay.Rainfall
