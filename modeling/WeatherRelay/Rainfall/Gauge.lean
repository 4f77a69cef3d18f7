import WeatherRelay.Files
import WeatherRelay.Log
import WeatherRelay.Rainfall.Format

/-!
# The rain gauge

An accumulator that may be kept in a file. A record is saved by writing it beside the file and giving it the file's
name, so that the file holds one whole record or another; whatever becomes of the saving, the totals are the same.
-/

namespace WeatherRelay.Rainfall

/-- An accumulator and the path of its file, if it is kept in one. -/
structure Gauge where
  accumulator : Accumulator Float := .empty
  path : Option String := none

/-- A step of saving. -/
inductive SaveStep where
  | write (path : String) (content : ByteArray)
  | rename (source target : String)

/-- The change that a step makes to the files. -/
def SaveStep.run (fs : Files) : SaveStep → Except FileError Files
  | .write path content => fs.write path content
  | .rename source target => fs.rename source target

/-- Takes steps until one fails, and tells how the files are then. -/
def SaveStep.runAll (fs : Files) : List SaveStep → Files × Option FileError
  | [] => (fs, none)
  | s :: rest =>
    match s.run fs with
    | .ok fs => runAll fs rest
    | .error e => (fs, some e)

/-- Why a record is not used. -/
inductive RecordError where
  | io (e : FileError)
  | notJson
  | invalidTime (time : SavedAt)

/-- A saved time as errors show it. -/
def SavedAt.text (t : SavedAt) : String :=
  s!"SavedAt \x7b year: {t.year}, month: {t.month}, day: {t.day}, hour: {t.hour}, minute: {t.minute} \x7d"

/-- The wording of an error. -/
def RecordError.message : RecordError → String
  | .io e => s!"IO error: {e.text}"
  | .notJson => "JSON error"
  | .invalidTime t => s!"invalid saved time: {t.text}"

/-- An amount in millimetres as the log shows it. -/
def amountText (x : Float) : String := Decimal.floatText 2 x

/-- The line about a saved sum that is dropped. -/
def Discarded.line (d : Discarded Float) : LogLine :=
  .info s!"[Rainfall] discarding saved {d.period.name} total {amountText d.sum} mm, period has ended"

namespace Gauge

/-- Restores a record. -/
def restore (g : Gauge) (r : Record Float) (now : Moment) : Except RecordError (Gauge × List LogLine) :=
  match g.accumulator.restore? r now with
  | none => .error (.invalidTime r.time)
  | some a => .ok ({ g with accumulator := a }, (r.discarded now).map (·.line))

/-- The record in a file. -/
def readRecord (format : Format) (fs : Files) (path : String) : Except RecordError (Record Float) :=
  match fs.readText path with
  | .error e => .error (.io e)
  | .ok text =>
    match format.read? text with
    | none => .error .notJson
    | some r => .ok r

/-- The gauge that is kept in a file, with what the file holds restored as far as it is still current. A file that is
missing or of no use makes an empty gauge. -/
def openAt (format : Format) (fs : Files) (path : String) (now : Moment) : Gauge × List LogLine :=
  let fresh : Gauge := { path := some path }
  if fs.exists? path then
    match readRecord format fs path with
    | .error e => (fresh, [.warn s!"[Rainfall] failed to read {path}: {e.message}"])
    | .ok r =>
      match fresh.restore r now with
      | .error e => (fresh, [.warn s!"[Rainfall] ignoring {path}: {e.message}"])
      | .ok (g, lines) =>
        let totals := g.accumulator.totals
        (g, lines ++ [.info s!"[Rainfall] restored totals from {path} (day {amountText totals.windows.day} mm, year {amountText totals.windows.year} mm)"])
  else (fresh, [.info s!"[Rainfall] no saved state at {path}, starting empty"])

/-- The steps that save the record of a moment. -/
def saveSteps (format : Format) (g : Gauge) (now : Moment) : List SaveStep :=
  match g.path with
  | none => []
  | some path =>
    let beside := withExtension path "tmp"
    [.write beside (format.write (g.accumulator.record now)).toUTF8, .rename beside path]

/-- Adds rain and saves in some way, which tells how the files are then and what failed; a saving that fails is logged. -/
def addWith (save : Files → List SaveStep → Files × Option FileError) (format : Format) (g : Gauge) (fs : Files) (amount : Float)
    (now : Moment) : Gauge × Files × List LogLine :=
  let g := { g with accumulator := g.accumulator.add amount now }
  match save fs (g.saveSteps format now) with
  | (fs, none) => (g, fs, [])
  | (fs, some e) => (g, fs, [.error s!"[Rainfall] failed to save state: {(RecordError.io e).message}"])

/-- Adds rain and takes all steps of saving. -/
def add (format : Format) (g : Gauge) (fs : Files) (amount : Float) (now : Moment) : Gauge × Files × List LogLine :=
  g.addWith SaveStep.runAll format fs amount now

end Gauge

end WeatherRelay.Rainfall
