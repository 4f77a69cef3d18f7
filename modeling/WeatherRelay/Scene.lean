import WeatherRelay.Calendar
import WeatherRelay.Files
import WeatherRelay.Log

/-!
# The scene of an action

What the service acts on while it runs: the clocks, the files, the log, and whatever else its publishers reach.
-/

namespace WeatherRelay

/-- What the clock shows here and in universal time, the time zone, the files, what else there is, and the
log, oldest entry first. -/
structure Scene (S : Type) where
  now : Moment
  utc : Moment := now
  zone : Zone := .utc
  files : Files := {}
  outside : S
  log : List Entry := []

/-- An action on a scene. -/
abbrev Action (S : Type) := StateM (Scene S)

namespace Scene

variable {S α : Type}

/-- The lines of the log. -/
def lines (s : Scene S) : List LogLine := s.log.map (·.line)

/-- The lines of one writer. -/
def linesOf (writer : Writer) (s : Scene S) : List LogLine := (s.log.filter (·.writer = writer)).map (·.line)

/-- The scene with more lines of a writer in its log. -/
def notingAs (s : Scene S) (writer : Writer) (lines : List LogLine) : Scene S :=
  { s with log := s.log ++ lines.map fun line => ⟨writer, line⟩ }

/-- The scene with more lines of the service in its log. -/
def noting (s : Scene S) (lines : List LogLine) : Scene S := s.notingAs .service lines

/-- Writes lines to the log as a writer. -/
def noteAs (writer : Writer) (lines : List LogLine) : Action S Unit := modify (·.notingAs writer lines)

/-- Writes lines to the log as the service. -/
def note (lines : List LogLine) : Action S Unit := noteAs .service lines

/-- Changes what is outside. -/
def change (f : S → S) : Action S Unit := modify fun s => { s with outside := f s.outside }

/-- What a publisher does: its lines are added to the log as its own, and it neither sees nor changes those of others. -/
def byPublisher (x : Action S α) : Action S α := fun s =>
  let (result, after) := x.run { s with log := [] }
  (result, { after with log := s.log ++ after.log.map fun e => ⟨.publisher, e.line⟩ })

theorem linesOf_notingAs (s : Scene S) (writer other : Writer) (lines : List LogLine) :
    (s.notingAs other lines).linesOf writer = s.linesOf writer ++ if other = writer then lines else [] := by
  simp only [linesOf, notingAs, List.filter_append, List.map_append]
  congr 1
  by_cases h : other = writer
  · simp [h, List.filter_map, Function.comp_def]
  · simp [h, List.filter_map, Function.comp_def]

/-- Publishers write nothing as the dispatcher. -/
theorem linesOf_byPublisher (x : Action S α) (s : Scene S) :
    ((byPublisher x).run s).2.linesOf .dispatcher = s.linesOf .dispatcher := by
  let after := (x.run { s with log := [] }).2
  have hlog : ((byPublisher x).run s).2.log = s.log ++ after.log.map fun e => ⟨.publisher, e.line⟩ := rfl
  rw [linesOf, hlog, List.filter_append, List.map_append]
  simp [linesOf, List.filter_map, Function.comp_def]

end Scene

end WeatherRelay
