import WeatherRelay.Proofs.Files
import WeatherRelay.Rainfall.Gauge

/-!
# The rain gauge and its file

What the gauge is after rain does not depend on its file, and a saving that logs no failure leaves the new record in the
file, where the gauge that is opened next finds it.
-/

namespace WeatherRelay.Rainfall.Gauge

/-- What becomes of the saving has no bearing on the gauge. -/
theorem addWith_fst (save : Files → List SaveStep → Files × Option FileError) (format : Format) (g : Gauge) (fs : Files)
    (amount : Float) (now : Moment) :
    (g.addWith save format fs amount now).1 = { g with accumulator := g.accumulator.add amount now } := by
  unfold addWith
  dsimp only
  split <;> rfl

theorem addWith_files (save : Files → List SaveStep → Files × Option FileError) (format : Format) (g : Gauge) (fs : Files)
    (amount : Float) (now : Moment) :
    (g.addWith save format fs amount now).2.1 =
      (save fs (saveSteps format { g with accumulator := g.accumulator.add amount now } now)).1 := by
  unfold addWith
  dsimp only
  split <;> rename_i hsave <;> rw [hsave]

theorem add_fst (format : Format) (g : Gauge) (fs : Files) (amount : Float) (now : Moment) :
    (g.add format fs amount now).1 = { g with accumulator := g.accumulator.add amount now } :=
  addWith_fst SaveStep.runAll format g fs amount now

theorem add_accumulator (format : Format) (g : Gauge) (fs : Files) (amount : Float) (now : Moment) :
    (g.add format fs amount now).1.accumulator = g.accumulator.add amount now := by
  rw [add_fst]

/-- Nothing is logged when all steps of the saving were taken. -/
theorem add_saved (format : Format) (g : Gauge) (fs : Files) (amount : Float) (now : Moment)
    (h : (g.add format fs amount now).2.2 = []) :
    SaveStep.runAll fs (saveSteps format { g with accumulator := g.accumulator.add amount now } now) =
      ((g.add format fs amount now).2.1, none) := by
  simp only [add, addWith] at h ⊢
  cases hrun : SaveStep.runAll fs (saveSteps format { g with accumulator := g.accumulator.add amount now } now) with
  | mk fs' failure =>
    cases failure with
    | none => rfl
    | some e => simp [hrun] at h

/-- A saving that logs no failure leaves the new record in the gauge's file. -/
theorem add_lookUp (format : Format) (g : Gauge) (fs : Files) (amount : Float) (now : Moment) {path : String}
    (hpath : g.path = some path) (hsaved : (g.add format fs amount now).2.2 = []) :
    (g.add format fs amount now).2.1.lookUp path =
      .ok (.file (format.write ((g.accumulator.add amount now).record now)).toUTF8) := by
  have hrun := add_saved format g fs amount now hsaved
  simp only [saveSteps, hpath, SaveStep.runAll, SaveStep.run] at hrun
  cases hw : fs.write (withExtension path "tmp") (format.write ((g.accumulator.add amount now).record now)).toUTF8 with
  | error e =>
    rw [hw] at hrun
    simp at hrun
  | ok fs' =>
    rw [hw] at hrun
    cases hr : fs'.rename (withExtension path "tmp") path with
    | error e => simp [hr] at hrun
    | ok fs'' =>
      simp only [hr, Prod.mk.injEq, and_true] at hrun
      rw [← hrun]
      exact Files.lookUp_of_write_rename hw hr

/-- The gauge opened from a file whose text is read as a record is the one that the record makes. -/
theorem openAt_of_text (format : Format) (fs : Files) (path : String) (now : Moment) {text : String} {r : Record Float}
    {a : Accumulator Float} (hfile : fs.lookUp path = .ok (.file text.toUTF8)) (hread : format.read? text = some r)
    (hrestore : Accumulator.empty.restore? r now = some a) :
    (openAt format fs path now).1 = { accumulator := a, path := some path } := by
  obtain ⟨hexists, htext⟩ := Files.readText_of_lookUp hfile
  have hrecord : readRecord format fs path = .ok r := by simp only [readRecord, htext, hread]
  simp only [openAt, hexists, if_true, hrecord, restore, hrestore]

/-- The gauge opened from a file that holds a record is the one that the record makes. -/
theorem openAt_eq (format : Format) (fs : Files) (path : String) (now : Moment) {r : Record Float} {a : Accumulator Float}
    (hfile : fs.lookUp path = .ok (.file (format.write r).toUTF8)) (hread : format.read? (format.write r) = some r)
    (hrestore : Accumulator.empty.restore? r now = some a) :
    (openAt format fs path now).1 = { accumulator := a, path := some path } :=
  openAt_of_text format fs path now hfile hread hrestore

/-- A file whose text is no record makes an empty gauge. -/
theorem openAt_of_unread (format : Format) (fs : Files) (path : String) (now : Moment) {text : String}
    (hfile : fs.lookUp path = .ok (.file text.toUTF8)) (hread : format.read? text = none) :
    (openAt format fs path now).1 = { path := some path } := by
  obtain ⟨hexists, htext⟩ := Files.readText_of_lookUp hfile
  have hrecord : readRecord format fs path = .error .notJson := by simp only [readRecord, htext, hread]
  simp only [openAt, hexists, if_true, hrecord]

end WeatherRelay.Rainfall.Gauge
