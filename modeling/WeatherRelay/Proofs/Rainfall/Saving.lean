import WeatherRelay.Proofs.FilePath
import WeatherRelay.Proofs.Rainfall.Restart

/-!
# Savings that are cut short

A saving may end anywhere: between its steps, in the middle of the write, with a step that fails
(`SaveStep.Leaves`). As long as the path beside the gauge's path is another one, what stands at the gauge's path is
then what stood there before, or the whole new record, and a gauge that is opened there is one of the two
(`saving_is_atomic`). The gauge that saves is the same whatever became of the saving. A path that already has the
extension of the path beside it is its own, and what is written there in part stays; a record with infinite sums is
written whole and cannot be read (`lost_by_saving`).
-/

namespace WeatherRelay.Rainfall

namespace SaveStep

/-- How steps may leave the files when they are cut short. They end before a step, as when it fails; in the middle of a
write, with some beginning of the content in the file; or later. -/
inductive Leaves : Files → List SaveStep → Files → Prop where
  | here (fs : Files) (steps : List SaveStep) : Leaves fs steps fs
  | within {fs left : Files} {path : String} {content : ByteArray} (rest : List SaveStep) (length : Nat)
      (h : fs.write path (content.extract 0 length) = .ok left) : Leaves fs (.write path content :: rest) left
  | later {fs next left : Files} {s : SaveStep} {rest : List SaveStep} (h : s.run fs = .ok next)
      (hrest : Leaves next rest left) : Leaves fs (s :: rest) left

/-- Steps that are taken until one fails leave the files in one of these ways. -/
theorem leaves_runAll (fs : Files) (steps : List SaveStep) : Leaves fs steps (runAll fs steps).1 := by
  induction steps generalizing fs with
  | nil => exact .here fs []
  | cons s rest ih =>
    unfold runAll
    cases h : s.run fs with
    | error e => exact .here fs _
    | ok next => exact .later h (ih next)

/-- How the steps that write beside a path and rename may leave the files: as they were, with something written beside
the path, or with both steps taken. -/
theorem Leaves.cases_beside {fs left : Files} {beside path : String} {content : ByteArray}
    (h : Leaves fs [.write beside content, .rename beside path] left) :
    left = fs ∨ (∃ part, fs.write beside part = .ok left) ∨
      ∃ next, fs.write beside content = .ok next ∧ next.rename beside path = .ok left := by
  cases h with
  | here => exact Or.inl rfl
  | within _ _ h => exact Or.inr (Or.inl ⟨_, h⟩)
  | later hwrite hrest =>
    cases hrest with
    | here => exact Or.inr (Or.inl ⟨_, hwrite⟩)
    | later hrename hrest =>
      cases hrest
      exact Or.inr (Or.inr ⟨_, hwrite, hrename⟩)

/-- What stands at a path after its saving was cut short, where the path beside it is another one. -/
theorem Leaves.standing? {fs left : Files} {path ext : String} {content : ByteArray} (hext : '/' ∉ ext.toList)
    (hbeside : withExtension path ext ≠ path)
    (h : Leaves fs [.write (withExtension path ext) content, .rename (withExtension path ext) path] left) :
    left.standing? path = fs.standing? path ∨ left.lookUp path = .ok (.file content) := by
  obtain rfl | ⟨part, hwrite⟩ | ⟨next, hwrite, hrename⟩ := h.cases_beside
  · exact Or.inl rfl
  · obtain ⟨q, hq, rfl⟩ := Files.write_eq_ok hwrite
    obtain ⟨name, hname, -⟩ := hq.name
    exact Or.inl (Files.standing?_put hq.noDirectory part fun p _ hp hlast hslash =>
      Files.withExtension_path_ne hext hp hlast hslash hq.place hname hbeside)
  · exact Or.inr (Files.lookUp_of_write_rename hwrite hrename)

end SaveStep

namespace Gauge

open SaveStep (Leaves)

/-- A gauge is opened from what stands at its path. -/
theorem openAt_congr (format : Format) {fs left : Files} {path : String} (h : left.standing? path = fs.standing? path)
    (now : Moment) : openAt format left path now = openAt format fs path now := by
  unfold Files.standing? at h
  unfold openAt readRecord Files.exists? Files.readText Files.read
  cases hleft : left.lookUp path with
  | error e =>
    cases hfs : fs.lookUp path with
    | error e' => rfl
    | ok node =>
      rw [hleft, hfs] at h
      cases h
  | ok node =>
    cases hfs : fs.lookUp path with
    | error e' =>
      rw [hleft, hfs] at h
      cases h
    | ok node' =>
      rw [hleft, hfs] at h
      obtain rfl := Option.some.inj h
      rfl

/-- Rain is added, and its saving is cut short in any way, beside a path that is another one. At the gauge's path stands
what stood there before, or the whole new record; a gauge that is opened there later is the one that would have been
opened before, or the one that the new record makes, if the record can be read. Savings that end as the service's do are
among those; and whatever a saving does, the gauge is the same as after a saving that succeeds. -/
theorem saving_is_atomic (format : Format) (g : Gauge) (fs : Files) (amount : Float) (now : Moment) {path : String}
    (hpath : g.path = some path) (hbeside : withExtension path "tmp" ≠ path) :
    let saved : Gauge := { g with accumulator := g.accumulator.add amount now }
    let record := saved.accumulator.record now
    (∀ left, Leaves fs (saved.saveSteps format now) left →
      (left.standing? path = fs.standing? path ∨ left.standing? path = some (.file (format.write record).toUTF8)) ∧
        ∀ r, format.read? (format.write record) = some r → r.time = record.time → ∀ later,
          openAt format left path later = openAt format fs path later ∨
            ∃ a, Accumulator.empty.restore? r later = some a ∧
              (openAt format left path later).1 = { accumulator := a, path := some path }) ∧
      Leaves fs (saved.saveSteps format now) (g.add format fs amount now).2.1 ∧
      ∀ save, (g.addWith save format fs amount now).1 = saved ∧ (g.add format fs amount now).1 = saved := by
  intro saved record
  have hsteps : saved.saveSteps format now =
      [.write (withExtension path "tmp") (format.write record).toUTF8, .rename (withExtension path "tmp") path] := by
    simp only [saveSteps, saved, hpath, record]
  refine ⟨fun left hleaves => ?_, ?_, fun save => ⟨addWith_fst .., add_fst ..⟩⟩
  · rw [hsteps] at hleaves
    have hstands := hleaves.standing? (by decide) hbeside
    refine ⟨hstands.imp_right fun hnew => by rw [Files.standing?, hnew]; rfl, fun r hread htime later => ?_⟩
    rcases hstands with hold | hnew
    · exact Or.inl (openAt_congr format hold later)
    · have hmoment : r.time.moment? = some now.minuteStart := htime ▸ SavedAt.moment?_ofMoment now
      obtain ⟨a, ha⟩ : ∃ a, (Accumulator.empty : Accumulator Float).restore? r later = some a := by
        rw [Accumulator.restore?, hmoment]
        exact ⟨_, rfl⟩
      exact Or.inr ⟨a, ha, openAt_of_text format left path later hnew hread ha⟩
  · rw [add, addWith_files]
    exact SaveStep.leaves_runAll fs _

open GaugeRun (beforeMidnight midnight savedBefore json_reads_savedBefore)

/-- An empty gauge that is kept at a path. -/
def keptAt (path : String) : Gauge := { path := some path }

theorem record_beforeMidnight :
    ((Accumulator.empty : Accumulator Float).add beforeMidnight.amount beforeMidnight.time).record beforeMidnight.time =
      savedBefore := by
  decide +kernel

/-- The first ten bytes of a record, beside a path where nothing stands. -/
def cutShort : Files := Files.put {} ["rain.tmp"] (.file ((Format.json.write savedBefore).toUTF8.extract 0 10))

theorem write_cutShort :
    Files.write {} "/rain.tmp" ((Format.json.write savedBefore).toUTF8.extract 0 10) = .ok cutShort := by
  have hopen : Files.openFile {} "/rain.tmp" = .ok (["rain.tmp"], none) := by decide +kernel
  rw [Files.write, hopen]
  rfl

/-- After ten bytes of a record were written beside its path, what stands at the path and what is
opened there is old or new. -/
theorem ten_bytes_beside :
    cutShort.lookUp "/rain.tmp" = .ok (.file ((Format.json.write savedBefore).toUTF8.extract 0 10)) ∧
      (cutShort.standing? "/rain.json" = Files.standing? {} "/rain.json" ∨
        cutShort.standing? "/rain.json" = some (.file (Format.json.write savedBefore).toUTF8)) ∧
      (openAt .json cutShort "/rain.json" midnight = openAt .json {} "/rain.json" midnight ∨
        ∃ a, Accumulator.empty.restore? savedBefore midnight = some a ∧
          (openAt .json cutShort "/rain.json" midnight).1 = { accumulator := a, path := some "/rain.json" }) := by
  have hbeside : withExtension "/rain.json" "tmp" = "/rain.tmp" := by decide
  obtain ⟨hatomic, -, -⟩ := saving_is_atomic .json (keptAt "/rain.json") {} beforeMidnight.amount beforeMidnight.time rfl
    (by rw [hbeside]; decide)
  simp only [saveSteps, keptAt, hbeside, record_beforeMidnight] at hatomic
  obtain ⟨hstands, hopened⟩ := hatomic cutShort (.within _ 10 write_cutShort)
  exact ⟨Files.lookUp_of_write write_cutShort, hstands, hopened savedBefore json_reads_savedBefore rfl midnight⟩

/-- Where the path beside a gauge's path is the path itself, a write that is cut short leaves any beginning of
the new record there. -/
theorem beginning_left_in_place (format : Format) {g : Gauge} {fs left : Files} {now : Moment} {path : String} (length : Nat)
    (hpath : g.path = some path) (hinPlace : withExtension path "tmp" = path)
    (h : fs.write path ((format.write (g.accumulator.record now)).toUTF8.extract 0 length) = .ok left) :
    Leaves fs (g.saveSteps format now) left ∧
      left.lookUp path = .ok (.file ((format.write (g.accumulator.record now)).toUTF8.extract 0 length)) := by
  refine ⟨?_, Files.lookUp_of_write h⟩
  simp only [saveSteps, hpath, hinPlace]
  exact .within _ length h

/-- A record that is kept where others have the file beside. -/
def inPlace : Files := Files.put {} ["rain.tmp"] (.file (Format.json.write savedBefore).toUTF8)

theorem lookUp_inPlace : inPlace.lookUp "/rain.tmp" = .ok (.file (Format.json.write savedBefore).toUTF8) := by
  have hopen : Files.openFile {} "/rain.tmp" = .ok (["rain.tmp"], none) := by decide +kernel
  have hwrite : Files.write {} "/rain.tmp" (Format.json.write savedBefore).toUTF8 = .ok inPlace := by
    rw [Files.write, hopen]
    rfl
  exact Files.lookUp_of_write hwrite

/-- Rain that makes the sums infinite when it falls twice. -/
def flood : Rain Float := ⟨1e308, beforeMidnight.time⟩

/-- Two savings after which neither the old record nor the new one is restored. One is cut short at a path
with the extension of the path beside it, and the file is left empty. The other succeeds, but the record of
infinite sums cannot be read. -/
theorem lost_by_saving :
    (∃ left, Leaves inPlace (saveSteps .json { keptAt "/rain.tmp" with
        accumulator := (Accumulator.empty.add beforeMidnight.amount beforeMidnight.time).add 1 beforeMidnight.time }
        beforeMidnight.time) left ∧
      (openAt .json inPlace "/rain.tmp" beforeMidnight.time).1.accumulator.windows.day.sum = 1.5 ∧
      (openAt .json left "/rain.tmp" beforeMidnight.time).1 = keptAt "/rain.tmp") ∧
    let first := (keptAt "/rain.json").add .json {} flood.amount flood.time
    let second := first.1.add .json first.2.1 flood.amount flood.time
    second.2.2 = [] ∧ (openAt .json second.2.1 "/rain.json" flood.time).1 = keptAt "/rain.json" := by
  constructor
  · obtain ⟨left, hwrite⟩ := Files.exists_write_of_lookUp lookUp_inPlace
      ((Format.json.write ((((Accumulator.empty : Accumulator Float).add beforeMidnight.amount beforeMidnight.time).add 1
        beforeMidnight.time).record beforeMidnight.time)).toUTF8.extract 0 0)
    obtain ⟨hleaves, hempty⟩ := beginning_left_in_place .json (g := { keptAt "/rain.tmp" with
        accumulator := (Accumulator.empty.add beforeMidnight.amount beforeMidnight.time).add 1 beforeMidnight.time })
      0 rfl (by decide) hwrite
    refine ⟨left, hleaves, ?_, ?_⟩
    · have hday : (Accumulator.empty.restore? savedBefore beforeMidnight.time).map (·.windows.day.sum) = some 1.5 := by
        decide +kernel
      obtain ⟨a, ha, hsum⟩ := Option.map_eq_some_iff.mp hday
      rw [openAt_eq .json inPlace _ _ lookUp_inPlace json_reads_savedBefore ha, hsum]
    · have hfile : left.lookUp "/rain.tmp" = .ok (.file "".toUTF8) := by
        rw [hempty, ByteArray.extract_eq_empty_iff.mpr (by simp)]
        rfl
      exact openAt_of_unread .json left "/rain.tmp" _ hfile (by decide +kernel)
  · intro first second
    have hunread : Format.json.read? (Format.json.write
        (((Accumulator.empty.add flood.amount flood.time).add flood.amount flood.time).record flood.time)) = none := by
      rw [Format.json_read_write]
      decide +kernel
    have hlog : second.2.2 = [] := by decide +kernel
    have hpath : first.1.path = some "/rain.json" := by
      simp only [first, add_fst]
      rfl
    have hfile := add_lookUp .json first.1 first.2.1 flood.amount flood.time hpath hlog
    rw [add_accumulator] at hfile
    exact ⟨hlog, openAt_of_unread .json second.2.1 "/rain.json" flood.time hfile hunread⟩

end Gauge

end WeatherRelay.Rainfall
