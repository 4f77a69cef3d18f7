import WeatherRelay.Proofs.Calendar
import WeatherRelay.Proofs.Rainfall.Gauge
import WeatherRelay.Proofs.Rainfall.Run

/-!
# Restarts

A gauge that is dropped and opened anew from its file is not the gauge that went on: the file tells the time of the last
rain to the minute only, and windows whose period is over are lost. But what is lost no later rain could have added to. So
from the moment of the restart on the two agree (`Agrees`), and the next rain makes them equal.
-/

namespace WeatherRelay

/-- The beginning of a moment's minute. -/
def Moment.minuteStart (t : Moment) : Moment := { t with second := 0, isTime := ⟨t.isTime.1, t.isTime.2.1, by decide⟩ }

/-- A minute lies in one period of each kind. -/
theorem Period.same_minuteStart (p : Period) (t now : Moment) : p.same t.minuteStart now = p.same t now := by
  cases p <;> rfl

namespace Rainfall

/-- A saved time is the beginning of the minute in which it was saved. -/
theorem SavedAt.moment?_ofMoment (t : Moment) : (SavedAt.ofMoment t).moment? = some t.minuteStart :=
  Moment.of?_fields t.minuteStart

/-! ## Accumulators that later rain makes equal -/

section

variable {α : Type} [Scalar α]

/-- That two accumulators hold the same slots, and that rain at a moment or later makes the same of their windows. -/
structure Agrees (now : Moment) (a b : Accumulator α) : Prop where
  minuteSlots : a.minuteSlots = b.minuteSlots
  hourSlots : a.hourSlots = b.hourSlots
  window : ∀ p amount t, now ≤ t → (a.windows.get p).add p amount t = (b.windows.get p).add p amount t

theorem Agrees.refl (now : Moment) (a : Accumulator α) : Agrees now a a := ⟨rfl, rfl, fun _ _ _ _ => rfl⟩

/-- The first rain that comes makes them equal. -/
theorem Agrees.add_eq {now t : Moment} {a b : Accumulator α} (h : Agrees now a b) (ht : now ≤ t) (amount : α) :
    a.add amount t = b.add amount t := by
  have hwindows : (fun p => (a.windows.get p).add p amount t) = fun p => (b.windows.get p).add p amount t :=
    funext fun p => h.window p amount t ht
  simp only [Accumulator.add, Accumulator.roll, Accumulator.addToSlots, h.minuteSlots, h.hourSlots, hwindows]

/-- A window that is dropped when its period is over makes no difference to later rain. -/
theorem Window.add_restored (w : Window α) {last now t : Moment} (hw : w.last = some last) (hlast : last ≤ now)
    (ht : now ≤ t) (p : Period) (amount : α) :
    (Window.restored p w.sum last.minuteStart now).add p amount t = w.add p amount t := by
  by_cases hnow : p.same last now = true
  · simp [restored, add, covers, hw, Period.same_minuteStart, hnow]
  · have hlater : ¬p.same last t = true := fun h => hnow (p.same_of_between hlast ht h)
    simp [restored, add, covers, empty, hw, Period.same_minuteStart, hnow, hlater]

omit [Scalar α] in
theorem Accumulator.takeSlots_toList {n : Nat} (held slots : Vector (Slot α) n) :
    Accumulator.takeSlots held slots.toList = slots := by
  simp [Accumulator.takeSlots, Vector.toList]

/-- The record of the last rain makes an accumulator that agrees with the one it was saved of. -/
theorem Accumulator.agrees_restore (a fresh : Accumulator α) {last now : Moment}
    (hwindows : ∀ p, (a.windows.get p).last = some last) (hlast : last ≤ now) :
    ∃ b, fresh.restore? (a.record last) now = some b ∧ Agrees now a b := by
  have hmoment : (a.record last).time.moment? = some last.minuteStart := SavedAt.moment?_ofMoment last
  simp only [restore?, hmoment, Option.map_some]
  refine ⟨_, rfl, ?_, ?_, ?_⟩
  · exact (takeSlots_toList _ _).symm
  · exact (takeSlots_toList _ _).symm
  · intro p amount t ht
    simp only [roll, record, PerPeriod.get_of]
    exact ((a.windows.get p).add_restored (hwindows p) hlast ht p amount).symm

end

/-! ## Gauges opened anew -/

namespace Gauge

/-- The gauge opened from a file that holds the record of its last rain agrees with the one that the record was saved
of. -/
theorem agrees_openAt (format : Format) (a : Accumulator Float) (fs : Files) (path : String) {last now : Moment}
    (hwindows : ∀ p, (a.windows.get p).last = some last) (hlast : last ≤ now)
    (hfile : fs.lookUp path = .ok (.file (format.write (a.record last)).toUTF8))
    (hread : format.read? (format.write (a.record last)) = some (a.record last)) :
    (openAt format fs path now).1.path = some path ∧ Agrees now a (openAt format fs path now).1.accumulator := by
  obtain ⟨b, hrestore, hagrees⟩ := a.agrees_restore .empty hwindows hlast
  rw [openAt_eq format fs path now hfile hread hrestore]
  exact ⟨rfl, hagrees⟩

end Gauge

/-! ## Runs with restarts -/

/-- All numbers of a record. -/
def Record.numbers {α : Type} (r : Record α) : List α :=
  [r.sums.minute, r.sums.hour, r.sums.day, r.sums.month, r.sums.year, r.last60, r.last24] ++
    r.minuteSlots.map (·.amount) ++ r.hourSlots.map (·.amount)

/-- That a record has finite numbers only. -/
def Record.IsFinite (r : Record Float) : Prop := ∀ x ∈ r.numbers, x.isFinite = true

instance (r : Record Float) : Decidable r.IsFinite := inferInstanceAs (Decidable (∀ x ∈ r.numbers, x.isFinite = true))

/-- What is read of a record's text is what is read of its characters. -/
theorem Format.json_read_write (r : Record Float) :
    Format.json.read? (Format.json.write r) =
      (Json.Document.ofUnits? (((Format.recordValue r).pretty 0).map some)).bind fun d => Format.record? d.value := by
  simp only [json, Json.Document.of?, String.toList_ofList]

/-- What happens to a gauge that is kept in a file: rain comes in, or it is dropped and opened anew. -/
inductive GaugeEvent where
  | rain (r : Rain Float)
  | restart (now : Moment)

namespace GaugeEvent

/-- When an event happens. -/
def time : GaugeEvent → Moment
  | rain r => r.time
  | restart now => now

/-- Whether an event is rain. -/
def isRain : GaugeEvent → Bool
  | rain _ => true
  | restart _ => false

end GaugeEvent

/-- A gauge and the files in the course of a run, with all totals that were returned, all records that were to be saved,
and what was logged of savings that failed. -/
structure GaugeRun where
  gauge : Gauge
  files : Files
  returned : List (Totals Float) := []
  saved : List (Record Float) := []
  failures : List LogLine := []

namespace GaugeRun

/-- What an event does to the gauge of a path. -/
def step (format : Format) (path : String) (s : GaugeRun) : GaugeEvent → GaugeRun
  | .rain r =>
    let (gauge, files, log) := s.gauge.add format s.files r.amount r.time
    { gauge
      files
      returned := s.returned ++ [gauge.accumulator.totalsAt r.time]
      saved := s.saved ++ [gauge.accumulator.record r.time]
      failures := s.failures ++ log }
  | .restart now => { s with gauge := (Gauge.openAt format s.files path now).1 }

/-- What events do one after another. -/
def run (format : Format) (path : String) (s : GaugeRun) (events : List GaugeEvent) : GaugeRun :=
  events.foldl (step format path) s

variable {format : Format} {path : String}

/-- A run forgets no record and no failure. -/
theorem run_extends (format : Format) (path : String) (s : GaugeRun) (events : List GaugeEvent) :
    s.saved <+: (run format path s events).saved ∧ s.failures <+: (run format path s events).failures := by
  induction events generalizing s with
  | nil => exact ⟨List.prefix_refl _, List.prefix_refl _⟩
  | cons e rest ih =>
    have hstep : s.saved <+: (step format path s e).saved ∧ s.failures <+: (step format path s e).failures := by
      cases e with
      | rain r => exact ⟨List.prefix_append _ _, List.prefix_append _ _⟩
      | restart now => exact ⟨List.prefix_refl _, List.prefix_refl _⟩
    exact ⟨hstep.1.trans (ih _).1, hstep.2.trans (ih _).2⟩

/-- That a run with restarts keeps up with an accumulator that was never dropped: its file holds the record of the last
rain, and its gauge agrees with the accumulator from now on. -/
structure Follows (format : Format) (path : String) (live : Accumulator Float) (last now : Moment) (s : GaugeRun) : Prop where
  isKept : s.gauge.path = some path
  agrees : Agrees now live s.gauge.accumulator
  windows : ∀ p, (live.windows.get p).last = some last
  last_le : last ≤ now
  file : s.files.lookUp path = .ok (.file (format.write (live.record last)).toUTF8)
  readable : format.read? (format.write (live.record last)) = some (live.record last)

/-- Rain makes the accumulators of two runs that agree equal, and brings the file of the one that saves up to date. -/
theorem follows_rain {s u : GaugeRun} {now : Moment} {r : Rain Float} (rest : List GaugeEvent)
    (hkept : s.gauge.path = some path) (hagrees : Agrees now u.gauge.accumulator s.gauge.accumulator) (hnow : now ≤ r.time)
    (hreturned : s.returned = u.returned)
    (hread : ∀ x ∈ (run format path s (.rain r :: rest)).saved, format.read? (format.write x) = some x)
    (hsaves : (run format path s (.rain r :: rest)).failures = []) :
    Follows format path (step format path u (.rain r)).gauge.accumulator r.time r.time (step format path s (.rain r)) ∧
      (step format path s (.rain r)).returned = (step format path u (.rain r)).returned := by
  obtain ⟨hsaved, hfailures⟩ := run_extends format path (step format path s (.rain r)) rest
  have hsame := hagrees.add_eq hnow r.amount
  have hs : (step format path s (.rain r)).gauge.accumulator = s.gauge.accumulator.add r.amount r.time :=
    Gauge.add_accumulator format s.gauge s.files r.amount r.time
  have hu : (step format path u (.rain r)).gauge.accumulator = u.gauge.accumulator.add r.amount r.time :=
    Gauge.add_accumulator format u.gauge u.files r.amount r.time
  have hlog : (s.gauge.add format s.files r.amount r.time).2.2 = [] :=
    (List.append_eq_nil_iff.mp (List.prefix_nil.mp (hsaves ▸ hfailures))).2
  have hrecord : (s.gauge.accumulator.add r.amount r.time).record r.time ∈ (step format path s (.rain r)).saved := by
    rw [← hs]
    simp [step]
  constructor
  · rw [hu, hsame]
    refine ⟨?_, ?_, ?_, le_refl _, ?_, hread _ (hsaved.subset hrecord)⟩
    · exact (congrArg Gauge.path (Gauge.add_fst format s.gauge s.files r.amount r.time)).trans hkept
    · rw [hs]
      exact Agrees.refl _ _
    · intro p
      rw [Accumulator.add_window]
      rfl
    · exact Gauge.add_lookUp format s.gauge s.files r.amount r.time hkept hlog
  · simp only [step] at hs hu ⊢
    rw [hs, hu, hsame, hreturned]

/-- A restart keeps up. -/
theorem Follows.restart {live : Accumulator Float} {last now later : Moment} {s : GaugeRun}
    (h : Follows format path live last now s) (hnow : now ≤ later) :
    Follows format path live last later (step format path s (.restart later)) := by
  have hlast := le_trans h.last_le hnow
  obtain ⟨hkept, hagrees⟩ := Gauge.agrees_openAt format live s.files path h.windows hlast h.file h.readable
  exact ⟨hkept, hagrees, h.windows, hlast, h.file, h.readable⟩

/-- From rain on, restarts leave the returned totals what they are. -/
theorem Follows.run_returned {s u : GaugeRun} {last now : Moment} (events : List GaugeEvent)
    (h : Follows format path u.gauge.accumulator last now s) (hreturned : s.returned = u.returned)
    (htimes : events.Pairwise (·.time ≤ ·.time)) (hnow : ∀ e ∈ events, now ≤ e.time)
    (hread : ∀ r ∈ (run format path s events).saved, format.read? (format.write r) = some r)
    (hsaves : (run format path s events).failures = []) :
    (run format path s events).returned = (run format path u (events.filter GaugeEvent.isRain)).returned := by
  induction events generalizing s u last now with
  | nil => exact hreturned
  | cons e rest ih =>
    obtain ⟨hlater, hrest⟩ := List.pairwise_cons.mp htimes
    cases e with
    | rain r =>
      have hr : now ≤ r.time := hnow (.rain r) (by simp)
      obtain ⟨hfollows, hreturned⟩ := follows_rain rest h.isKept h.agrees hr hreturned hread hsaves
      exact ih hfollows hreturned hrest hlater hread hsaves
    | restart later =>
      have hl : now ≤ later := hnow (.restart later) (by simp)
      exact ih (h.restart hl) hreturned hrest hlater hread hsaves

/-- Restarts change no total. A gauge takes in rain, and after the first rain it is dropped and opened anew from its
file any number of times, at moments between the rain before and the rain after; the clock never goes back. When all
sums that it saves are finite, no saving fails and the records are read back as they were written, every call returns
what it returns without the restarts. -/
theorem restarts_change_no_total (format : Format) (path : String) (g : Gauge) (files : Files) (first : Rain Float)
    (events : List GaugeEvent) (hpath : g.path = some path)
    (htimes : (.rain first :: events : List GaugeEvent).Pairwise (·.time ≤ ·.time))
    (hfinite : ∀ r ∈ (run format path { gauge := g, files } (.rain first :: events)).saved, r.IsFinite)
    (hread : ∀ r ∈ (run format path { gauge := g, files } (.rain first :: events)).saved,
      r.IsFinite → format.read? (format.write r) = some r)
    (hsaves : (run format path { gauge := g, files } (.rain first :: events)).failures = []) :
    (run format path { gauge := g, files } (.rain first :: events)).returned =
      (run format path { gauge := g, files } ((.rain first :: events).filter GaugeEvent.isRain)).returned := by
  obtain ⟨hlater, hrest⟩ := List.pairwise_cons.mp htimes
  have hread : ∀ r ∈ (run format path { gauge := g, files } (.rain first :: events)).saved,
      format.read? (format.write r) = some r := fun r hr => hread r hr (hfinite r hr)
  obtain ⟨hfollows, hreturned⟩ := follows_rain (u := { gauge := g, files }) events hpath
    (Agrees.refl first.time g.accumulator) (le_refl _) rfl hread hsaves
  exact hfollows.run_returned events hreturned hrest hlater hread hsaves

/-- Rain shortly before midnight on a leap day. -/
def beforeMidnight : Rain Float := ⟨1.5, (Moment.of? 2024 2 29 23 59 30).getD default⟩

/-- A moment shortly after that midnight. -/
def midnight : Moment := (Moment.of? 2024 3 1 0 0 10).getD default

/-- Rain after that midnight. -/
def afterMidnight : Rain Float := ⟨0.25, (Moment.of? 2024 3 1 0 1 0).getD default⟩

/-- A gauge that has seen no rain. -/
def fresh : GaugeRun := { gauge := { path := some "/rain.json" }, files := {} }

/-- What is saved of the rain before midnight. -/
def savedBefore : Record Float :=
  { time := ⟨2024, 2, 29, 23, 59⟩
    sums := ⟨1.5, 1.5, 1.5, 1.5, 1.5⟩
    last60 := 1.5
    last24 := 1.5
    minuteSlots := (List.replicate 60 ⟨0, none⟩).set 59 ⟨1.5, some 28487519⟩
    hourSlots := (List.replicate 24 ⟨0, none⟩).set 23 ⟨1.5, some 474791⟩ }

/-- What is saved of the rain after it. -/
def savedAfter : Record Float :=
  { time := ⟨2024, 3, 1, 0, 1⟩
    sums := ⟨0.25, 0.25, 0.25, 0.25, 1.75⟩
    last60 := 1.75
    last24 := 1.75
    minuteSlots := savedBefore.minuteSlots.set 1 ⟨0.25, some 28487521⟩
    hourSlots := savedBefore.hourSlots.set 0 ⟨0.25, some 474792⟩ }

/-- The run after the restart, with the gauge that the saved record makes. -/
def reopened : GaugeRun :=
  { step .json "/rain.json" fresh (.rain beforeMidnight) with
    gauge := { accumulator := (Accumulator.empty.restore? savedBefore midnight).getD .empty, path := some "/rain.json" } }

set_option maxRecDepth 20000 in
theorem json_reads_savedBefore : Format.json.read? (Format.json.write savedBefore) = some savedBefore := by
  rw [Format.json_read_write]
  decide +kernel

set_option maxRecDepth 20000 in
theorem json_reads_savedAfter : Format.json.read? (Format.json.write savedAfter) = some savedAfter := by
  rw [Format.json_read_write]
  decide +kernel

set_option maxRecDepth 20000 in
/-- The restart after midnight reads what was saved before it. -/
theorem step_midnight :
    step .json "/rain.json" (step .json "/rain.json" fresh (.rain beforeMidnight)) (.restart midnight) = reopened := by
  have hlog : (fresh.gauge.add .json fresh.files beforeMidnight.amount beforeMidnight.time).2.2 = [] := by decide +kernel
  have hrecord : (fresh.gauge.accumulator.add beforeMidnight.amount beforeMidnight.time).record beforeMidnight.time =
      savedBefore := by
    decide +kernel
  have hpath : fresh.gauge.path = some "/rain.json" := rfl
  have hfile := Gauge.add_lookUp .json fresh.gauge fresh.files beforeMidnight.amount beforeMidnight.time hpath hlog
  rw [hrecord] at hfile
  have hsome : (Accumulator.empty.restore? savedBefore midnight).isSome = true := by decide +kernel
  obtain ⟨a, ha⟩ := Option.isSome_iff_exists.mp hsome
  have hopen := Gauge.openAt_eq .json _ "/rain.json" midnight hfile json_reads_savedBefore ha
  simp only [reopened, ha, Option.getD_some]
  exact congrArg (fun g => { step .json "/rain.json" fresh (.rain beforeMidnight) with gauge := g }) hopen

set_option maxRecDepth 20000 in
theorem saved_around_midnight :
    (run .json "/rain.json" fresh [.rain beforeMidnight, .restart midnight, .rain afterMidnight]).saved =
      [savedBefore, savedAfter] := by
  simp only [run, List.foldl_cons, List.foldl_nil, step_midnight]
  decide +kernel

set_option maxRecDepth 20000 in
theorem failures_around_midnight :
    (run .json "/rain.json" fresh [.rain beforeMidnight, .restart midnight, .rain afterMidnight]).failures = [] := by
  simp only [run, List.foldl_cons, List.foldl_nil, step_midnight]
  decide +kernel

set_option maxRecDepth 20000 in
/-- With the format of the service, a restart after midnight changes no total. -/
theorem restart_at_midnight_changes_no_total :
    let events : List GaugeEvent := [.rain beforeMidnight, .restart midnight, .rain afterMidnight]
    events.Pairwise (·.time ≤ ·.time) ∧
      (run .json "/rain.json" fresh events).saved = [savedBefore, savedAfter] ∧
      (run .json "/rain.json" fresh events).failures = [] ∧
      (run .json "/rain.json" fresh events).returned =
        (run .json "/rain.json" fresh [.rain beforeMidnight, .rain afterMidnight]).returned := by
  intro events
  have htimes : events.Pairwise (·.time ≤ ·.time) := by decide
  have hfinite : ∀ r ∈ (run .json "/rain.json" fresh events).saved, r.IsFinite := by
    rw [saved_around_midnight]
    decide +kernel
  have hread : ∀ r ∈ (run .json "/rain.json" fresh events).saved,
      r.IsFinite → Format.json.read? (Format.json.write r) = some r := by
    rw [saved_around_midnight]
    simp [json_reads_savedBefore, json_reads_savedAfter]
  refine ⟨htimes, saved_around_midnight, failures_around_midnight, ?_⟩
  exact restarts_change_no_total .json "/rain.json" fresh.gauge fresh.files beforeMidnight _ rfl htimes hfinite hread
    failures_around_midnight

end GaugeRun

end Rainfall

end WeatherRelay
