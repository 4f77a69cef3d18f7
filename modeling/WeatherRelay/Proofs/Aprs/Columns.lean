import WeatherRelay.Proofs.Decimal
import WeatherRelay.Proofs.Doubles.Product
import WeatherRelay.Publish.Aprs

/-!
# The columns of a weather report

A reader that knows the letters and their columns takes a report apart (`readWeather?`). For all weather that occurs,
the columns up to the pressure have room for what is in them and are read back (`weather_fills_its_columns`). From a
thousand watts on, the solar radiation takes a fourth column, which the reader does not know of. A humidity that is
rounded to zero is read as a hundred.
-/

namespace WeatherRelay.Aprs

open Decimal

/-! ## Reading columns -/

/-- The letters of a report, each with the columns that follow it. -/
def layout : List (Char × Nat) :=
  [('_', 3), ('/', 3), ('g', 3), ('t', 3), ('r', 3), ('P', 3), ('h', 2), ('b', 5), ('L', 3)]

/-- Reads the whole numbers in columns, to the end of the text. -/
def readColumns : List (Char × Nat) → List Char → Option (List Int)
  | [], [] => some []
  | (letter, width) :: rest, c :: cs =>
    if c = letter ∧ width ≤ cs.length then
      (whole? (cs.take width)).bind fun n => (readColumns rest (cs.drop width)).map (n :: ·)
    else none
  | _, _ => none

/-- Reads a report; a humidity of zero stands for a hundred. -/
def readWeather? (text : List Char) : Option (List Int) :=
  (readColumns layout text).map fun values => values.modify 6 fun h => if h = 0 then 100 else h

/-- The columns of whole numbers. -/
def writeColumns (columns : List ((Char × Nat) × Int)) : List Char := columns.flatMap fun c => c.1.1 :: column c.1.2 c.2

/-- That there is room for a whole number. -/
def Fits (c : (Char × Nat) × Int) : Prop := 1 < c.1.2 ∧ -(10 ^ (c.1.2 - 1) : Nat) < c.2 ∧ c.2 < (10 ^ c.1.2 : Nat)

/-- There is room for what is between numbers for which there is. -/
theorem fits_of_between {letter : Char} {width : Nat} {least most n : Int} (hlow : least ≤ n) (hhigh : n ≤ most)
    (hwidth : 1 < width)
    (hleast : -(10 ^ (width - 1) : Nat) < least) (hmost : most < (10 ^ width : Nat)) : Fits ((letter, width), n) :=
  ⟨hwidth, hleast.trans_le hlow, hhigh.trans_lt hmost⟩

/-- What has room is read back, whatever follows. -/
theorem readColumns_writeColumns (columns : List ((Char × Nat) × Int)) (h : ∀ c ∈ columns, Fits c) (rest : List (Char × Nat))
    (tail : List Char) :
    readColumns (columns.map (·.1) ++ rest) (writeColumns columns ++ tail) =
      (readColumns rest tail).map (columns.map (·.2) ++ ·) := by
  induction columns with
  | nil => simp [writeColumns]
  | cons c later ih =>
    obtain ⟨⟨letter, width⟩, n⟩ := c
    obtain ⟨hwidth, hlow, hhigh⟩ := h _ List.mem_cons_self
    obtain ⟨hlength, hread⟩ : (column width n).length = width ∧ whole? (column width n) = some n :=
      column_fits hwidth hlow hhigh
    have hlater := ih fun c hc => h c (List.mem_cons_of_mem _ hc)
    have htext : writeColumns (((letter, width), n) :: later) ++ tail =
        letter :: (column width n ++ (writeColumns later ++ tail)) := by
      simp [writeColumns]
    have hroom : letter = letter ∧ width ≤ (column width n ++ (writeColumns later ++ tail)).length :=
      ⟨rfl, by rw [List.length_append, hlength]; omega⟩
    rw [htext, List.map_cons, List.cons_append, readColumns, if_pos hroom, List.take_left' hlength, List.drop_left' hlength, hread,
      Option.bind_some, hlater, Option.map_map]
    rfl

/-- What is read is as long as the letters and their columns. -/
theorem length_of_readColumns {columns : List (Char × Nat)} {text : List Char} {values : List Int}
    (h : readColumns columns text = some values) : text.length = (columns.map (·.2 + 1)).sum := by
  induction columns generalizing text values with
  | nil =>
    cases text with
    | nil => rfl
    | cons c cs => cases h
  | cons column rest ih =>
    obtain ⟨letter, width⟩ := column
    cases text with
    | nil => cases h
    | cons c cs =>
      rw [readColumns, Option.ite_none_right_eq_some, Option.bind_eq_some_iff] at h
      obtain ⟨⟨-, hroom⟩, n, -, hrest⟩ := h
      obtain ⟨later, hlater, -⟩ := Option.map_eq_some_iff.mp hrest
      have hlength := ih hlater
      rw [List.length_drop] at hlength
      rw [List.length_cons, List.map_cons, List.sum_cons]
      omega

/-! ## Rounded values -/

/-- That a double is rounded to a whole number within bounds. -/
structure Within (least most : Int) (x : Float) : Prop where
  isFinite : x.isFinite = true
  least_le : least ≤ rounded x
  le_most : rounded x ≤ most

instance (least most : Int) (x : Float) : Decidable (Within least most x) :=
  decidable_of_iff (x.isFinite = true ∧ least ≤ rounded x ∧ rounded x ≤ most)
    ⟨fun h => ⟨h.1, h.2.1, h.2.2⟩, fun h => ⟨h.isFinite, h.least_le, h.le_most⟩⟩

/-- Between bounds of 64 bits the rounded value is the whole number nearest to the exact one. -/
theorem Within.rounded_eq {least most : Int} {x : Float} (h : Within least most x) (hleast : Word.minInt64 < least)
    (hmost : most < Word.maxInt64) : rounded x = Double.nearestWhole (Double.value x) := by
  have hlow := h.least_le
  have hhigh := h.le_most
  rw [rounded, Double.nearest_eq _ _ h.isFinite] at hlow hhigh ⊢
  omega

/-- What lies between two doubles is rounded to what lies between their whole numbers. -/
theorem within_of_between {lo hi x : Float} {least most : Int} (hlo : Within least least lo) (hhi : Within most most hi)
    (hx : lo ≤ x ∧ x ≤ hi) : Within least most x := by
  have hfinite := Double.isFinite_of_between hlo.isFinite hhi.isFinite hx.1 hx.2
  refine ⟨hfinite, hlo.least_le.trans ?_, le_trans ?_ hhi.le_most⟩
  · exact Double.nearest_mono _ _ hlo.isFinite hfinite hx.1
  · exact Double.nearest_mono _ _ hfinite hhi.isFinite hx.2

/-- A product is rounded to no more than the whole number next to the exact one, if the exact one is not too
near to the next half. -/
theorem within_of_product (top : Float) (bound : Int) {c x : Float} {n most : Nat} {f : Int} {hn : 0 < n}
    (htop : top.isFinite = true) (hc : c.toModel.unpack = .finite .positive n f hn) (hfirst : 2 ^ 52 ≤ n)
    (hleast : -1022 ≤ bound) (hgreatest : bound ≤ 1022)
    (hbound : Double.value top * Double.value c ≤ 2 ^ bound)
    (hmost : Double.value top * Double.value c + 2 ^ (bound - 52) < most + 1 / 2) (hx : 0.0 ≤ x ∧ x ≤ top) :
    Within 0 most (x * c) := by
  have hfinite := Double.isFinite_of_between (a := 0.0) rfl htop hx.1 hx.2
  have hnonneg : 0 ≤ Double.value x := Double.value_le_of_le (a := 0.0) rfl hfinite hx.1
  have hle := Double.value_le_of_le hfinite htop hx.2
  have hpos : 0 ≤ Double.value c := by
    rw [Double.value, hc]
    exact Double.magnitude_nonneg n f
  have hexact : Double.value x * Double.value c ≤ Double.value top * Double.value c := mul_le_mul_of_nonneg_right hle hpos
  obtain ⟨hproduct, hlow, hhigh⟩ := Double.mul_le hfinite hnonneg hc hfirst hleast hgreatest (hexact.trans hbound)
  have hround := Double.nearest_eq Word.minInt64 Word.maxInt64 hproduct
  have hwhole := Double.nearestWhole_of_nonneg hlow
  have hzero : 0 ≤ Double.nearestWhole (Double.value (x * c)) := by
    rw [hwhole]
    exact Int.floor_nonneg.mpr (by linarith)
  have hnext : Double.nearestWhole (Double.value (x * c)) < most + 1 := by
    rw [hwhole, Int.floor_lt]
    push_cast
    linarith
  have hmin : Word.minInt64 ≤ 0 := by decide
  have hmax : 0 ≤ Word.maxInt64 := by decide
  refine ⟨hproduct, ?_, ?_⟩ <;> rw [rounded, hround] <;> omega

/-! ## Reports -/

/-- The values of a report, in the units of its columns. -/
def fields (o : Snapshot) : List Float :=
  [o.windDirection, o.windSpeed, o.gustSpeed, o.temperature, o.rain60 * 100.0, o.rainDay * 100.0, o.humidity,
    o.pressure * 10.0, o.solar]

/-- The values of a report as whole numbers. -/
def reported (o : Snapshot) : List Int := (fields o).map rounded

/-- The least and the greatest whole number for each value that occurs. -/
def bounds : List (Int × Int) :=
  [(0, 360), (0, 999), (0, 999), (-99, 999), (0, 999), (0, 999), (0, 100), (0, 99999), (0, 1500)]

/-- That a report has values that occur: directions up to a full turn, speeds and temperatures of three
columns, less than ten inches of rain, a humidity in percent, less than ten thousand millibars, and up to 1500
watts of solar radiation. -/
structure Occurs (o : Snapshot) : Prop where
  direction : 0.0 ≤ o.windDirection ∧ o.windDirection ≤ 360.0
  speed : 0.0 ≤ o.windSpeed ∧ o.windSpeed ≤ 999.0
  gust : 0.0 ≤ o.gustSpeed ∧ o.gustSpeed ≤ 999.0
  temperature : -99.0 ≤ o.temperature ∧ o.temperature ≤ 999.0
  rain60 : 0.0 ≤ o.rain60 ∧ o.rain60 ≤ 9.99
  rainDay : 0.0 ≤ o.rainDay ∧ o.rainDay ≤ 9.99
  humidity : 0.0 ≤ o.humidity ∧ o.humidity ≤ 100.0
  pressure : 0.0 ≤ o.pressure ∧ o.pressure ≤ 9999.9
  solar : 0.0 ≤ o.solar ∧ o.solar ≤ 1500.0

instance (o : Snapshot) : Decidable (Occurs o) :=
  decidable_of_iff
    ((0.0 ≤ o.windDirection ∧ o.windDirection ≤ 360.0) ∧ (0.0 ≤ o.windSpeed ∧ o.windSpeed ≤ 999.0) ∧
      (0.0 ≤ o.gustSpeed ∧ o.gustSpeed ≤ 999.0) ∧ (-99.0 ≤ o.temperature ∧ o.temperature ≤ 999.0) ∧
      (0.0 ≤ o.rain60 ∧ o.rain60 ≤ 9.99) ∧ (0.0 ≤ o.rainDay ∧ o.rainDay ≤ 9.99) ∧ (0.0 ≤ o.humidity ∧ o.humidity ≤ 100.0) ∧
      (0.0 ≤ o.pressure ∧ o.pressure ≤ 9999.9) ∧ (0.0 ≤ o.solar ∧ o.solar ≤ 1500.0))
    ⟨fun ⟨direction, speed, gust, temperature, rain60, rainDay, humidity, pressure, solar⟩ =>
        { direction, speed, gust, temperature, rain60, rainDay, humidity, pressure, solar },
      fun h => ⟨h.direction, h.speed, h.gust, h.temperature, h.rain60, h.rainDay, h.humidity, h.pressure, h.solar⟩⟩

namespace Occurs

variable {o : Snapshot}

/-- A rain in hundredths of an inch. -/
theorem hundredths {x : Float} (h : 0.0 ≤ x ∧ x ≤ 9.99) : Within 0 999 (x * 100.0) :=
  within_of_product 9.99 10 (c := 100.0) (n := 7036874417766400) (f := -46) rfl rfl (by decide)
    (by decide) (by decide) (by decide +kernel) (by decide +kernel) h

/-- A pressure in tenths of a millibar. -/
theorem tenths {x : Float} (h : 0.0 ≤ x ∧ x ≤ 9999.9) : Within 0 99999 (x * 10.0) :=
  within_of_product 9999.9 17 (c := 10.0) (n := 5629499534213120) (f := -49) rfl rfl (by decide)
    (by decide) (by decide) (by decide +kernel) (by decide +kernel) h

/-- All values are rounded to whole numbers within bounds. -/
theorem within (h : Occurs o) : List.Forall₂ (fun x b => Within b.1 b.2 x) (fields o) bounds := by
  have hzero : Within 0 0 0.0 := by decide +kernel
  have hthree : Within 999 999 999.0 := by decide +kernel
  refine .cons ?_ (.cons ?_ (.cons ?_ (.cons ?_ (.cons ?_ (.cons ?_ (.cons ?_ (.cons ?_ (.cons ?_ .nil))))))))
  · exact within_of_between hzero (by decide +kernel) h.direction
  · exact within_of_between hzero hthree h.speed
  · exact within_of_between hzero hthree h.gust
  · exact within_of_between (by decide +kernel) hthree h.temperature
  · exact hundredths h.rain60
  · exact hundredths h.rainDay
  · exact within_of_between hzero (by decide +kernel) h.humidity
  · exact tenths h.pressure
  · exact within_of_between hzero (by decide +kernel) h.solar

theorem solar_bounds (h : Occurs o) : 0 ≤ rounded o.solar ∧ rounded o.solar ≤ 1500 :=
  have hsolar := (List.forall₂_iff_get.mp h.within).2 8 (Nat.lt_add_one 8) (Nat.lt_add_one 8)
  ⟨hsolar.least_le, hsolar.le_most⟩

/-- The whole numbers are the nearest to the exact values. -/
theorem reported_eq (h : Occurs o) : reported o = (fields o).map fun x => Double.nearestWhole (Double.value x) := by
  obtain ⟨hlength, hwithin⟩ := List.forall₂_iff_get.mp h.within
  have hbounds : ∀ b ∈ bounds, Word.minInt64 < b.1 ∧ b.2 < Word.maxInt64 := by decide
  refine List.map_congr_left fun x hx => ?_
  obtain ⟨i, rfl⟩ := List.get_of_mem hx
  have hi : i < bounds.length := i.isLt.trans_eq hlength
  obtain ⟨hleast, hmost⟩ := hbounds _ (List.get_mem bounds ⟨i, hi⟩)
  exact (hwithin i i.isLt hi).rounded_eq hleast hmost

end Occurs

/-! ## The columns of a report -/

/-- The columns before the last one, with the whole numbers in them. -/
def front (o : Snapshot) : List ((Char × Nat) × Int) :=
  (layout.zip ((reported o).modify 6 fun h => if h = 100 then 0 else h)).dropLast

/-- A report is its columns, and then the solar radiation with at least three digits. -/
theorem weather_eq (o : Snapshot) : weather o = writeColumns (front o) ++ 'L' :: column 3 (rounded o.solar) := by
  simp [weather, writeColumns, front, layout, reported, fields, humidity]

/-- There is room for all that is written before the last column. -/
theorem fits_front {o : Snapshot} (h : Occurs o) : ∀ c ∈ front o, Fits c := by
  have hwithin := h.within
  simp only [fields, bounds, List.forall₂_cons] at hwithin
  obtain ⟨hdirection, hspeed, hgust, htemperature, hrain60, hrainDay, hhumidity, hpressure, -⟩ := hwithin
  have hfits : ∀ {letter width least most x}, Within least most x → 1 < width → -(10 ^ (width - 1) : Nat) < least →
      most < (10 ^ width : Nat) → Fits ((letter, width), rounded x) := fun h => fits_of_between h.least_le h.le_most
  have hwritten : Fits (('h', 2), if rounded o.humidity = 100 then 0 else rounded o.humidity) := by
    have hlow := hhumidity.least_le
    have hhigh := hhumidity.le_most
    refine @fits_of_between 'h' 2 0 99 _ ?_ ?_ (by decide) (by decide) (by decide) <;> split <;> omega
  simp only [front, layout, reported, fields, List.map_cons, List.map_nil, List.modify_succ_cons, List.modify_zero_cons,
    List.zip_cons_cons, List.zip_nil_right, List.dropLast_cons_cons, List.dropLast_singleton, List.forall_mem_cons]
  exact ⟨hfits hdirection (by decide) (by decide) (by decide), hfits hspeed (by decide) (by decide) (by decide),
    hfits hgust (by decide) (by decide) (by decide), hfits htemperature (by decide) (by decide) (by decide),
    hfits hrain60 (by decide) (by decide) (by decide), hfits hrainDay (by decide) (by decide) (by decide), hwritten,
    hfits hpressure (by decide) (by decide) (by decide), fun _ hc => nomatch hc⟩

/-- The columns before the last one are read back; the last one is read from what follows. -/
theorem readColumns_weather {o : Snapshot} (h : Occurs o) :
    readColumns layout (weather o) =
      (readColumns [('L', 3)] ('L' :: column 3 (rounded o.solar))).map ((front o).map (·.2) ++ ·) := by
  have hlayout : layout = (front o).map (·.1) ++ [('L', 3)] := rfl
  rw [hlayout, weather_eq, readColumns_writeColumns (front o) (fits_front h)]

/-- Up to 999 the last column is read back. -/
theorem readColumns_last {n : Int} (hlow : 0 ≤ n) (hhigh : n ≤ 999) :
    readColumns [('L', 3)] ('L' :: column 3 n) = some [n] := by
  have hfits : ∀ c ∈ [(('L', 3), n)], Fits c := by
    intro c hc
    obtain rfl := List.mem_singleton.mp hc
    exact fits_of_between hlow hhigh (by decide) (by decide) (by decide)
  have hread := readColumns_writeColumns [(('L', 3), n)] hfits [] []
  simpa [writeColumns, readColumns] using hread

/-- From 1000 on there is a fourth digit, at which the reader of the last column stops. -/
theorem readColumns_last_wide {n : Int} (hlow : 1000 ≤ n) (hhigh : n ≤ 9999) :
    (column 3 n).length = 4 ∧ readColumns [('L', 3)] ('L' :: column 3 n) = none := by
  obtain ⟨k, rfl⟩ := Int.eq_ofNat_of_zero_le (by omega : 0 ≤ n)
  have hlength : (column 3 k).length = 4 := by
    have hthree := (length_digits_le_iff (by decide : 0 < 3) k).not.mpr (by omega)
    have hfour := (length_digits_le_iff (by decide : 0 < 4) k).mpr (by omega)
    rw [column_natural, length_padLeft]
    omega
  refine ⟨hlength, Option.eq_none_iff_forall_ne_some.mpr fun values hread => ?_⟩
  have htext := length_of_readColumns hread
  rw [List.length_cons, hlength] at htext
  exact absurd htext (by decide)

/-- Up to 999 watts the whole report is read, with a hundred for a humidity of zero. -/
theorem readWeather?_eq {o : Snapshot} (h : Occurs o) (hsolar : rounded o.solar ≤ 999) :
    readWeather? (weather o) = some ((reported o).modify 6 fun h => if h = 0 then 100 else h) := by
  have hbounds := h.solar_bounds
  have hcolumns : (front o).map (·.2) ++ [rounded o.solar] = (reported o).modify 6 fun h => if h = 100 then 0 else h := rfl
  -- a hundred goes through zero and back
  have hback : ((fun h => if h = 0 then 100 else h) ∘ fun h => if h = 100 then 0 else h) =
      fun h : Int => if h = 0 then 100 else h := by
    funext h
    simp only [Function.comp_apply]
    split <;> split <;> omega
  rw [readWeather?, readColumns_weather h, readColumns_last hbounds.1 hsolar, Option.map_some, Option.map_some, hcolumns,
    List.modify_modify_eq, hback]

/-- What comes after the position in a packet is the letters of the layout with their columns, except for the last one.
Reading them gives the whole numbers nearest to the values, a humidity of a hundred being written as zero. Up to 999
watts the last column is read back as well; from a thousand on it has a fourth digit, and the report is not of the
layout. So a reader finds what was reported exactly if the solar radiation is rounded to at most 999, and the humidity
not to the zero that stands for a hundred. -/
theorem weather_fills_its_columns (callsign : String) (station : StationInfo) (o : Snapshot) (now : Moment) (h : Occurs o) :
    packet callsign station o now =
      callsign ++ String.ofList (">APRS,TCPIP*:@".toList ++ time now ++ 'z' :: latitude station.latitude ++
        '/' :: longitude station.longitude ++ weather o) ++ "\r\n" ∧
    reported o = (fields o).map (fun x => Double.nearestWhole (Double.value x)) ∧
    (∃ text, weather o = text ++ 'L' :: column 3 (rounded o.solar) ∧
      readColumns layout.dropLast text = some ((reported o).dropLast.modify 6 fun h => if h = 100 then 0 else h)) ∧
    (rounded o.solar ≤ 999 → readWeather? (weather o) = some ((reported o).modify 6 fun h => if h = 0 then 100 else h)) ∧
    (1000 ≤ rounded o.solar → (column 3 (rounded o.solar)).length = 4 ∧ readWeather? (weather o) = none) ∧
    (readWeather? (weather o) = some (reported o) ↔ rounded o.solar ≤ 999 ∧ rounded o.humidity ≠ 0) := by
  have hwide : 1000 ≤ rounded o.solar → (column 3 (rounded o.solar)).length = 4 ∧ readWeather? (weather o) = none := fun hsolar => by
    obtain ⟨hlength, hstop⟩ := readColumns_last_wide hsolar (h.solar_bounds.2.trans (by decide))
    refine ⟨hlength, ?_⟩
    rw [readWeather?, readColumns_weather h, hstop, Option.map_none, Option.map_none]
  refine ⟨rfl, h.reported_eq, ⟨writeColumns (front o), weather_eq o, ?_⟩, readWeather?_eq h, hwide, ?_⟩
  · have hread := readColumns_writeColumns (front o) (fits_front h) [] []
    rw [List.append_nil, List.append_nil, readColumns, Option.map_some, List.append_nil] at hread
    exact hread
  · rcases Int.lt_or_le 999 (rounded o.solar) with hsolar | hsolar
    · rw [(hwide hsolar).2]
      simp only [reduceCtorEq, false_iff]
      omega
    · rw [readWeather?_eq h hsolar]
      have hsame : (reported o).modify 6 (fun h => if h = 0 then 100 else h) = reported o ↔
          (if rounded o.humidity = 0 then 100 else rounded o.humidity) = rounded o.humidity := by
        simp [reported, fields]
      rw [Option.some_inj, hsame]
      split <;> omega

/-- The weather of a damp morning, in the units of a report. -/
def morning : Snapshot :=
  { Observation.empty with
    windDirection := 90.4, windSpeed := 5.4, gustSpeed := 12.0, temperature := 68.2, rain60 := 0.05, rainDay := 0.5,
    humidity := 100.0, pressure := 1013.25, solar := 200.0 }

theorem morning_report :
    weather morning = "_090/005g012t068r005P050h00b10133L200".toList ∧
      readWeather? (weather morning) = some (reported morning) ∧ reported morning = [90, 5, 12, 68, 5, 50, 100, 10133, 200] := by
  have hoccurs : Occurs morning := by decide +kernel
  obtain ⟨-, -, -, -, -, hread⟩ := weather_fills_its_columns "EW1234" {} morning default hoccurs
  exact ⟨by decide +kernel, hread.mpr (by decide +kernel), by decide +kernel⟩

/-- The same in bright sunshine. -/
def bright : Snapshot := { morning with solar := 1200.0 }

/-- The same in air without any humidity. -/
def dry : Snapshot := { morning with humidity := 0.0 }

/-- At 1200 watts of solar radiation a report is not of the layout, and air without humidity is read as wet. -/
theorem bright_and_dry_reports :
    (Occurs bright ∧ weather bright = "_090/005g012t068r005P050h00b10133L1200".toList ∧ readWeather? (weather bright) = none) ∧
      Occurs dry ∧ rounded dry.humidity = 0 ∧ (readWeather? (weather dry)).map (·[6]?) = some (some 100) := by
  decide +kernel

end WeatherRelay.Aprs
