import WeatherRelay.Proofs.Station.History

/-!
# The table of auxiliary sensors

The records of auxiliary sensors are a function of the readings (`sensorTable`): one record for each serial number that
a reading came from, in the order of the first readings, with the sensor's place, its last reading, and the high and the
low of its readings of the current day. Every reading keeps this, and a new day only takes the highs and lows away.
-/

namespace WeatherRelay

/-! ## Highs and lows -/

/-- What is left of temperatures when one of each two is chosen, from the first to the last. -/
def extreme (choose : Float → Float → Float) : List Float → Option Float
  | [] => none
  | x :: rest => some (rest.foldl choose x)

/-- The highest of temperatures, none of none. -/
def highest (temperatures : List Float) : Option Float := extreme Scalar.larger temperatures

/-- The lowest of temperatures, none of none. -/
def lowest (temperatures : List Float) : Option Float := extreme Scalar.smaller temperatures

theorem extreme_snoc (choose : Float → Float → Float) (xs : List Float) (x : Float) :
    extreme choose (xs ++ [x]) = some (((extreme choose xs).map (choose · x)).getD x) := by
  cases xs with
  | nil => rfl
  | cons y rest => simp [extreme]

theorem raise_highest (xs : List Float) (x : Float) : raise (highest xs) x = highest (xs ++ [x]) :=
  (extreme_snoc Scalar.larger xs x).symm

theorem lower_lowest (xs : List Float) (x : Float) : lower (lowest xs) x = lowest (xs ++ [x]) :=
  (extreme_snoc Scalar.smaller xs x).symm

/-! ## Places -/

/-- That a mapping puts a sensor at a place: by its last entry for the serial number, or, when it has none, the serial
number stands for the place. -/
def SensorPlaces.Puts (places : SensorPlaces) (serial place : String) : Prop :=
  (∃ front back, places = front ++ (serial, place) :: back ∧ ∀ e ∈ back, e.1 ≠ serial) ∨
    (∀ e ∈ places, e.1 ≠ serial) ∧ place = serial

theorem SensorPlaces.puts_placeOf (places : SensorPlaces) (serial : String) :
    places.Puts serial (places.placeOf serial) := by
  unfold placeOf
  cases hfind : places.reverse.find? (·.1 == serial) with
  | none =>
    rw [List.find?_eq_none] at hfind
    exact Or.inr ⟨fun e he => by simpa using hfind e (by simpa using he), rfl⟩
  | some e =>
    obtain ⟨he, after, before, hsplit, hafter⟩ := List.find?_eq_some_iff_append.mp hfind
    obtain ⟨key, place⟩ := e
    obtain rfl : key = serial := by simpa using he
    refine Or.inl ⟨before.reverse, after.reverse, ?_, fun e he => by simpa using hafter e (by simpa using he)⟩
    have hplaces := congrArg List.reverse hsplit
    simpa using hplaces

/-! ## The table -/

/-- The serial number and the row of a reading of an auxiliary sensor. -/
def Reading.tower? : Reading → Option (String × TowerRow)
  | .tower serial r => some (serial, r)
  | _ => none

/-- The readings of auxiliary sensors, with their serial numbers. -/
def towerRows (readings : List Reading) : List (String × TowerRow) := readings.filterMap Reading.tower?

/-- The rows of one sensor. -/
def rowsOf (serial : String) (rows : List (String × TowerRow)) : List TowerRow :=
  (rows.filter (·.1 == serial)).map (·.2)

/-- The serial numbers of rows, in the order of their first rows. -/
def heard (rows : List (String × TowerRow)) : List String := (rows.map (·.1)).eraseDups

/-- The record that all rows and the rows of the current day make of a sensor. -/
def sensorOf (places : SensorPlaces) (zone : Zone) (all today : List (String × TowerRow)) (serial : String) :
    AuxSensor Float where
  id := serial
  location := places.placeOf serial
  temperature := ((rowsOf serial all).getLast?.map (·.temperature)).getD 0
  humidity := ((rowsOf serial all).getLast?.map (·.humidity)).getD 0
  high := highest ((rowsOf serial today).map (·.temperature))
  low := lowest ((rowsOf serial today).map (·.temperature))
  timestamp := (rowsOf serial all).getLast?.bind fun r => timestampOf zone r.epoch

/-- The records that rows make. -/
def sensorTable (places : SensorPlaces) (zone : Zone) (all today : List (String × TowerRow)) : List (AuxSensor Float) :=
  (heard all).map (sensorOf places zone all today)

section

variable {places : SensorPlaces} {zone : Zone} {all today : List (String × TowerRow)}

theorem towerRows_snoc (readings : List Reading) (x : Reading) :
    towerRows (readings ++ [x]) = towerRows readings ++ x.tower?.toList := by
  cases x <;> simp [towerRows, Reading.tower?]

theorem mem_heard (serial : String) (rows : List (String × TowerRow)) : serial ∈ heard rows ↔ ∃ r, (serial, r) ∈ rows := by
  simp [heard, List.mem_eraseDups]

/-- A serial number that is new comes last, any other stays where it is. -/
theorem heard_snoc (rows : List (String × TowerRow)) (serial : String) (r : TowerRow) :
    heard (rows ++ [(serial, r)]) = if serial ∈ heard rows then heard rows else heard rows ++ [serial] := by
  have hmem : serial ∈ heard rows ↔ serial ∈ rows.map (·.1) := List.mem_eraseDups
  rw [heard, List.map_append, List.eraseDups_append, List.removeAll]
  by_cases h : serial ∈ rows.map (·.1)
  · rw [if_pos (hmem.mpr h)]
    simp [heard, h]
  · rw [if_neg (hmem.not.mpr h)]
    simp [heard, h, List.eraseDups_cons]

theorem nodup_heard (rows : List (String × TowerRow)) : (heard rows).Nodup := by
  induction rows using List.reverseRecOn with
  | nil => exact List.nodup_nil
  | append_singleton rows row ih =>
    rw [heard_snoc]
    split
    · exact ih
    · rename_i hnew
      refine List.nodup_append.mpr ⟨ih, by simp, fun a ha b hb => ?_⟩
      rintro rfl
      exact hnew (List.mem_singleton.mp hb ▸ ha)

/-- More rows leave what was heard where it is. -/
theorem heard_extends (rows later : List (String × TowerRow)) : heard rows <+: heard (rows ++ later) := by
  rw [heard, heard, List.map_append, List.eraseDups_append]
  exact List.prefix_append _ _

theorem rowsOf_snoc (id serial : String) (rows : List (String × TowerRow)) (r : TowerRow) :
    rowsOf id (rows ++ [(serial, r)]) = if id = serial then rowsOf id rows ++ [r] else rowsOf id rows := by
  by_cases h : id = serial
  · simp [rowsOf, h]
  · simp [rowsOf, h, Ne.symm h]

/-- A sensor that was heard has a last row. -/
theorem getLast?_rowsOf {serial : String} {rows : List (String × TowerRow)} (h : serial ∈ heard rows) :
    ∃ r, (rowsOf serial rows).getLast? = some r := by
  obtain ⟨r, hr⟩ := (mem_heard serial rows).mp h
  have hmem : r ∈ rowsOf serial rows := List.mem_map.mpr ⟨(serial, r), by simp [hr], rfl⟩
  exact Option.isSome_iff_exists.mp (List.getLast?_isSome.mpr (List.ne_nil_of_mem hmem))

/-- A sensor that was not heard has no rows. -/
theorem rowsOf_of_not_heard {serial : String} {rows : List (String × TowerRow)} (h : serial ∉ heard rows) :
    rowsOf serial rows = [] := by
  rw [rowsOf, List.map_eq_nil_iff, List.filter_eq_nil_iff]
  rintro ⟨key, r⟩ hrow hkey
  obtain rfl : key = serial := by simpa using hkey
  exact h ((mem_heard key rows).mpr ⟨r, hrow⟩)

/-- One more row is one more reading of its sensor. -/
theorem sensorOf_snoc (serial : String) (r : TowerRow) (id : String) :
    sensorOf places zone (all ++ [(serial, r)]) (today ++ [(serial, r)]) id =
      if id = serial then (sensorOf places zone all today id).read zone r else sensorOf places zone all today id := by
  by_cases h : id = serial
  · simp [sensorOf, AuxSensor.read, rowsOf_snoc, h, raise_highest, lower_lowest]
  · simp [sensorOf, rowsOf_snoc, h]

/-- A sensor that was not heard would have the record of which nothing is known. -/
theorem sensorOf_of_not_heard (htoday : today.Sublist all) {serial : String} (h : serial ∉ heard all) :
    sensorOf places zone all today serial = .fresh serial (places.placeOf serial) := by
  have htoday : serial ∉ heard today := fun hheard => by
    obtain ⟨r, hr⟩ := (mem_heard serial today).mp hheard
    exact h ((mem_heard serial all).mpr ⟨r, htoday.subset hr⟩)
  simp only [sensorOf, rowsOf_of_not_heard h, rowsOf_of_not_heard htoday]
  rfl

/-- A record is found by its serial number. -/
theorem find?_sensorTable (serial : String) :
    (sensorTable places zone all today).find? (·.id == serial) =
      if serial ∈ heard all then some (sensorOf places zone all today serial) else none := by
  have hids : ((·.id == serial) ∘ sensorOf places zone all today) = (· == serial) := rfl
  rw [sensorTable, List.find?_map, hids]
  cases hfind : (heard all).find? (· == serial) with
  | none =>
    have hnot : serial ∉ heard all := fun h => List.find?_eq_none.mp hfind serial h (beq_self_eq_true serial)
    rw [if_neg hnot]
    rfl
  | some id =>
    have hid : id = serial := by simpa using List.find?_some hfind
    subst hid
    rw [if_pos (List.mem_of_find?_eq_some hfind)]
    rfl

/-- The table has the records of the sensors that were heard. -/
theorem mem_sensorTable {x : AuxSensor Float} (h : x ∈ sensorTable places zone all today) :
    x.id ∈ heard all ∧ x = sensorOf places zone all today x.id := by
  obtain ⟨id, hid, rfl⟩ := List.mem_map.mp h
  exact ⟨hid, rfl⟩

theorem ids_sensorTable : (sensorTable places zone all today).map (·.id) = heard all := by
  rw [sensorTable, List.map_map]
  exact List.map_id' _

/-- The places are those of the serial numbers, in the order of the table. -/
theorem places_sensorTable :
    (sensorTable places zone all today).map (fun x => (x.id, x.location)) =
      (heard all).map fun id => (id, places.placeOf id) := by
  rw [sensorTable, List.map_map]
  rfl

/-- The record of a sensor that was heard shows its last row. -/
theorem sensorOf_shows {serial : String} (h : serial ∈ heard all) :
    ∃ r, (rowsOf serial all).getLast? = some r ∧ (sensorOf places zone all today serial).temperature = r.temperature ∧
      (sensorOf places zone all today serial).humidity = r.humidity ∧
      (sensorOf places zone all today serial).timestamp = timestampOf zone r.epoch := by
  obtain ⟨r, hr⟩ := getLast?_rowsOf h
  refine ⟨r, hr, ?_, ?_, ?_⟩
  · rw [sensorOf, hr]
    rfl
  · rw [sensorOf, hr]
    rfl
  · rw [sensorOf, hr]
    rfl

/-- Changing the record of a sensor changes it in its place. -/
theorem changeSensor_map {record : String → AuxSensor Float} (hid : ∀ id, (record id).id = id) (serial : String)
    (change : AuxSensor Float → AuxSensor Float) {ids : List String} (hnodup : ids.Nodup) :
    Station.changeSensor serial change (ids.map record) =
      ids.map fun id => if id = serial then change (record id) else record id := by
  induction ids with
  | nil => rfl
  | cons id rest ih =>
    obtain ⟨hnotin, hrest⟩ := List.nodup_cons.mp hnodup
    simp only [List.map_cons, Station.changeSensor, hid, beq_iff_eq]
    by_cases h : id = serial
    · subst h
      have hothers : ∀ i ∈ rest, record i = if i = id then change (record i) else record i := by
        intro i hi
        rw [if_neg]
        rintro rfl
        exact hnotin hi
      rw [if_pos rfl, if_pos rfl, List.map_eq_map_iff.mpr hothers]
    · rw [if_neg h, if_neg h, ih hrest]

end

/-! ## What each reading keeps -/

/-- That the records of a station are the table of all rows, with highs and lows of some of them. -/
structure Tabled (places : SensorPlaces) (zone : Zone) (all today : List (String × TowerRow)) (s : Station) : Prop where
  places_eq : s.places = places
  zone_eq : s.zone = zone
  sensors_eq : s.live.sensors = sensorTable places zone all today
  sublist : today.Sublist all

namespace Tabled

variable {places : SensorPlaces} {zone : Zone} {all today : List (String × TowerRow)} {s : Station}

/-- A sensor's first row adds its record at the end. -/
theorem meet (h : Tabled places zone all today s) (serial : String) (r : TowerRow) :
    (s.meet serial).1.live.sensors = (heard (all ++ [(serial, r)])).map (sensorOf places zone all today) := by
  have hmeet : (s.meet serial).1.live.sensors = Station.sensorsWith s.places s.live.sensors serial :=
    congrArg (·.live.sensors) (s.meet_station serial)
  rw [hmeet, Station.sensorsWith, h.sensors_eq, h.places_eq, heard_snoc, find?_sensorTable]
  by_cases hheard : serial ∈ heard all
  · rw [if_pos hheard, if_pos hheard, if_pos (Option.isSome_some)]
    rfl
  · rw [if_neg hheard, if_neg hheard, if_neg (by simp), List.map_append, List.map_singleton,
      sensorOf_of_not_heard h.sublist hheard]
    rfl

/-- A row of an auxiliary sensor joins all rows and those of the day. -/
theorem applyTower (h : Tabled places zone all today s) (serial : String) (r : TowerRow) :
    Tabled places zone (all ++ [(serial, r)]) (today ++ [(serial, r)]) (s.applyTower serial r).1 where
  places_eq := (s.read_frame .start1970 (.tower serial r)).2.1.1.trans h.places_eq
  zone_eq := (s.read_frame .start1970 (.tower serial r)).2.1.2.trans h.zone_eq
  sensors_eq := by
    have hrecords : sensorOf places zone (all ++ [(serial, r)]) (today ++ [(serial, r)]) =
        fun id => if id = serial then (sensorOf places zone all today id).read zone r else sensorOf places zone all today id :=
      funext (sensorOf_snoc serial r)
    have hsensors : (s.applyTower serial r).1.live.sensors =
        Station.changeSensor serial (·.read (s.meet serial).1.zone r) (s.meet serial).1.live.sensors := rfl
    have hzone : (s.meet serial).1.zone = zone := by
      rw [s.meet_station serial]
      exact h.zone_eq
    rw [hsensors, hzone, h.meet serial r, changeSensor_map (fun _ => rfl) serial _ (nodup_heard _), sensorTable, hrecords]
  sublist := h.sublist.append (List.Sublist.refl _)

/-- Every reading keeps the records a table, with itself among the rows when it is one of an auxiliary sensor. -/
theorem read {all today : List Reading} (h : Tabled places zone (towerRows all) (towerRows today) s)
    (now : Moment) (x : Reading) :
    Tabled places zone (towerRows (all ++ [x])) (towerRows (today ++ [x])) (s.read now x) := by
  rw [towerRows_snoc, towerRows_snoc]
  cases x with
  | tower serial r => exact h.applyTower serial r
  | _ =>
    simp only [Reading.tower?, Option.toList_none, List.append_nil]
    exact ⟨h.places_eq, h.zone_eq, h.sensors_eq, h.sublist⟩

/-- A new day takes the highs and lows away. -/
theorem newDay (h : Tabled places zone all today s) : Tabled places zone all [] { s with live := s.live.clearExtremes } where
  places_eq := h.places_eq
  zone_eq := h.zone_eq
  sensors_eq := by
    have hclear : s.live.clearExtremes.sensors = s.live.sensors.map fun x => { x with high := none, low := none } := rfl
    rw [hclear, h.sensors_eq, sensorTable, List.map_map]
    rfl
  sublist := List.nil_sublist _

end Tabled

/-! ## After all packets -/

/-- Only a packet of an auxiliary sensor has readings of one. -/
theorem Packet.eq_tower {p : Packet} {x : Reading} {serial : String} {r : TowerRow} (hx : x ∈ p.readings)
    (hrow : x.tower? = some (serial, r)) : ∃ first rest, p = .tower serial (first :: rest) := by
  cases p with
  | tower sender rows =>
    obtain ⟨row, hmem, rfl⟩ := List.mem_map.mp hx
    obtain ⟨rfl, rfl⟩ := Prod.mk.inj (Option.some.inj hrow)
    cases rows with
    | nil => exact absurd hmem List.not_mem_nil
    | cons first rest => exact ⟨first, rest, rfl⟩
  | air sender rows =>
    obtain ⟨row, -, rfl⟩ := List.mem_map.mp hx
    exact absurd hrow.symm (Option.some_ne_none _)
  | sky sender rows =>
    obtain ⟨row, -, rfl⟩ := List.mem_map.mp hx
    exact absurd hrow.symm (Option.some_ne_none _)
  | rapidWind w =>
    obtain rfl := List.mem_singleton.mp hx
    exact absurd hrow.symm (Option.some_ne_none _)
  | _ => exact absurd hx List.not_mem_nil

/-- The sensors heard in packets are those that sent a packet with a row. -/
theorem Arrival.mem_heard (serial : String) (arrivals : List Arrival) :
    serial ∈ heard (towerRows (readings arrivals)) ↔ ∃ a ∈ arrivals, ∃ r rest, a.packet = .tower serial (r :: rest) := by
  rw [WeatherRelay.mem_heard]
  constructor
  · rintro ⟨r, hr⟩
    obtain ⟨x, hx, hrow⟩ := List.mem_filterMap.mp hr
    obtain ⟨a, ha, hxa⟩ := List.mem_flatMap.mp hx
    exact ⟨a, ha, Packet.eq_tower hxa hrow⟩
  · rintro ⟨a, ha, r, rest, hp⟩
    refine ⟨r, List.mem_filterMap.mpr ⟨.tower serial r, List.mem_flatMap.mpr ⟨a, ha, ?_⟩, rfl⟩⟩
    simp [hp, Packet.readings]

namespace Station

variable (info : StationInfo) (gauge : Rainfall.Gauge) (places : SensorPlaces) (zone : Zone)

/-- The records are the table of all rows, with the highs and lows of the current day. -/
theorem tabled_ingestAll (arrivals : List Arrival) :
    Tabled places zone (towerRows (Arrival.readings arrivals)) (towerRows (Arrival.readings (Arrival.current arrivals)))
      ((opened info gauge places zone).ingestAll arrivals) := by
  refine history_induct (s := opened info gauge places zone)
    (P := fun all today s => Tabled places zone (towerRows all) (towerRows today) s) rfl ?_ ?_ ?_ ?_ arrivals
  · exact ⟨rfl, rfl, rfl, List.Sublist.refl _⟩
  · exact fun _ _ _ now x h => h.read now x
  · exact fun _ _ _ h => h.newDay
  · exact fun _ _ _ _ _ h => ⟨h.places_eq, h.zone_eq, h.sensors_eq, h.sublist⟩

/-- The records of auxiliary sensors after any packets. There is one for each serial number that sent a packet with a
row, and no other, in the order of the first of these; later packets only add records behind them, and change no place.
A record has the place that the mapping puts its sensor at, or the serial number when the mapping has none, and shows
the sensor's last row, with its time as the clocks of the station's zone show it. Each is found by its serial number,
and under other numbers nothing is. -/
theorem sensors_in_order_of_first_hearing (arrivals later : List Arrival) :
    let start := opened info gauge places zone
    let live := (start.ingestAll arrivals).live
    let rows := towerRows (Arrival.readings arrivals)
    live.sensors.map (·.id) = (rows.map (·.1)).eraseDups ∧
      (live.sensors.map (·.id)).Nodup ∧
      (∀ id, (∃ x ∈ live.sensors, x.id = id) ↔ ∃ a ∈ arrivals, ∃ r rest, a.packet = .tower id (r :: rest)) ∧
      live.sensors.map (fun x => (x.id, x.location)) <+:
        (start.ingestAll (arrivals ++ later)).live.sensors.map (fun x => (x.id, x.location)) ∧
      (∀ x ∈ live.sensors, places.Puts x.id x.location ∧
        ∃ r, (rowsOf x.id rows).getLast? = some r ∧ x.temperature = r.temperature ∧ x.humidity = r.humidity ∧
          x.timestamp = timestampOf zone r.epoch) ∧
      (∀ x ∈ live.sensors, live.sensor? x.id = some x) ∧
      ∀ id, (∀ x ∈ live.sensors, x.id ≠ id) → live.sensor? id = none := by
  intro start live rows
  -- the rows of the day matter for highs and lows only
  obtain ⟨today, htable⟩ : ∃ today, live.sensors = sensorTable places zone rows today :=
    ⟨_, (tabled_ingestAll info gauge places zone arrivals).sensors_eq⟩
  have hids : live.sensors.map (·.id) = heard rows := by rw [htable, ids_sensorTable]
  have hrecord := fun x (hx : x ∈ live.sensors) => mem_sensorTable (htable ▸ hx)
  have hfind : ∀ id, live.sensor? id = if id ∈ heard rows then some (sensorOf places zone rows today id) else none := by
    intro id
    rw [Observation.sensor?, htable]
    exact find?_sensorTable id
  refine ⟨hids, ?_, ?_, ?_, ?_, ?_, ?_⟩
  · rw [hids]
    exact nodup_heard rows
  · intro id
    rw [← Arrival.mem_heard, ← hids, List.mem_map]
  · have hlater : towerRows (Arrival.readings (arrivals ++ later)) = rows ++ towerRows (Arrival.readings later) := by
      simp [towerRows, Arrival.readings, rows]
    rw [htable, (tabled_ingestAll info gauge places zone (arrivals ++ later)).sensors_eq, places_sensorTable, places_sensorTable,
      hlater]
    exact (heard_extends rows _).map _
  · intro x hx
    obtain ⟨hheard, hx⟩ := hrecord x hx
    rw [hx]
    exact ⟨places.puts_placeOf x.id, sensorOf_shows hheard⟩
  · intro x hx
    obtain ⟨hheard, hx⟩ := hrecord x hx
    exact (hfind x.id).trans ((if_pos hheard).trans (congrArg some hx.symm))
  · intro id hid
    refine (hfind id).trans (if_neg fun hheard => ?_)
    rw [← hids] at hheard
    obtain ⟨x, hx, hxid⟩ := List.mem_map.mp hheard
    exact hid x hx hxid

/-- Packets of two sensors, one of which first sends no row. -/
def sensorArrivals : List Arrival :=
  [{ packet := .tower "ST-2" [], time := .start1970 },
    { packet := .tower "ST-1" [⟨0, 12.0, 60.0⟩, ⟨0, 13.0, 61.0⟩], time := .start1970 },
    { packet := .tower "ST-2" [⟨0, 5.0, 80.0⟩], time := .start1970 }]

/-- The sensor whose first packet had no row comes second; one has a place and the other its serial number. -/
theorem two_sensors_in_order :
    let live := ((opened {} {} [("ST-1", "Garage")]).ingestAll sensorArrivals).live
    live.sensors.map (fun x => (x.id, x.location, x.temperature)) = [("ST-1", "Garage", 13.0), ("ST-2", "ST-2", 5.0)] ∧
      live.sensor? "ST-3" = none := by
  intro live
  obtain ⟨hids, -, -, -, -, -, hnone⟩ := sensors_in_order_of_first_hearing {} {} [("ST-1", "Garage")] .utc sensorArrivals []
  refine ⟨by decide +kernel, hnone "ST-3" fun x hx => ?_⟩
  have hid : x.id ∈ live.sensors.map (·.id) := List.mem_map_of_mem hx
  rw [hids] at hid
  rintro hxid
  rw [hxid] at hid
  exact absurd hid (by decide +kernel)

end Station

end WeatherRelay
