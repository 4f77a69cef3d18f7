import Mathlib.Data.List.Nodup
import Mathlib.Data.Set.Operations
import WeatherRelay.Proofs.Station.Sensors
import WeatherRelay.Publish.Mqtt

/-!
# One topic for every value

A topic is the lead, a slash and a name, or the lead, a place and a name. Names have no slashes, so the topics of the
main values are apart from each other and from all topics of places (`topics_nodup_iff`). But a place has one topic for
temperatures and one for humidities, however many sensors stand there: a mapping that puts two sensors at one place, or
a sensor at a place that is named like the serial number of another, makes them send on the same topics
(`one_topic_for_every_place`).
-/

namespace WeatherRelay.Mqtt

/-! ## Topics and names -/

theorem toList_topic (lead name : String) : s!"{lead}/{name}".toList = lead.toList ++ '/' :: name.toList := by
  show (lead ++ "/" ++ name).toList = _
  simp [String.toList_append]

theorem toList_placeTopic (lead place tail : String) :
    s!"{lead}/{place}{tail}".toList = lead.toList ++ '/' :: (place.toList ++ tail.toList) := by
  show (lead ++ "/" ++ place ++ tail).toList = _
  simp [String.toList_append]

/-- The topic of the trend is that of a name, too. -/
theorem trendTopic (lead : String) : s!"{lead}/Trend" = lead ++ "/" ++ "Trend" := by
  rw [← String.toList_inj]
  show (lead ++ "/Trend").toList = _
  simp [String.toList_append]

/-- Under one lead, topics are as different as the names. -/
theorem topic_inj {lead x y : String} : s!"{lead}/{x}" = s!"{lead}/{y}" ↔ x = y := by
  rw [← String.toList_inj, toList_topic, toList_topic]
  simp [String.toList_inj]

/-- The topics of places for values of one kind are as different as the places. -/
theorem placeTopic_inj {lead place other tail : String} :
    s!"{lead}/{place}{tail}" = s!"{lead}/{other}{tail}" ↔ place = other := by
  rw [← String.toList_inj, toList_placeTopic, toList_placeTopic]
  simp [String.toList_inj]

/-- No others topic for temperatures is one for humidities. -/
theorem temperature_ne_humidity (lead place other : String) :
    s!"{lead}/{place}/Temperature" ≠ s!"{lead}/{other}/Humidity" := by
  intro h
  have hchars := (toList_placeTopic ..).symm.trans ((congrArg String.toList h).trans (toList_placeTopic ..))
  -- the last letters differ
  have hreverse := congrArg List.reverse hchars
  simp at hreverse

/-- A name without slashes is no name under a place. -/
theorem topic_ne_placeTopic {lead name place tail : String} (hname : '/' ∉ name.toList) (htail : '/' ∈ tail.toList) :
    s!"{lead}/{name}" ≠ s!"{lead}/{place}{tail}" := by
  intro h
  have hchars := congrArg String.toList h
  rw [toList_topic, toList_placeTopic] at hchars
  obtain hsame : name.toList = place.toList ++ tail.toList := by simpa using hchars
  exact hname (hsame ▸ List.mem_append_right _ htail)

/-! ## The messages of an observation -/

/-- The names of the main values, and that of the trend. -/
def mainNames : List String := (mainValues .empty).map (·.1) ++ ["Trend"]

/-- The messages of the main values and the trend. -/
def mainMessages (lead : String) (o : Snapshot) : List Message :=
  (mainValues o).map (fun v => ⟨s!"{lead}/{v.1}", Decimal.floatText 2 v.2⟩) ++ [⟨s!"{lead}/Trend", o.trend.text⟩]

theorem messages_eq (lead : String) (o : Snapshot) :
    messages lead o = mainMessages lead o ++ o.sensors.flatMap (sensorMessages lead) := by
  simp [messages, mainMessages]

theorem topics_mainMessages (lead : String) (o : Snapshot) :
    (mainMessages lead o).map (·.topic) = mainNames.map fun name => s!"{lead}/{name}" := by
  rw [mainMessages, trendTopic]
  rfl

theorem nodup_mainNames : mainNames.Nodup := by decide

theorem no_slash_of_mainName {name : String} (h : name ∈ mainNames) : '/' ∉ name.toList := by
  revert name
  decide

theorem nodup_mainTopics (lead : String) (o : Snapshot) : ((mainMessages lead o).map (·.topic)).Nodup := by
  rw [topics_mainMessages]
  exact List.Nodup.map (fun x y h => topic_inj.mp h) nodup_mainNames

/-- The topics of a sensor. -/
theorem topics_sensorMessages (lead : String) (s : AuxSensor Float) :
    (sensorMessages lead s).map (·.topic) = [s!"{lead}/{s.location}/Temperature", s!"{lead}/{s.location}/Humidity"] := rfl

/-- A topic of a sensor is none of a main value. -/
theorem sensorTopic_not_main (lead : String) {name : String} (h : name ∈ mainNames) (s : AuxSensor Float) :
    s!"{lead}/{name}" ∉ (sensorMessages lead s).map (·.topic) := by
  have hslash := no_slash_of_mainName h
  rw [topics_sensorMessages]
  intro hmem
  rcases List.mem_pair.mp hmem with heq | heq
  · exact topic_ne_placeTopic hslash (by decide) heq
  · exact topic_ne_placeTopic hslash (by decide) heq

/-- Two sensors have topics of their own if they stand at two places, and else have the same. -/
theorem disjoint_sensorTopics (lead : String) (s t : AuxSensor Float) :
    List.Disjoint ((sensorMessages lead s).map (·.topic)) ((sensorMessages lead t).map (·.topic)) ↔
      s.location ≠ t.location := by
  rw [topics_sensorMessages, topics_sensorMessages]
  constructor
  · intro h heq
    exact h List.mem_cons_self (heq ▸ List.mem_cons_self)
  · intro hne topic hs ht
    rcases List.mem_pair.mp hs with rfl | rfl <;> rcases List.mem_pair.mp ht with h | h
    · exact hne (placeTopic_inj.mp h)
    · exact temperature_ne_humidity lead _ _ h
    · exact temperature_ne_humidity lead _ _ h.symm
    · exact hne (placeTopic_inj.mp h)

theorem nodup_sensorTopics (lead : String) (s : AuxSensor Float) : ((sensorMessages lead s).map (·.topic)).Nodup := by
  rw [topics_sensorMessages]
  exact List.nodup_cons.mpr ⟨fun h => temperature_ne_humidity lead _ _ (List.mem_singleton.mp h), List.nodup_singleton _⟩

/-- All topics are distinct exactly if all sensors stand at places of their own. -/
theorem topics_nodup_iff (lead : String) (o : Snapshot) :
    ((messages lead o).map (·.topic)).Nodup ↔ (o.sensors.map (·.location)).Nodup := by
  have hsensors : ((o.sensors.flatMap (sensorMessages lead)).map (·.topic)).Nodup ↔ (o.sensors.map (·.location)).Nodup := by
    rw [List.map_flatMap, List.nodup_flatMap, List.Nodup, List.pairwise_map]
    constructor
    · rintro ⟨-, hapart⟩
      exact hapart.imp fun h => (disjoint_sensorTopics lead _ _).mp h
    · intro hapart
      exact ⟨fun s _ => nodup_sensorTopics lead s, hapart.imp fun h => (disjoint_sensorTopics lead _ _).mpr h⟩
  rw [messages_eq, List.map_append, List.nodup_append', hsensors]
  constructor
  · exact fun h => h.2.1
  · intro h
    refine ⟨nodup_mainTopics lead o, h, ?_⟩
    intro topic hmain hsensor
    rw [topics_mainMessages] at hmain
    obtain ⟨name, hname, rfl⟩ := List.mem_map.mp hmain
    rw [List.map_flatMap] at hsensor
    obtain ⟨s, -, hs⟩ := List.mem_flatMap.mp hsensor
    exact sensorTopic_not_main lead hname s hs

/-! ## What is sent on a topic -/

/-- Of messages on distinct topics, a topic has one. -/
theorem filter_topic {sent : List Message} (hnodup : (sent.map (·.topic)).Nodup) {m : Message} (hm : m ∈ sent) :
    sent.filter (·.topic = m.topic) = [m] := by
  induction sent with
  | nil => exact absurd hm List.not_mem_nil
  | cons first rest ih =>
    obtain ⟨hfirst, hrest⟩ := List.nodup_cons.mp hnodup
    rcases List.mem_cons.mp hm with rfl | hm
    · have hnone : rest.filter (·.topic = m.topic) = [] := by
        rw [List.filter_eq_nil_iff]
        intro x hx htopic
        exact hfirst (List.mem_map.mpr ⟨x, hx, by simpa using htopic⟩)
      rw [List.filter_cons_of_pos (by simp), hnone]
    · have hne : first.topic ≠ m.topic := fun h => hfirst (List.mem_map.mpr ⟨m, hm, h.symm⟩)
      rw [List.filter_cons_of_neg (by simpa using hne), ih hrest hm]

/-- A main value is sent once on its topic, and nothing else is. -/
theorem filter_mainTopic (lead : String) (o : Snapshot) {m : Message} (hm : m ∈ mainMessages lead o) :
    (messages lead o).filter (·.topic = m.topic) = [m] := by
  have htopic : m.topic ∈ (mainMessages lead o).map (·.topic) := List.mem_map_of_mem hm
  rw [topics_mainMessages] at htopic
  obtain ⟨name, hname, hlead⟩ := List.mem_map.mp htopic
  have hsensors : (o.sensors.flatMap (sensorMessages lead)).filter (·.topic = m.topic) = [] := by
    rw [List.filter_eq_nil_iff]
    intro x hx heq
    obtain ⟨s, -, hs⟩ := List.mem_flatMap.mp hx
    refine sensorTopic_not_main lead hname s ?_
    rw [hlead]
    exact List.mem_map.mpr ⟨x, hs, by simpa using heq⟩
  rw [messages_eq, List.filter_append, filter_topic (nodup_mainTopics lead o) hm, hsensors, List.append_nil]

/-- What is sent on the topic of a place is what the sensors there send on it. -/
theorem filter_placeTopic (lead place : String) (o : Snapshot) {tail : String} (value : AuxSensor Float → Float)
    (hsends : ∀ s, ⟨s!"{lead}/{s.location}{tail}", Decimal.floatText 2 (value s)⟩ ∈ sensorMessages lead s) :
    (messages lead o).filter (·.topic = s!"{lead}/{place}{tail}") =
      (o.sensors.filter (·.location = place)).map fun s => ⟨s!"{lead}/{place}{tail}", Decimal.floatText 2 (value s)⟩ := by
  -- whether or not there is a sensor at the place
  have hplace : s!"{lead}/{place}{tail}" ∈ (sensorMessages lead (.fresh "" place)).map (·.topic) :=
    List.mem_map_of_mem (hsends (.fresh "" place))
  have hmain : (mainMessages lead o).filter (·.topic = s!"{lead}/{place}{tail}") = [] := by
    rw [List.filter_eq_nil_iff]
    intro x hx htopic
    have hmem : x.topic ∈ (mainMessages lead o).map (·.topic) := List.mem_map_of_mem hx
    rw [topics_mainMessages] at hmem
    obtain ⟨name, hname, hlead⟩ := List.mem_map.mp hmem
    refine sensorTopic_not_main lead hname (.fresh "" place) ?_
    rw [hlead, of_decide_eq_true htopic]
    exact hplace
  have hsensor : ∀ s, (sensorMessages lead s).filter (·.topic = s!"{lead}/{place}{tail}") =
      if s.location = place then [⟨s!"{lead}/{place}{tail}", Decimal.floatText 2 (value s)⟩] else [] := by
    intro s
    split
    case isTrue h =>
      subst h
      exact filter_topic (nodup_sensorTopics lead s) (hsends s)
    case isFalse h =>
      rw [List.filter_eq_nil_iff]
      intro x hx htopic
      refine (disjoint_sensorTopics lead s (.fresh "" place)).mpr h (List.mem_map_of_mem hx) ?_
      rw [of_decide_eq_true htopic]
      exact hplace
  rw [messages_eq, List.filter_append, hmain, List.nil_append, List.filter_flatMap]
  induction o.sensors with
  | nil => rfl
  | cons s rest ih =>
    rw [List.flatMap_cons, hsensor, ih]
    by_cases h : s.location = place <;> simp [h]

/-! ## After any packets -/

/-- The places of the sensors of a snapshot are those that the mapping puts them at, converted or not. -/
theorem locations_of_snapshot (info : StationInfo) (gauge : Rainfall.Gauge) (places : SensorPlaces) (zone : Zone)
    (before : List Arrival)
    (a : Arrival) {snapshot shown : Snapshot}
    (h : (((Station.opened info gauge places zone).ingestAll before).ingested a).snapshot? = some snapshot)
    (hshown : shown = snapshot ∨ ∃ c, shown = snapshot.toImperial c) :
    shown.sensors.map (·.location) =
      (heard (towerRows (Arrival.readings (before ++ [a])))).map places.placeOf := by
  have hlive : snapshot.sensors.map (·.location) =
      (heard (towerRows (Arrival.readings (before ++ [a])))).map places.placeOf := by
    have htable := (Station.tabled_ingestAll info gauge places zone (before ++ [a])).sensors_eq
    rw [Station.ingestAll_snoc] at htable
    rw [Station.live_of_ingested h, htable, sensorTable, List.map_map]
    rfl
  rcases hshown with rfl | ⟨c, rfl⟩
  · exact hlive
  · rw [← hlive, Observation.toImperial, List.map_map]
    rfl

/-- What is sent of a snapshot, converted or not. Every main value and the trend are sent once, on a topic on which
nothing else is sent. A place has one topic for temperatures and one for humidities, on which each sensor there sends
its own. So all topics are distinct exactly if the mapping puts no two of the sensors that were heard at one place. -/
theorem one_topic_for_every_place (info : StationInfo) (gauge : Rainfall.Gauge) (places : SensorPlaces) (zone : Zone)
    (before : List Arrival)
    (a : Arrival) (snapshot shown : Snapshot) (lead : String)
    (h : (((Station.opened info gauge places zone).ingestAll before).ingested a).snapshot? = some snapshot)
    (hshown : shown = snapshot ∨ ∃ c, shown = snapshot.toImperial c) :
    let sent := messages lead shown
    (∀ v ∈ mainValues shown,
      sent.filter (·.topic = s!"{lead}/{v.1}") = [⟨s!"{lead}/{v.1}", Decimal.floatText 2 v.2⟩]) ∧
    sent.filter (·.topic = s!"{lead}/Trend") = [⟨s!"{lead}/Trend", shown.trend.text⟩] ∧
    (∀ place,
      sent.filter (·.topic = s!"{lead}/{place}/Temperature") =
        (shown.sensors.filter (·.location = place)).map fun s =>
          ⟨s!"{lead}/{place}/Temperature", Decimal.floatText 2 s.temperature⟩) ∧
    (∀ place,
      sent.filter (·.topic = s!"{lead}/{place}/Humidity") =
        (shown.sensors.filter (·.location = place)).map fun s =>
          ⟨s!"{lead}/{place}/Humidity", Decimal.floatText 2 s.humidity⟩) ∧
    ((sent.map (·.topic)).Nodup ↔
      Set.InjOn places.placeOf {serial | ∃ b ∈ before ++ [a], ∃ r rest, b.packet = .tower serial (r :: rest)}) := by
  intro sent
  refine ⟨?_, ?_, ?_, ?_, ?_⟩
  · intro v hv
    refine filter_mainTopic lead shown (m := ⟨s!"{lead}/{v.1}", Decimal.floatText 2 v.2⟩) ?_
    exact List.mem_append_left _ (List.mem_map.mpr ⟨v, hv, rfl⟩)
  · refine filter_mainTopic lead shown (m := ⟨s!"{lead}/Trend", shown.trend.text⟩) ?_
    exact List.mem_append_right _ (List.mem_singleton_self _)
  · intro place
    exact filter_placeTopic lead place shown (·.temperature) fun s => List.mem_cons_self
  · intro place
    exact filter_placeTopic lead place shown (·.humidity) fun s => List.mem_cons_of_mem _ List.mem_cons_self
  · rw [topics_nodup_iff, locations_of_snapshot info gauge places zone before a h hshown, List.nodup_map_iff_inj_on (nodup_heard _)]
    simp only [Arrival.mem_heard]
    rfl

/-- Readings of two auxiliary sensors, of wind and of rain. -/
def twoSensors : List Arrival :=
  [{ packet := .tower "ST-1" [⟨0, 12.5, 60.0⟩], time := .start1970 },
    { packet := .tower "ST-2" [⟨0, 5.25, 80.0⟩], time := .start1970 },
    { packet := .sky "SK-1" [⟨0, 0.0, 0.0, 0.0, 2.0, 3.0, 90.0, 0.0⟩], time := .start1970 }]

/-- The reading that completes the cycle. -/
def completing : Arrival := { packet := .air "AR-1" [⟨0, 1000.0, 5.0, 80.0, 0, 0.0⟩], time := .start1970 }

/-- Sensors at two places have topics of their own, as long as no third one is heard. -/
theorem topics_of_two_places :
    let places : SensorPlaces := [("ST-1", "Garage"), ("ST-2", "Attic"), ("ST-3", "Garage")]
    ∃ snapshot, (((Station.opened {} {} places).ingestAll twoSensors).ingested completing).snapshot? = some snapshot ∧
      ((messages "weather" snapshot).map (·.topic)).Nodup := by
  intro places
  have hfires : (((Station.opened {} {} places).ingestAll twoSensors).ingested completing).snapshot?.isSome = true := by
    decide +kernel
  obtain ⟨snapshot, h⟩ := Option.isSome_iff_exists.mp hfires
  obtain ⟨-, -, -, -, hnodup⟩ :=
    one_topic_for_every_place {} {} places .utc twoSensors completing snapshot snapshot "weather" h (Or.inl rfl)
  refine ⟨snapshot, h, hnodup.mpr ?_⟩
  have hheard : ∀ serial, (∃ b ∈ twoSensors ++ [completing], ∃ r rest, b.packet = .tower serial (r :: rest)) →
      serial = "ST-1" ∨ serial = "ST-2" := by
    rintro serial ⟨b, hb, r, rest, hpacket⟩
    simp only [twoSensors, completing, List.cons_append, List.nil_append, List.mem_cons, List.not_mem_nil, or_false] at hb
    rcases hb with rfl | rfl | rfl | rfl <;> simp_all
  intro x hx y hy hsame
  rcases hheard x hx with rfl | rfl <;> rcases hheard y hy with rfl | rfl
  · rfl
  · exact absurd hsame (by decide)
  · exact absurd hsame (by decide)
  · rfl

/-- That a subscriber to a topic is left with the second of the two sensors' temperatures. -/
def SecondIsLeft (places : SensorPlaces) (topic : String) : Prop :=
  ∃ snapshot, (((Station.opened {} {} places).ingestAll twoSensors).ingested completing).snapshot? = some snapshot ∧
    ¬((messages "weather" snapshot).map (·.topic)).Nodup ∧
    ((messages "weather" snapshot).filter (·.topic = topic)).map (·.payload) = ["12.50", "5.25"]

/-- Two sensors that the mapping puts at one place are sent on one topic. So are two sensors of which one stands at a
place that is named like the other's serial number. -/
theorem two_sensors_on_one_topic :
    SecondIsLeft [("ST-1", "Garage"), ("ST-2", "Garage")] "weather/Garage/Temperature" ∧
      SecondIsLeft [("ST-1", "ST-2")] "weather/ST-2/Temperature" := by
  have hlive : ∀ (places : SensorPlaces) (topic : String),
      let done := ((Station.opened {} {} places).ingestAll twoSensors).ingested completing
      done.snapshot?.isSome = true → ¬((messages "weather" done.station.live).map (·.topic)).Nodup →
      ((messages "weather" done.station.live).filter (·.topic = topic)).map (·.payload) = ["12.50", "5.25"] →
      SecondIsLeft places topic := by
    intro places topic done hfires hshared hpayloads
    obtain ⟨snapshot, h⟩ := Option.isSome_iff_exists.mp hfires
    obtain rfl := Station.live_of_ingested h
    exact ⟨_, h, hshared, hpayloads⟩
  constructor
  · exact hlive _ _ (by decide +kernel) (by decide +kernel) (by decide +kernel)
  · exact hlive _ _ (by decide +kernel) (by decide +kernel) (by decide +kernel)

end WeatherRelay.Mqtt
