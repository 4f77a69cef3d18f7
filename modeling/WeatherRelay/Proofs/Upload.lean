import WeatherRelay.Proofs.Conversion
import WeatherRelay.Publish.Publisher

/-!
# The units of uploads

Web services and the weather observers' network are sent reports in parameters and columns whose names say imperial
units. Which units the reports are in is settled by each publisher: some always convert, the others convert unless the
configuration is metric (`Service.units`). What a publisher transmits after any deliveries is what is due of them
(`transmits_sent?`), the report of the observations since the last boundary in its units (`sent?_eq`). So two
configurations that differ in the units are sent the same exactly by the publishers that always convert, and else the
same quantities in two units under one name (`metric_is_sent_unconverted`). Over exact numbers it makes no difference
that observations are converted before they are averaged (`average?_toImperial`).
-/

namespace WeatherRelay

/-! ## What is sent -/

namespace Upload

/-- The web services. -/
def services : List Service := [weatherUnderground, weatherBug, pwsWeather]

namespace Service

variable (s : Service)

/-- The averager of a service after offers. -/
def prepareAll (c : DestinationConfig) (a : Averager Float) (offers : List (Offer Float)) : Averager Float :=
  offers.foldl (fun a o => (s.prepare c a o.observation o.minute).2) a

/-- The parameters of the report that a service sends at an offer, after others were made to it since its start. -/
def sent? (c : DestinationConfig) (offers : List (Offer Float)) (o : Offer Float) (time : String) :
    Option (List (String × String)) :=
  let averager := s.prepareAll c (.ofMinutes (s.every.getD 1)) offers
  (s.prepare c averager o.observation o.minute).1.map (s.parameters c · time)

/-- The report that is due at an offer after others: of a service that averages, the average of the observations since
the last boundary, and else the observation; all of them in some units. -/
def report? (units : Snapshot → Snapshot) (offers : List (Offer Float)) (o : Offer Float) : Option Snapshot :=
  match s.every with
  | none => some (units o.observation)
  | some every =>
    if o.onBoundary every then
      Observation.average? .unitVectors ((Offer.samplesSince every offers).map units)
    else none

variable {s}

/-- A service that averages is offered converted observations. -/
theorem prepare_of_every {every : Nat} (h : s.every = some every) (c : DestinationConfig) (a : Averager Float)
    (o : Offer Float) :
    s.prepare c a o.observation o.minute =
      let converted := o.convert (s.converted c)
      a.offer .unitVectors converted.observation converted.minute := by
  rw [prepare, h]
  rfl

theorem prepareAll_of_every {every : Nat} (h : s.every = some every) (c : DestinationConfig) (offers : List (Offer Float)) :
    s.prepareAll c (.ofMinutes every) offers =
      ⟨max every 1, .of .unitVectors ((Offer.samplesSince every offers).map (s.converted c))⟩ := by
  rw [← Offer.samplesSince_convert, ← Averager.offerAll_ofMinutes, Averager.offerAll, List.foldl_map, prepareAll]
  simp only [prepare_of_every h]

variable (s)

/-- A service sends the report that is due, in the units of the configuration. -/
theorem sent?_eq (c : DestinationConfig) (offers : List (Offer Float)) (o : Offer Float) (time : String) :
    s.sent? c offers o time = (s.report? (s.converted c) offers o).map (s.parameters c · time) := by
  unfold sent? report?
  cases h : s.every with
  | none => simp only [prepare, h]
  | some every =>
    simp only [Option.getD_some, prepareAll_of_every h, prepare_of_every h, Averager.offer_of_fst]
    rfl

end Service

theorem parameters_metric {s : Service} (hs : s ∈ services) (c : DestinationConfig) (metric : Bool) :
    s.parameters { c with metric } = s.parameters c := by
  simp only [services, List.mem_cons, List.not_mem_nil, or_false] at hs
  rcases hs with rfl | rfl | rfl <;> rfl

theorem address?_metric {s : Service} (hs : s ∈ services) (c : DestinationConfig) (metric : Bool) (report : Snapshot)
    (now : Moment) : s.address? { c with metric } report now = s.address? c report now := by
  rw [Service.address?, Service.address?, parameters_metric hs]

theorem prepare_metric {s : Service} (h : s.alwaysImperial = true) (c : DestinationConfig) (metric : Bool)
    (a : Averager Float) (o : Snapshot) (minute : Nat) : s.prepare { c with metric } a o minute = s.prepare c a o minute := by
  simp only [Service.prepare, Service.converted, h, Bool.true_or, if_true]

/-- The parameters whose names say a unit, with their quantities. -/
def unitNamed : List (String × (Snapshot → Float)) :=
  [("tempf", (·.temperature)), ("dewptf", (·.dewPoint)), ("baromin", (·.seaLevelPressure)), ("windspeedmph", (·.windSpeed)),
    ("windgustmph", (·.gustSpeed)), ("rainin", (·.rain60)), ("dailyrainin", (·.rainDay)), ("monthlyrainin", (·.rainMonth)),
    ("Yearlyrainin", (·.rainYear)), ("monthrainin", (·.rainMonth)), ("yearrainin", (·.rainYear))]

/-- Parameters without those whose names say a unit. -/
def unitless (parameters : List (String × String)) : List (String × String) :=
  parameters.filter fun p => p.1 ∉ unitNamed.map Prod.fst

/-- What an observation has that is the same in all units, as far as it is sent. -/
def unitlessPart (o : Snapshot) : Float × Float × Float × Float × Float :=
  (o.windDirection, o.gustDirection, o.humidity, o.solar, o.uv)

/-- A parameter whose name says a unit is the number of its quantity. -/
theorem parameters_unitNamed {s : Service} (hs : s ∈ services) (c : DestinationConfig) (report : Snapshot) (time : String) :
    ∀ parameter ∈ s.parameters c report time, ∀ named ∈ unitNamed, named.1 = parameter.1 →
      parameter.2 = number (named.2 report) := by
  simp only [services, List.mem_cons, List.not_mem_nil, or_false] at hs
  rcases hs with rfl | rfl | rfl <;> simp [unitNamed, weatherUnderground, weatherBug, pwsWeather]

theorem unitless_parameters {s : Service} (hs : s ∈ services) (c : DestinationConfig) {o o' : Snapshot} (time : String)
    (h : unitlessPart o = unitlessPart o') :
    unitless (s.parameters c o time) = unitless (s.parameters c o' time) := by
  simp only [unitlessPart, Prod.mk.injEq] at h
  obtain ⟨hwind, hgust, hhumidity, hsolar, huv⟩ := h
  simp only [services, List.mem_cons, List.not_mem_nil, or_false] at hs
  rcases hs with rfl | rfl | rfl <;>
    simp [weatherUnderground, weatherBug, pwsWeather, unitless, unitNamed, hwind, hgust, hhumidity, hsolar, huv]

end Upload

namespace Upload.Service

/-- Sends a report to its address, if there is one. -/
def post (s : Service) : Option Net.Url → Action Outside (Except PublishError Unit)
  | none => return .error (.http none)
  | some u => Outside.fetch s.name u

/-- Sends parameters to a service, if there are any to send. -/
def transmit (s : Service) (host : String) : Option (List (String × String)) → Action Outside (Except PublishError Unit)
  | none => return .ok ()
  | some parameters => s.post ((Net.Url.of? (base host s.host ++ s.path)).map (·.withForm parameters))

end Upload.Service

namespace Publisher

/-- A publisher and its scene after a delivery at a moment. -/
def deliver (c : DestinationConfig) (station : StationInfo) (state : Publisher × Scene Outside) (delivery : Moment × Snapshot) :
    Publisher × Scene Outside :=
  let done := (state.1.update c station delivery.2).run { state.2 with now := delivery.1 }
  (done.1.1, done.2)

/-- A publisher and its scene after deliveries. -/
def deliverAll (c : DestinationConfig) (station : StationInfo) (state : Publisher × Scene Outside)
    (deliveries : List (Moment × Snapshot)) : Publisher × Scene Outside :=
  deliveries.foldl (deliver c station) state

/-- A delivery as an offer to an averager. -/
def offerOf (delivery : Moment × Snapshot) : Offer Float := ⟨delivery.2, delivery.1.minute⟩

/-- An upload transmits the parameters that are due, and no more of it depends on what it meets outside. -/
theorem sendUpload_run {s : Upload.Service} {a after : Averager Float} {c : DestinationConfig} {o : Snapshot}
    (scene : Scene Outside) {due? : Option Snapshot} (h : s.prepare c a o scene.now.minute = (due?, after)) :
    let done := (s.transmit c.host (due?.map (s.parameters c · scene.utc.text))).run scene
    (sendUpload s a c o).run scene = ((.upload s after, .now (.ofResult done.1)), done.2) := by
  simp only [sendUpload, StateT.run_bind, StateT.run_get, pure_bind, h]
  cases due? with
  | none => rfl
  | some due =>
    simp only [Option.map_some, Upload.Service.transmit, Upload.Service.address?]
    cases Net.Url.of? (Upload.base c.host s.host ++ s.path) with
    | none => rfl
    | some u => rfl

theorem deliver_upload (s : Upload.Service) (a : Averager Float) (c : DestinationConfig) (station : StationInfo)
    (scene : Scene Outside) (delivery : Moment × Snapshot) :
    (deliver c station (.upload s a, scene) delivery).1 = .upload s (s.prepare c a delivery.2 delivery.1.minute).2 := by
  have hrun := sendUpload_run { scene with now := delivery.1 } (s := s) (a := a) (c := c) (o := delivery.2) rfl
  exact congrArg (·.1.1) hrun

theorem sendReport_publisher (a : Averager Float) (c : DestinationConfig) (station : StationInfo) (o : Snapshot)
    (scene : Scene Outside) :
    ((sendReport a c station o).run scene).1.1 =
      .report (a.offer .unitVectors (o.toImperial .keepPressure) scene.now.minute).2 := by
  simp only [sendReport, StateT.run_bind, StateT.run_get, pure_bind]
  split
  · rfl
  · rw [StateT.run_bind]
    generalize StateT.run (Outside.send _ _) _ = sent
    obtain ⟨result, after⟩ := sent
    cases result <;> rfl

theorem deliver_report (a : Averager Float) (c : DestinationConfig) (station : StationInfo) (scene : Scene Outside)
    (delivery : Moment × Snapshot) :
    (deliver c station (.report a, scene) delivery).1 =
      .report (a.offer .unitVectors (delivery.2.toImperial .keepPressure) delivery.1.minute).2 :=
  sendReport_publisher a c station delivery.2 { scene with now := delivery.1 }

section

variable {c c' : DestinationConfig} {station : StationInfo} {withAverager : Averager Float → Publisher}
  {next : Averager Float → Moment × Snapshot → Averager Float}

/-- A publisher of which deliveries only change the averager. -/
theorem deliverAll_withAverager
    (h : ∀ a scene delivery, (deliver c station (withAverager a, scene) delivery).1 = withAverager (next a delivery))
    (a : Averager Float) (scene : Scene Outside) (deliveries : List (Moment × Snapshot)) :
    (deliverAll c station (withAverager a, scene) deliveries).1 = withAverager (deliveries.foldl next a) := by
  induction deliveries generalizing a scene with
  | nil => rfl
  | cons delivery rest ih =>
    have hstep := h a scene delivery
    rw [deliverAll, List.foldl_cons, List.foldl_cons, ← deliverAll]
    generalize deliver c station (withAverager a, scene) delivery = delivered at hstep ⊢
    obtain ⟨p, after⟩ := delivered
    subst hstep
    exact ih _ after

/-- Two configurations that make no difference to one delivery make none to any number of them. -/
theorem deliverAll_congr
    (h : ∀ a scene delivery, (deliver c station (withAverager a, scene) delivery).1 = withAverager (next a delivery))
    (hsame : ∀ a scene delivery,
      deliver c' station (withAverager a, scene) delivery = deliver c station (withAverager a, scene) delivery)
    (a : Averager Float) (scene : Scene Outside) (deliveries : List (Moment × Snapshot)) :
    deliverAll c' station (withAverager a, scene) deliveries = deliverAll c station (withAverager a, scene) deliveries := by
  induction deliveries generalizing a scene with
  | nil => rfl
  | cons delivery rest ih =>
    have hstep := h a scene delivery
    rw [deliverAll, deliverAll, List.foldl_cons, List.foldl_cons, hsame, ← deliverAll, ← deliverAll]
    generalize deliver c station (withAverager a, scene) delivery = delivered at hstep ⊢
    obtain ⟨p, after⟩ := delivered
    subst hstep
    exact ih _ after

end

theorem deliverAll_upload (s : Upload.Service) (a : Averager Float) (c : DestinationConfig) (station : StationInfo)
    (scene : Scene Outside) (deliveries : List (Moment × Snapshot)) :
    (deliverAll c station (.upload s a, scene) deliveries).1 = .upload s (s.prepareAll c a (deliveries.map offerOf)) := by
  rw [deliverAll_withAverager (fun a => deliver_upload s a c station), Upload.Service.prepareAll, List.foldl_map]
  rfl

theorem deliverAll_report (c : DestinationConfig) (station : StationInfo) (scene : Scene Outside)
    (deliveries : List (Moment × Snapshot)) :
    (deliverAll c station (.report (.ofMinutes Aprs.every), scene) deliveries).1 =
      .report ⟨max Aprs.every 1, .of .unitVectors
        ((Offer.samplesSince Aprs.every (deliveries.map offerOf)).map (·.toImperial .keepPressure))⟩ := by
  rw [deliverAll_withAverager (fun a => deliver_report a c station), ← Offer.samplesSince_convert,
    ← Averager.offerAll_ofMinutes, Averager.offerAll, List.map_map, List.foldl_map]
  rfl

/-- The uploads of a service that always converts are the same whatever is configured. -/
theorem deliverAll_upload_metric {s : Upload.Service} (hs : s ∈ Upload.services) (h : s.alwaysImperial = true)
    (a : Averager Float) (c : DestinationConfig) (metric : Bool) (station : StationInfo) (scene : Scene Outside)
    (deliveries : List (Moment × Snapshot)) :
    deliverAll { c with metric } station (.upload s a, scene) deliveries =
      deliverAll c station (.upload s a, scene) deliveries := by
  refine deliverAll_congr (fun a => deliver_upload s a c station) (fun a scene delivery => ?_) ..
  simp only [deliver, update, sendUpload, Upload.prepare_metric h, Upload.address?_metric hs]

theorem deliverAll_report_metric (c : DestinationConfig) (metric : Bool) (station : StationInfo) (a : Averager Float)
    (scene : Scene Outside) (deliveries : List (Moment × Snapshot)) :
    deliverAll { c with metric } station (.report a, scene) deliveries = deliverAll c station (.report a, scene) deliveries := by
  have hsame (a : Averager Float) (scene : Scene Outside) (delivery : Moment × Snapshot) :
      deliver { c with metric } station (.report a, scene) delivery = deliver c station (.report a, scene) delivery := rfl
  exact deliverAll_congr (fun a => deliver_report a c station) hsame ..

end Publisher

namespace Upload

/-! ## Two configurations that differ in the units -/

namespace Service

/-- The units that a service sends in. -/
def units (s : Service) (metric : Bool) (o : Snapshot) : Snapshot :=
  if s.alwaysImperial || !metric then o.toImperial .all else o

end Service

theorem unitlessPart_units (s : Service) (metric : Bool) (o : Snapshot) : unitlessPart (s.units metric o) = unitlessPart o := by
  unfold Service.units
  split <;> rfl

theorem unitlessPart_average? {units : Snapshot → Snapshot} (h : ∀ o, unitlessPart (units o) = unitlessPart o)
    (observations : List Snapshot) :
    (Observation.average? .unitVectors (observations.map units)).map unitlessPart =
      (Observation.average? .unitVectors observations).map unitlessPart := by
  simp only [unitlessPart, Prod.mk.injEq, forall_and] at h
  obtain ⟨hwind, hgust, hhumidity, hsolar, huv⟩ := h
  simp only [Observation.average?, List.getLast?_map, Option.map_map, Observation.mean_map, Observation.total_map, hwind,
    hhumidity, hsolar]
  congr 1
  funext last
  simp only [unitlessPart, Function.comp_apply, hgust, huv]

/-- What has no unit is the same in all units. -/
theorem unitlessPart_report? (s : Service) (metric : Bool) (offers : List (Offer Float)) (o : Offer Float) :
    (s.report? (s.units metric) offers o).map unitlessPart = (s.report? id offers o).map unitlessPart := by
  unfold Service.report?
  cases s.every with
  | none => exact congrArg some (unitlessPart_units s metric o.observation)
  | some every =>
    simp only
    split
    · rw [unitlessPart_average? (unitlessPart_units s metric), List.map_id]
    · rfl

/-- What a service sends with its configuration set to one kind of units. -/
theorem sent?_metric {s : Service} (hs : s ∈ services) (c : DestinationConfig) (metric : Bool) (offers : List (Offer Float))
    (o : Offer Float) (time : String) :
    s.sent? { c with metric } offers o time = (s.report? (s.units metric) offers o).map (s.parameters c · time) := by
  rw [Service.sent?_eq, parameters_metric hs]
  rfl

/-- The parameters whose names say no unit are the same in all units. -/
theorem unitless_sent? {s : Service} (hs : s ∈ services) (c : DestinationConfig) (metric : Bool)
    (offers : List (Offer Float)) (o : Offer Float) (time : String) :
    (s.sent? { c with metric } offers o time).map unitless =
      (s.report? id offers o).map fun report => unitless (s.parameters c report time) := by
  rw [sent?_metric hs, Option.map_map]
  have hpart := unitlessPart_report? s metric offers o
  generalize s.report? (s.units metric) offers o = due?, s.report? id offers o = plain? at hpart ⊢
  cases due? with
  | none =>
    cases plain? with
    | none => rfl
    | some plain => cases hpart
  | some due =>
    cases plain? with
    | none => cases hpart
    | some plain => exact congrArg some (unitless_parameters hs c time (Option.some.inj hpart))

end Upload

namespace Publisher

open Upload (services unitNamed unitless)

/-- That a publisher answers a delivery by transmitting parameters to a service, and does nothing else
on any scene of a time. -/
def Transmits (p : Publisher) (c : DestinationConfig) (station : StationInfo) (now utc : Moment) (o : Snapshot)
    (s : Upload.Service) (parameters? : Option (List (String × String))) : Prop :=
  ∃ after, ∀ scene, scene.now = now → scene.utc = utc →
    let done := (s.transmit c.host parameters?).run scene
    (p.update c station o).run scene = ((.upload s after, .now (.ofResult done.1)), done.2)

/-- After deliveries, a web service is transmitted what is due of them. -/
theorem transmits_sent? (s : Upload.Service) (c : DestinationConfig) (station : StationInfo) (scene : Scene Outside)
    (deliveries : List (Moment × Snapshot)) (now utc : Moment) (o : Snapshot) :
    Transmits (deliverAll c station (ofService s, scene) deliveries).1 c station now utc o s
      (s.sent? c (deliveries.map offerOf) ⟨o, now.minute⟩ utc.text) := by
  rw [ofService, deliverAll_upload, Upload.Service.sent?]
  generalize s.prepareAll c (.ofMinutes (s.every.getD 1)) (deliveries.map offerOf) = a
  dsimp only
  rcases hprepared : s.prepare c a o now.minute with ⟨due?, after⟩
  refine ⟨after, fun scene hnow hutc => ?_⟩
  subst hnow hutc
  rw [update]
  exact sendUpload_run scene hprepared

/-- The units of what is sent under a metric configuration and under an imperial one that is otherwise the same, after
the same deliveries. The web services are sent, at the same deliveries, reports of converted observations under the
imperial one, and under the metric one reports of observations as they are, all under the same names, unless the service
always converts; the parameters whose names say no unit are the same. The Weather Underground and the weather observers'
network are sent the same under both, and what the latter is sent is converted. Over exact numbers, reports of converted
observations are the conversions of reports. -/
theorem metric_is_sent_unconverted (c : DestinationConfig) (station : StationInfo) (scene : Scene Outside)
    (deliveries : List (Moment × Snapshot)) (now utc : Moment) (o : Snapshot) :
    let offers := deliveries.map offerOf
    let offer : Offer Float := ⟨o, now.minute⟩
    let state (metric : Bool) (p : Publisher) := deliverAll { c with metric } station (p, scene) deliveries
    let observers : Publisher := .report (.ofMinutes Aprs.every)
    (∀ s ∈ services,
      let sent (metric : Bool) := s.sent? { c with metric } offers offer utc.text
      (∀ metric, Transmits (state metric (ofService s)).1 { c with metric } station now utc o s (sent metric)) ∧
        sent false = (s.report? (·.toImperial .all) offers offer).map (s.parameters c · utc.text) ∧
        sent true =
          (s.report? (if s.alwaysImperial then (·.toImperial .all) else id) offers offer).map (s.parameters c · utc.text) ∧
        (sent true).map unitless = (sent false).map unitless ∧
        ∀ report, ∀ parameter ∈ s.parameters c report utc.text, ∀ named ∈ unitNamed, named.1 = parameter.1 →
          parameter.2 = Upload.number (named.2 report)) ∧
      (∀ p ∈ [ofService Upload.weatherUnderground, observers], state true p = state false p) ∧
      (∃ a, (state false observers).1 = .report a ∧
        (a.offer .unitVectors (o.toImperial .keepPressure) now.minute).1 =
          if offer.onBoundary Aprs.every then
            Observation.average? .unitVectors ((Offer.samplesSince Aprs.every offers).map (·.toImperial .keepPressure))
          else none) ∧
      ∀ (b : Bearing Rat) (conversion : Conversion) (observations : List (Observation Rat)),
        Observation.average? b (observations.map (·.toImperial conversion)) =
          (Observation.average? b observations).map (·.toImperial conversion) := by
  intro offers offer state observers
  refine ⟨fun s hs => ⟨fun metric => transmits_sent? .., ?_, ?_, ?_, fun report => ?_⟩, ?_, ?_,
    Observation.average?_toImperial⟩
  · have hunits : s.units false = (·.toImperial .all) := by
      funext o
      simp only [Upload.Service.units, Bool.not_false, Bool.or_true, if_true]
    rw [← hunits]
    exact Upload.sent?_metric hs c false offers offer utc.text
  · have hunits : s.units true = if s.alwaysImperial then (·.toImperial .all) else id := by
      funext o
      cases h : s.alwaysImperial <;> simp [Upload.Service.units, h]
    rw [← hunits]
    exact Upload.sent?_metric hs c true offers offer utc.text
  · rw [Upload.unitless_sent? hs, Upload.unitless_sent? hs]
  · exact Upload.parameters_unitNamed hs c report utc.text
  · simp only [List.forall_mem_cons, List.not_mem_nil, false_implies, implies_true, and_true]
    have hconverts : Upload.weatherUnderground.alwaysImperial = true := rfl
    have hupload (metric : Bool) :=
      deliverAll_upload_metric List.mem_cons_self hconverts (.ofMinutes 1) c metric station scene deliveries
    have hreport (metric : Bool) := deliverAll_report_metric c metric station (.ofMinutes Aprs.every) scene deliveries
    exact ⟨(hupload true).trans (hupload false).symm, (hreport true).trans (hreport false).symm⟩
  · refine ⟨_, deliverAll_report _ station scene deliveries, ?_⟩
    have hoffer := Averager.offer_of .unitVectors Aprs.every
      ((Offer.samplesSince Aprs.every offers).map (·.toImperial .keepPressure)) (offer.convert (·.toImperial .keepPressure))
    exact (congrArg Prod.fst hoffer).trans (apply_ite Prod.fst ..)

/-- Twenty degrees Celsius. -/
def mild : Snapshot := { Observation.empty with temperature := 20.0 }

/-- A minute after midnight, in which no interval ends. -/
def beforeBoundary : Moment := (Moment.of? 2024 1 1 0 1 0).getD default

/-- Two minutes after midnight, when an interval of two minutes ends. -/
def atBoundary : Moment := (Moment.of? 2024 1 1 0 2 0).getD default

/-- The Weather Underground is sent degrees Fahrenheit under a metric configuration, and WeatherBug
under an imperial one. -/
theorem fahrenheit_where_converted :
    let value (s : Upload.Service) (metric : Bool) :=
      (s.sent? { metric } [offerOf (beforeBoundary, mild)] (offerOf (atBoundary, mild)) atBoundary.text).bind (·.lookup "tempf")
    value Upload.weatherUnderground true = some "68.00" ∧ value Upload.weatherBug false = some "68.00" := by
  have hunits := (metric_is_sent_unconverted {} {} { now := atBoundary, outside := ⟨⟨fun _ _ => .refused, false, 200⟩, [], []⟩ }
    [(beforeBoundary, mild)] atBoundary atBoundary mild).1
  obtain ⟨-, -, hmetric, -, -⟩ := hunits Upload.weatherUnderground (by simp [services])
  obtain ⟨-, himperial, -, -, -⟩ := hunits Upload.weatherBug (by simp [services])
  constructor
  · refine (congrArg (·.bind (·.lookup "tempf")) hmetric).trans ?_
    decide +kernel
  · refine (congrArg (·.bind (·.lookup "tempf")) himperial).trans ?_
    decide +kernel

/-- Under a metric configuration WeatherBug and PWSWeather are sent degrees Celsius under a name that says Fahrenheit. -/
theorem celsius_as_fahrenheit :
    let value (s : Upload.Service) (metric : Bool) :=
      (s.sent? { metric } [offerOf (beforeBoundary, mild)] (offerOf (atBoundary, mild)) atBoundary.text).bind (·.lookup "tempf")
    (value Upload.weatherBug true = some "20.00" ∧ value Upload.weatherBug false = some "68.00") ∧
      value Upload.pwsWeather true = some "20.00" ∧ value Upload.pwsWeather false = some "68.00" := by
  decide +kernel

end Publisher

end WeatherRelay
