import WeatherRelay.Proofs.Station.History

/-!
# When a packet completes a cycle

The trigger holds two bits, and a packet fires by them. What they say is a matter of the history since the last firing:
whether an air packet and whether a sky packet with readings is in it (`Noted`). So a packet fires exactly when it
brings the kind of readings that this history still lacks, and between two firings lie readings of both kinds.
-/

namespace WeatherRelay

namespace Packet

/-- Whether a packet is an air packet with at least one row. -/
def hasAir : Packet → Bool
  | .air _ rows => !rows.isEmpty
  | _ => false

/-- Whether a packet is a sky packet with at least one row. -/
def hasSky : Packet → Bool
  | .sky _ rows => !rows.isEmpty
  | _ => false

/-- Only these two are needed for a cycle. -/
theorem isNeeded_eq (p : Packet) : p.isNeeded = (p.hasAir || p.hasSky) := by
  cases p with
  | air serial rows => exact (Bool.or_false _).symm
  | _ => rfl

/-- An air packet with a row has an air reading. -/
theorem exists_air {p : Packet} (h : p.hasAir = true) : ∃ r, .air r ∈ p.readings := by
  cases p with
  | air serial rows =>
    cases rows with
    | nil => exact absurd h Bool.false_ne_true
    | cons r rest => exact ⟨r, by simp [readings]⟩
  | _ => exact absurd h Bool.false_ne_true

/-- A sky packet with a row has a sky reading. -/
theorem exists_sky {p : Packet} (h : p.hasSky = true) : ∃ r, .sky r ∈ p.readings := by
  cases p with
  | sky serial rows =>
    cases rows with
    | nil => exact absurd h Bool.false_ne_true
    | cons r rest => exact ⟨r, by simp [readings]⟩
  | _ => exact absurd h Bool.false_ne_true

/-- Readings of the sky come in sky packets only. -/
theorem hasSky_of_mem {p : Packet} {r : SkyRow} (h : .sky r ∈ p.readings) : p.hasSky = true := by
  cases p with
  | sky serial rows =>
    obtain ⟨row, hrow, -⟩ := List.mem_map.mp h
    simpa [hasSky] using List.ne_nil_of_mem hrow
  | _ => simp [readings] at h

/-- No packet is both. -/
theorem not_hasAir_and_hasSky (p : Packet) : ¬(p.hasAir = true ∧ p.hasSky = true) := by
  cases p <;> simp [hasAir, hasSky]

end Packet

namespace Trigger

/-- The trigger with the bit of a packet. -/
def noting (t : Trigger) (p : Packet) : Trigger := { air := t.air || p.hasAir, sky := t.sky || p.hasSky }

/-- Whether both bits are set. -/
def isFull (t : Trigger) : Bool := t.air && t.sky

/-- A packet that a cycle needs sets its bit, and fires when both are set. -/
theorem mark_eq (t : Trigger) {p : Packet} (h : p.isNeeded = true) :
    t.mark p.kind = if (t.noting p).isFull = true then (true, {}) else (false, t.noting p) := by
  cases p with
  | air serial rows =>
    have hair : (Packet.air serial rows).hasAir = true := h
    rw [noting, hair]
    rfl
  | sky serial rows =>
    have hsky : (Packet.sky serial rows).hasSky = true := h
    rw [noting, hsky]
    rfl
  | _ => exact absurd h Bool.false_ne_true

/-- A packet that no cycle needs sets no bit. -/
theorem noting_of_not (t : Trigger) {p : Packet} (h : ¬p.isNeeded = true) : t.noting p = t := by
  rw [p.isNeeded_eq, Bool.or_eq_true, not_or, Bool.not_eq_true, Bool.not_eq_true] at h
  rw [noting, h.1, h.2, Bool.or_false, Bool.or_false]

end Trigger

/-- The history since the last packet that completed a cycle. -/
def sinceFiring (history : List Ingested) : List Ingested := history.rtakeWhile (·.snapshot?.isNone)

/-- What has come since a firing, if none came after it, is what came after it. -/
theorem sinceFiring_eq {earlier between : List Ingested} {first : Ingested} (hfirst : first.snapshot?.isSome = true)
    (hbetween : ∀ x ∈ between, x.snapshot? = none) : sinceFiring (earlier ++ first :: between) = between := by
  have hnone : ∀ x ∈ between.reverse, x.snapshot?.isNone = true := fun x hx => by simp [hbetween x (by simpa using hx)]
  have hstop : ¬first.snapshot?.isNone = true := by simpa [← Option.isSome_iff_ne_none] using hfirst
  rw [sinceFiring, List.rtakeWhile, List.reverse_append, List.reverse_cons, List.append_assoc,
    List.takeWhile_append_of_pos hnone, List.singleton_append, List.takeWhile_cons, if_neg hstop, List.append_nil,
    List.reverse_reverse]

/-- That the bits of a trigger say which kinds of readings are in a history; it never has both, for then it fired. -/
structure Noted (since : List Ingested) (t : Trigger) : Prop where
  air : t.air = since.any (·.arrival.packet.hasAir)
  sky : t.sky = since.any (·.arrival.packet.hasSky)
  notBoth : ¬(t.air = true ∧ t.sky = true)

namespace Station

/-- The trigger looks at a packet as it was before the packet's readings. -/
theorem applied_trigger (s : Station) (p : Packet) (now : Moment) : (s.applied p now).trigger = s.trigger := by
  obtain ⟨-, htrigger⟩ := (s.rollDay now.date).1.afterReadings_frame p now
  obtain ⟨hrolled, -⟩ := s.rollDay_frame now.date
  exact htrigger.trans hrolled

/-- A packet fires when it is needed and both bits are set with its own; the bits are cleared then. -/
theorem ingested_trigger (s : Station) (a : Arrival) :
    (s.ingested a).snapshot?.isSome = (a.packet.isNeeded && (s.trigger.noting a.packet).isFull) ∧
      (s.ingested a).station.trigger =
        if (a.packet.isNeeded && (s.trigger.noting a.packet).isFull) = true then {} else s.trigger.noting a.packet := by
  obtain ⟨hsnapshot, hstation⟩ := s.ingested_eq a
  rw [hsnapshot, hstation, after_eq]
  simp only [snapshot?, applied_trigger]
  by_cases hneeded : a.packet.isNeeded = true
  · rw [s.trigger.mark_eq hneeded, hneeded]
    by_cases hfull : (s.trigger.noting a.packet).isFull = true
    · simp [hfull]
    · simp [hfull]
  · simp [hneeded, s.trigger.noting_of_not hneeded]

/-- A packet fires when it brings what the history since the last firing lacks. -/
theorem fires_iff {s : Station} {since : List Ingested} (h : Noted since s.trigger) (a : Arrival) :
    (s.ingested a).snapshot?.isSome = true ↔
      a.packet.hasAir = true ∧ (∃ x ∈ since, x.arrival.packet.hasSky = true) ∨
        a.packet.hasSky = true ∧ ∃ x ∈ since, x.arrival.packet.hasAir = true := by
  have hair : s.trigger.air = true ↔ ∃ x ∈ since, x.arrival.packet.hasAir = true := by rw [h.air, List.any_eq_true]
  have hsky : s.trigger.sky = true ↔ ∃ x ∈ since, x.arrival.packet.hasSky = true := by rw [h.sky, List.any_eq_true]
  have hbits := h.notBoth
  have hkinds := a.packet.not_hasAir_and_hasSky
  rw [(s.ingested_trigger a).1, ← hair, ← hsky, a.packet.isNeeded_eq]
  simp only [Trigger.noting, Trigger.isFull, Bool.and_eq_true, Bool.or_eq_true]
  -- not both bits are set beforehand, and the packet sets at most one
  grind

/-- The bits go on saying what came since the last firing. -/
theorem noted_ingested {s : Station} {since : List Ingested} (h : Noted since s.trigger) (a : Arrival) :
    Noted (if (s.ingested a).snapshot?.isNone = true then since ++ [s.ingested a] else [])
      (s.ingested a).station.trigger := by
  obtain ⟨hsome, htrigger⟩ := s.ingested_trigger a
  rw [htrigger, ← hsome]
  cases hsnapshot : (s.ingested a).snapshot? with
  | some o => exact ⟨rfl, rfl, by simp⟩
  | none =>
    have harrival : (s.ingested a).arrival = a := rfl
    refine ⟨?_, ?_, fun hboth => ?_⟩
    · simp [Trigger.noting, h.air, harrival]
    · simp [Trigger.noting, h.sky, harrival]
    · -- a packet that is not needed leaves the bits alone, and one that is needed would have fired
      by_cases hneeded : a.packet.isNeeded = true
      · have hfull : (s.trigger.noting a.packet).isFull = true := by simpa [Trigger.isFull] using hboth
        rw [hsnapshot, hneeded, hfull] at hsome
        exact absurd hsome Bool.false_ne_true
      · rw [s.trigger.noting_of_not hneeded] at hboth
        exact h.notBoth hboth

/-- The bits of a station's trigger say which kinds of readings came since its last firing. -/
theorem noted_history {s : Station} (hs : s.trigger = {}) (arrivals : List Arrival) :
    Noted (sinceFiring (s.history arrivals)) (s.ingestAll arrivals).trigger := by
  induction arrivals using List.reverseRecOn with
  | nil =>
    rw [show (s.ingestAll []).trigger = {} from hs]
    exact ⟨rfl, rfl, by decide⟩
  | append_singleton arrivals a ih =>
    rw [history_snoc, ingestAll_snoc, sinceFiring, List.rtakeWhile_concat]
    exact noted_ingested ih a

/-- A cycle is complete, and a snapshot of the live observation is returned, exactly when an air packet comes and a sky
packet has come since the last firing, or the other way round; packets without a row and those of other kinds do not
count. So from one firing to the next, that one included, both kinds come. -/
theorem fires_when_complete (info : StationInfo) (gauge : Rainfall.Gauge) (places : SensorPlaces) (zone : Zone)
    (before : List Arrival)
    (a : Arrival) :
    let s := opened info gauge places zone
    let o := (s.ingestAll before).ingested a
    s.history (before ++ [a]) = s.history before ++ [o] ∧
      (o.snapshot?.isSome = true ↔
        a.packet.hasAir = true ∧ (∃ x ∈ sinceFiring (s.history before), x.arrival.packet.hasSky = true) ∨
          a.packet.hasSky = true ∧ ∃ x ∈ sinceFiring (s.history before), x.arrival.packet.hasAir = true) ∧
      (∀ snapshot, o.snapshot? = some snapshot → snapshot = o.station.live) ∧
      ∀ earlier first between, s.history before = earlier ++ first :: between → first.snapshot?.isSome = true →
        (∀ x ∈ between, x.snapshot? = none) → o.snapshot?.isSome = true →
        (∃ x ∈ between ++ [o], x.arrival.packet.hasAir = true) ∧ ∃ x ∈ between ++ [o], x.arrival.packet.hasSky = true := by
  intro s o
  have hfires := fires_iff (noted_history (s := s) rfl before) a
  refine ⟨s.history_snoc before a, hfires, fun snapshot h => live_of_ingested h, ?_⟩
  intro earlier first between hhistory hfirst hbetween ho
  rw [hhistory, sinceFiring_eq hfirst hbetween] at hfires
  rcases hfires.mp ho with ⟨hair, x, hx, hsky⟩ | ⟨hsky, x, hx, hair⟩
  · exact ⟨⟨o, by simp, hair⟩, x, by simp [hx], hsky⟩
  · exact ⟨⟨x, by simp [hx], hair⟩, o, by simp, hsky⟩

/-- An air packet with a row. -/
def airArrival : Arrival := { packet := .air "AR-1" [⟨0, 1000.0, 20.0, 50.0, 0, 0.0⟩], time := .start1970 }

/-- A sky packet with a row. -/
def skyArrival : Arrival := { packet := .sky "SK-1" [⟨0, 0.0, 0.0, 0.5, 2.0, 3.0, 90.0, 0.0⟩], time := .start1970 }

/-- An air packet without one. -/
def emptyArrival : Arrival := { packet := .air "AR-1" [], time := .start1970 }

/-- After a first cycle the second takes an air packet with a row again, and the sky packet before it. -/
theorem second_cycle_takes_both_again :
    let s := opened {} {} []
    let before := [airArrival, skyArrival, skyArrival, emptyArrival]
    (s.history before).map (·.snapshot?.isSome) = [false, true, false, false] ∧
      ((s.ingestAll before).ingested airArrival).snapshot?.isSome = true := by
  intro s before
  obtain ⟨-, hfires, -⟩ := fires_when_complete {} {} [] .utc before airArrival
  have hsky : (sinceFiring (s.history before)).any (·.arrival.packet.hasSky) = true := by decide +kernel
  refine ⟨by decide +kernel, hfires.mpr (Or.inl ⟨rfl, ?_⟩)⟩
  exact List.any_eq_true.mp hsky

end Station

end WeatherRelay
