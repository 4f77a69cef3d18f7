import WeatherRelay.Proofs.Service.FanOut
import WeatherRelay.Proofs.Service.Refinement

/-!
# The life of a destination

At the beginning of a run the publishers of the destinations that take part are made ready in the order of the
configuration, and those that fail are taken out (`Readied`). Then observations are delivered, and in the end, when
nothing is in flight any more, every publisher is ended. So the calls of one publisher have a fixed shape
(`Service.destinations_live_once`).
-/

namespace WeatherRelay

/-- The place of a call. -/
def Call.place : Call → Nat
  | .init place _ => place
  | .update place _ => place
  | .cleanup place => place

/-- The call that ends a publisher, if it comes to that. -/
def Call.ending (place : Nat) (isEnded : Bool) : List Call := if isEnded then [.cleanup place] else []

/-- The calls of the publisher at a place in a whole run, whether its destination takes part from the beginning on, and
whether it comes to ending the publisher. -/
inductive Life (config : DestinationConfig) (place : Nat) : Bool → Bool → List Call → Prop
  | unknown : ServiceKind.ofTag? config.service = none → Life config place false false []
  | off (isEnded : Bool) : (ServiceKind.ofTag? config.service).isSome = true → config.enabled = false →
      Life config place false isEnded (Call.ending place isEnded)
  | failed (isEnded : Bool) : (ServiceKind.ofTag? config.service).isSome = true → config.enabled = true →
      Life config place false isEnded (.init place false :: Call.ending place isEnded)
  | served (loads : List Snapshot) (isEnded : Bool) :
      (ServiceKind.ofTag? config.service).isSome = true → config.enabled = true →
      Life config place true isEnded (.init place true :: loads.map (.update place) ++ Call.ending place isEnded)

namespace Life

variable {config : DestinationConfig} {place : Nat} {takesPart isEnded : Bool} {calls : List Call}

/-- Without a known service there are no calls. -/
theorem of_unknown (h : Life config place takesPart isEnded calls) (hkind : ServiceKind.ofTag? config.service = none) :
    calls = [] := by
  have hnot : ¬(ServiceKind.ofTag? config.service).isSome = true := by
    rw [hkind]
    decide
  cases h with
  | unknown _ => rfl
  | off _ hknown _ => exact absurd hknown hnot
  | failed _ hknown _ => exact absurd hknown hnot
  | served _ _ hknown _ => exact absurd hknown hnot

/-- A publisher that is not to take part is only ended. -/
theorem of_off (h : Life config place takesPart isEnded calls) (hknown : (ServiceKind.ofTag? config.service).isSome = true)
    (hoff : config.enabled = false) : calls = Call.ending place isEnded := by
  cases h with
  | unknown hkind =>
    rw [hkind] at hknown
    nomatch hknown
  | off _ _ _ => rfl
  | failed _ _ hon => exact absurd (hoff.symm.trans hon) (by decide)
  | served _ _ _ hon => exact absurd (hoff.symm.trans hon) (by decide)

/-- One that is to take part is made ready first, and given observations only if that went well. -/
theorem of_on (h : Life config place takesPart isEnded calls) (hknown : (ServiceKind.ofTag? config.service).isSome = true)
    (hon : config.enabled = true) :
    calls = .init place false :: Call.ending place isEnded ∨
      ∃ loads : List Snapshot, calls = .init place true :: loads.map (.update place) ++ Call.ending place isEnded := by
  cases h with
  | unknown hkind =>
    rw [hkind] at hknown
    nomatch hknown
  | off _ _ hoff => exact absurd (hoff.symm.trans hon) (by decide)
  | failed _ _ _ => exact Or.inl rfl
  | served loads _ _ _ => exact Or.inr ⟨loads, rfl⟩

end Life

/-- How destinations are made ready: each that takes part is tried, and stays if that went well. -/
inductive Readied : Nat → Registry Unit → Registry Unit → List Call → Prop
  | nil (n : Nat) : Readied n [] [] []
  | idle {n : Nat} {d : Destination Unit} {rest rest' : Registry Unit} {calls : List Call} :
      d.isEnabled = false → Readied (n + 1) rest rest' calls → Readied n (d :: rest) (d :: rest') calls
  | tried {n : Nat} {d : Destination Unit} {rest rest' : Registry Unit} {calls : List Call} (isReady : Bool) :
      d.isEnabled = true → Readied (n + 1) rest rest' calls →
        Readied n (d :: rest) ({ d with isEnabled := isReady } :: rest') (.init n isReady :: calls)

namespace Readied

variable {n : Nat} {r r' : Registry Unit} {calls : List Call}

theorem only_init (h : Readied n r r' calls) : ∀ c ∈ calls, ∃ place isReady, c = .init place isReady ∧ n ≤ place := by
  induction h with
  | nil => exact fun c hc => nomatch hc
  | idle _ _ ih =>
    intro c hc
    obtain ⟨place, isReady, rfl, hplace⟩ := ih c hc
    exact ⟨place, isReady, rfl, Nat.le_of_succ_le hplace⟩
  | tried isReady _ _ ih =>
    intro c hc
    rcases List.mem_cons.mp hc with rfl | hc
    · exact ⟨_, isReady, rfl, Nat.le_refl _⟩
    · obtain ⟨place, isReady', rfl, hplace⟩ := ih c hc
      exact ⟨place, isReady', rfl, Nat.le_of_succ_le hplace⟩

theorem length_eq (h : Readied n r r' calls) : r'.length = r.length := by
  induction h with
  | nil => rfl
  | idle _ _ ih => exact congrArg (· + 1) ih
  | tried _ _ _ ih => exact congrArg (· + 1) ih

/-- There is no call for places before the first. -/
theorem filter_before (h : Readied (n + 1) r r' calls) : calls.filter (·.place == n) = [] := by
  rw [List.filter_eq_nil_iff]
  intro c hc hplace
  obtain ⟨place, isReady, rfl, hle⟩ := h.only_init c hc
  have heq : place = n := of_decide_eq_true hplace
  omega

/-- What becomes of the destination at a place, and what calls there are for it. -/
theorem at_place (h : Readied n r r' calls) {i : Nat} {d : Destination Unit} (hd : r[i]? = some d) :
    (d.isEnabled = false ∧ r'[i]? = some d ∧ calls.filter (·.place == n + i) = []) ∨
      (d.isEnabled = true ∧ ∃ isReady, r'[i]? = some { d with isEnabled := isReady } ∧
        calls.filter (·.place == n + i) = [.init (n + i) isReady]) := by
  induction h generalizing i with
  | nil => nomatch hd
  | @idle n e rest rest' calls hidle hrest ih =>
    cases i with
    | zero =>
      obtain rfl := Option.some.inj hd
      exact Or.inl ⟨hidle, rfl, hrest.filter_before⟩
    | succ i =>
      have hi := ih hd
      rw [Nat.add_right_comm] at hi
      exact hi
  | @tried n e rest rest' calls isReady hon hrest ih =>
    cases i with
    | zero =>
      obtain rfl := Option.some.inj hd
      have hself : (Call.place (.init n isReady) == n + 0) = true := beq_self_eq_true n
      refine Or.inr ⟨hon, isReady, rfl, ?_⟩
      rw [List.filter_cons, if_pos hself]
      exact congrArg (Call.init n isReady :: ·) hrest.filter_before
    | succ i =>
      have hi := ih hd
      rw [Nat.add_right_comm] at hi
      have hother : ¬(Call.place (.init n isReady) == n + (i + 1)) = true := by simp [Call.place]
      rw [List.filter_cons, if_neg hother]
      exact hi

/-- Publishers are not ended while they are made ready or given observations. -/
theorem cleanup_notMem {P : Type} (h : Readied n r r' calls) (s : Registry P) (xs : List (Delivery Snapshot)) (place : Nat) :
    .cleanup place ∉ calls ++ s.updates xs := by
  intro hmem
  rcases List.mem_append.mp hmem with hmem | hmem
  · obtain ⟨_, _, hinit, -⟩ := h.only_init _ hmem
    nomatch hinit
  · obtain ⟨_, -, hupdate⟩ := List.mem_map.mp hmem
    nomatch hupdate

/-- There are publishers where there were. -/
theorem hasPublisher_eq (h : Readied n r r' calls) (place : Nat) : r'.hasPublisher place = r.hasPublisher place := by
  unfold Registry.hasPublisher
  cases hd : r[place]? with
  | none =>
    have hnone : r'[place]? = none := by
      rw [List.getElem?_eq_none_iff, h.length_eq]
      exact List.getElem?_eq_none_iff.mp hd
    rw [hnone]
  | some d =>
    obtain ⟨-, hr', -⟩ | ⟨-, isReady, hr', -⟩ := h.at_place hd
    · rw [hr']
    · rw [hr']
      rfl

/-- No destination is taken in. -/
theorem takesPart (h : Readied n r r' calls) {place : Nat} (htakes : r'.takesPart place = true) :
    r.takesPart place = true := by
  cases hd : r[place]? with
  | none =>
    have hnone : r'[place]? = none := by
      rw [List.getElem?_eq_none_iff, h.length_eq]
      exact List.getElem?_eq_none_iff.mp hd
    rw [Registry.takesPart, hnone] at htakes
    exact absurd htakes (by decide)
  | some d =>
    rw [Registry.takesPart, hd]
    rcases h.at_place hd with ⟨hidle, hr', -⟩ | ⟨hon, -⟩
    · rw [Registry.takesPart, hr'] at htakes
      exact htakes
    · exact hon

end Readied

section

variable {P S ε : Type}

/-! ## The beginning -/

/-- A publisher is made ready by one call, if its destination takes part. -/
theorem Destination.init_makes [ToString ε] (b : Behavior P S ε) {n : Nat} (d : Destination (Placed P))
    (hplace : ∀ p ∈ d.publisher, p.place = n) (hstaffed : d.isEnabled = true → d.publisher.isSome = true) :
    Action.Makes (d.init b.recorded) fun x t =>
      (∀ p ∈ x.1.publisher, p.place = n) ∧ x.2 = x.1.isEnabled ∧
        ((d.isEnabled = false ∧ x.1 = d ∧ t.calls = []) ∨
          (d.isEnabled = true ∧ x.1.outline = { d.outline with isEnabled := x.2 } ∧ t.calls = [.init n x.2])) := by
  obtain ⟨config, station, isEnabled, publisher⟩ := d
  cases isEnabled with
  | false => exact Action.Makes.pure ⟨hplace, rfl, Or.inl ⟨rfl, rfl, rfl⟩⟩
  | true =>
    cases publisher with
    | none => nomatch hstaffed rfl
    | some p =>
      have hn : p.place = n := hplace p rfl
      refine (b.recorded_init p config).bind ?_
      rintro (e | q) _ ⟨rfl, hq⟩
      · refine (Action.makes_note _).after fun _ => ?_
        apply Action.Makes.pure
        refine ⟨hplace, rfl, Or.inr ⟨rfl, rfl, ?_⟩⟩
        rw [hn]
        rfl
      · refine (Action.makes_note _).after fun _ => ?_
        apply Action.Makes.pure
        refine ⟨?_, rfl, Or.inr ⟨rfl, rfl, ?_⟩⟩
        · rintro q' hq'
          obtain rfl := Option.some.inj hq'
          exact (hq q rfl).trans hn
        · rw [hn]
          rfl

/-- As many destinations are ready as take part then. -/
theorem Registry.init_makes [ToString ε] (b : Behavior P S ε) {n : Nat} {r : Registry (Placed P)} (hplaced : r.IsPlaced n)
    (hstaffed : r.Staffed) :
    Action.Makes (r.init b.recorded) fun x t =>
      x.1.IsPlaced n ∧ x.2 = Registry.enabledCount x.1 ∧ Readied n r.outline (Registry.outline x.1) t.calls := by
  induction r generalizing n with
  | nil => exact Action.Makes.pure ⟨trivial, rfl, Readied.nil n⟩
  | cons d rest ih =>
    obtain ⟨hd, hrest⟩ := hplaced
    refine (d.init_makes b hd (hstaffed d List.mem_cons_self)).bind ?_
    rintro ⟨d', isReady⟩ first ⟨hd', hready, hcase⟩
    refine (ih hrest fun x hx => hstaffed x (List.mem_cons_of_mem _ hx)).bind ?_
    rintro ⟨rest', ready⟩ more ⟨hrest', hcount, hmore⟩
    apply Action.Makes.pure
    refine ⟨⟨hd', hrest'⟩, ?_, ?_⟩
    · rw [Registry.enabledCount, List.countP_cons, ← hready]
      exact congrArg (· + if isReady then 1 else 0) hcount
    · simp only [Trace.append_empty, Trace.calls_append]
      rcases hcase with ⟨hidle, rfl, hcalls⟩ | ⟨hon, houtline, hcalls⟩
      · rw [hcalls]
        exact Readied.idle hidle hmore
      · have hcons : Registry.outline (d' :: rest') = { d.outline with isEnabled := isReady } :: Registry.outline rest' :=
          congrArg (· :: Registry.outline rest') houtline
        rw [hcons, hcalls]
        exact Readied.tried isReady hon hmore

/-- What is made of a configuration: a destination takes part if its service is known and it is enabled, and it has a
publisher if its service is known. -/
theorem Destination.outline_ofConfig (create : ServiceKind → P) (station : StationInfo) (config : DestinationConfig) :
    (ofConfig create station config).1.outline =
      ⟨config, station, (ServiceKind.ofTag? config.service).isSome && config.enabled,
        (ServiceKind.ofTag? config.service).map fun _ => ()⟩ := by
  unfold ofConfig
  cases ServiceKind.ofTag? config.service with
  | none => rfl
  | some kind => rfl

namespace Registry

theorem getElem?_ofConfig (create : ServiceKind → P) (station : StationInfo) (services : List DestinationConfig)
    (place : Nat) :
    (ofConfig create station services).1[place]? =
      services[place]?.map fun config => (Destination.ofConfig create station config).1 := by
  simp only [ofConfig, List.getElem?_map, Option.map_map]
  rfl

/-- There are publishers for the services that are known. -/
theorem hasPublisher_ofConfig (create : ServiceKind → P) (station : StationInfo) {services : List DestinationConfig}
    {place : Nat}
    {config : DestinationConfig} (hconfig : services[place]? = some config) :
    (ofConfig create station services).1.hasPublisher place = (ServiceKind.ofTag? config.service).isSome := by
  rw [← hasPublisher_outline, hasPublisher, getElem?_outline, getElem?_ofConfig, hconfig]
  simp [Destination.outline_ofConfig]

theorem length_ofConfig (create : ServiceKind → P) (station : StationInfo) (services : List DestinationConfig) :
    (ofConfig create station services).1.length = services.length := by
  simp [ofConfig]

theorem staffed_ofConfig (create : ServiceKind → P) (station : StationInfo) (services : List DestinationConfig) :
    (ofConfig create station services).1.Staffed := by
  have hmade : ∀ d ∈ (ofConfig create station services).1, ∃ config, (Destination.ofConfig create station config).1 = d := by
    intro d hd
    obtain ⟨x, hx, rfl⟩ := List.mem_map.mp hd
    obtain ⟨config, -, rfl⟩ := List.mem_map.mp hx
    exact ⟨config, rfl⟩
  intro d hd henabled
  obtain ⟨config, rfl⟩ := hmade d hd
  unfold Destination.ofConfig at henabled ⊢
  cases hkind : ServiceKind.ofTag? config.service with
  | none =>
    rw [hkind] at henabled
    nomatch henabled
  | some kind => rfl

end Registry

/-! ## The end -/

/-- A destination with a publisher is ended by one call, unless that never returns. -/
theorem Destination.cleanup_makes (b : Behavior P S ε) {n : Nat} (d : Destination (Placed P))
    (hplace : ∀ p ∈ d.publisher, p.place = n) :
    Action.Makes (d.cleanup b.recorded) fun d'? t =>
      t = { calls := if d.publisher.isSome then [.cleanup n] else [] } ∧ (∀ d' ∈ d'?, d'.outline = d.outline) ∧
        (d'? = none → ∃ p scene, d.publisher = some ⟨n, p⟩ ∧ ((b.cleanup p).run scene).1 = none) := by
  obtain ⟨config, station, isEnabled, publisher⟩ := d
  cases publisher with
  | none =>
    refine Action.Makes.pure ⟨rfl, fun d' hd' => ?_, fun hnone => nomatch hnone⟩
    obtain rfl := Option.some.inj hd'
    rfl
  | some p =>
    obtain ⟨place, p⟩ := p
    obtain rfl : place = n := hplace _ rfl
    refine (b.recorded_cleanup ⟨place, p⟩).bind ?_
    rintro q? _ ⟨rfl, hstuck⟩
    apply Action.Makes.pure
    refine ⟨rfl, fun d' hd' => ?_, fun hnone => ?_⟩
    · obtain ⟨q, -, rfl⟩ := Option.map_eq_some_iff.mp hd'
      rfl
    · obtain ⟨scene, hscene⟩ := hstuck (Option.map_eq_none_iff.mp hnone)
      exact ⟨p, scene, rfl, hscene⟩

namespace Registry

theorem outline_outline (r : Registry P) : r.outline.outline = r.outline := by
  unfold outline
  rw [List.map_map]
  refine List.map_congr_left fun d _ => ?_
  simp [Destination.outline]

/-- The places of publishers, from a place on. -/
def staffedPlaces (n : Nat) (r : Registry P) : List Nat := ((r.zipIdx n).filter (·.1.publisher.isSome)).map (·.2)

theorem staffedPlaces_cons (n : Nat) (d : Destination P) (rest : Registry P) :
    staffedPlaces n (d :: rest) = (if d.publisher.isSome then [n] else []) ++ rest.staffedPlaces (n + 1) := by
  unfold staffedPlaces
  rw [List.zipIdx_cons, List.filter_cons]
  split <;> rfl

theorem staffedPlaces_outline (r : Registry P) (n : Nat) : r.outline.staffedPlaces n = r.staffedPlaces n := by
  induction r generalizing n with
  | nil => rfl
  | cons d rest ih =>
    have hcons : outline (d :: rest) = d.outline :: outline rest := rfl
    have hsome : d.outline.publisher.isSome = d.publisher.isSome := Option.isSome_map
    rw [hcons, staffedPlaces_cons, staffedPlaces_cons, ih, hsome]

theorem staffedPlaces_congr {P' : Type} {r : Registry P} {r' : Registry P'} (h : r.outline = r'.outline) (n : Nat) :
    r.staffedPlaces n = r'.staffedPlaces n := by
  rw [← r.staffedPlaces_outline, ← r'.staffedPlaces_outline, h]

theorem mem_staffedPlaces {r : Registry P} {place : Nat} : place ∈ r.staffedPlaces 0 ↔ r.hasPublisher place = true := by
  simp [staffedPlaces, hasPublisher, List.mem_zipIdx_iff_getElem?, Option.any_eq_true]

theorem nodup_staffedPlaces (r : Registry P) : (r.staffedPlaces 0).Nodup := r.nodup_filter_zipIdx _

/-- How far it has come with ending the publishers, from a place on: to all of them, or to one that never returns. -/
structure Reaches (b : Behavior P S ε) (r : Registry (Placed P)) (n : Nat) (reached : List Nat) (isDone : Bool) : Prop where
  isPrefix : reached <+: r.staffedPlaces n
  all : isDone = true → reached = r.staffedPlaces n
  stuck : isDone = false → ∃ before place p scene, reached = before ++ [place] ∧ n ≤ place ∧
    r[place - n]?.bind (·.publisher) = some ⟨place, p⟩ ∧ ((b.cleanup p).run scene).1 = none

/-- Publishers are ended one after another, each by one call, as far as they return. -/
theorem cleanup_makes (b : Behavior P S ε) {n : Nat} {r : Registry (Placed P)} (hplaced : r.IsPlaced n) :
    Action.Makes (r.cleanup b.recorded) fun x t =>
      outline x.1 = r.outline ∧ ∃ reached, t = { calls := reached.map .cleanup } ∧ r.Reaches b n reached x.2 := by
  induction r generalizing n with
  | nil => exact Action.Makes.pure ⟨rfl, [], rfl, List.prefix_refl _, fun _ => rfl, fun hnot => nomatch hnot⟩
  | cons d rest ih =>
    obtain ⟨hd, hrest⟩ := hplaced
    refine (d.cleanup_makes b hd).bind ?_
    rintro (_ | d') _ ⟨rfl, hfirst, hstuck⟩
    · -- the first publisher never returns
      apply Action.Makes.pure
      obtain ⟨p, scene, hp, hscene⟩ := hstuck rfl
      refine ⟨rfl, [n], ?_, ?_, fun hdone => (nomatch hdone), fun _ => ⟨[], n, p, scene, rfl, Nat.le_refl n, ?_, hscene⟩⟩
      · rw [hp]
        rfl
      · rw [staffedPlaces_cons, hp]
        exact List.prefix_append _ _
      · rw [Nat.sub_self]
        exact hp
    · refine (ih hrest).bind ?_
      rintro ⟨rest', isDone⟩ _ ⟨hothers, reached, rfl, hreaches⟩
      apply Action.Makes.pure
      refine ⟨?_, (if d.publisher.isSome then [n] else []) ++ reached, ?_, ?_, ?_, ?_⟩
      · exact (congrArg (· :: outline rest') (hfirst d' rfl)).trans (congrArg (d.outline :: ·) hothers)
      · rw [Trace.append_empty, List.map_append]
        ext1
        · split <;> rfl
        · rfl
        · rfl
        · rfl
      · rw [staffedPlaces_cons]
        exact (List.prefix_append_right_inj _).mpr hreaches.isPrefix
      · intro hdone
        rw [staffedPlaces_cons, hreaches.all hdone]
      · intro hnot
        obtain ⟨before, place, p, scene, rfl, hle, hp, hscene⟩ := hreaches.stuck hnot
        refine ⟨(if d.publisher.isSome then [n] else []) ++ before, place, p, scene, ?_, Nat.le_of_succ_le hle, ?_, hscene⟩
        · rw [List.append_assoc]
        · obtain ⟨k, rfl⟩ := Nat.exists_eq_add_of_le hle
          have hnext : n + 1 + k - n = k + 1 := by omega
          rw [hnext]
          rwa [Nat.add_sub_cancel_left] at hp

/-- The calls that end publishers, of one place. -/
theorem filter_cleanups {reached : List Nat} (h : reached.Nodup) (place : Nat) :
    (reached.map Call.cleanup).filter (·.place == place) = Call.ending place (place ∈ reached) := by
  rw [List.filter_map]
  have hsame : (fun p => (Call.cleanup p).place == place) = (· == place) := rfl
  rw [Function.comp_def, hsame, List.filter_beq, h.count, Call.ending]
  by_cases hmem : place ∈ reached
  · simp [hmem]
  · simp [hmem]

/-- The calls for deliveries, of one place. -/
theorem filter_updates (r : Registry P) (xs : List (Delivery Snapshot)) (place : Nat) :
    (r.updates xs).filter (·.place == place) =
      ((xs.filter fun x => r.hasPublisher x.place && x.place == place).map (·.load)).map (.update place) := by
  have hplaces : (xs.filter fun x => x.place == place && r.hasPublisher x.place) =
      xs.filter fun x => r.hasPublisher x.place && x.place == place :=
    List.filter_congr fun x _ => Bool.and_comm _ _
  unfold updates
  rw [List.filter_map, List.filter_filter, List.map_map, ← hplaces]
  refine List.map_congr_left fun x hx => ?_
  have hboth := (List.mem_filter.mp hx).2
  have hplace : x.place = place := beq_iff_eq.mp (Bool.and_eq_true_iff.mp hboth).1
  exact congrArg (Call.update · x.load) hplace

end Registry

end

/-! ## The whole run -/

/-- A publisher that is made ready, is given observations only if its destination takes part then, and may be ended. -/
theorem Readied.life {r r' : Registry Unit} {inits : List Call} (h : Readied 0 r r' inits) {config : DestinationConfig}
    {station : StationInfo} {place : Nat}
    (hd : r[place]? = some ⟨config, station, (ServiceKind.ofTag? config.service).isSome && config.enabled,
      (ServiceKind.ofTag? config.service).map fun _ => ()⟩)
    {xs : List (Delivery Snapshot)} (hin : ∀ x ∈ xs, r'.takesPart x.place = true) {isEnded : Bool}
    (hended : isEnded = true → r'.hasPublisher place = true) :
    Life config place (r'.takesPart place) isEnded
      (inits.filter (·.place == place) ++ (r'.updates xs).filter (·.place == place) ++ Call.ending place isEnded) := by
  -- deliveries go to destinations that take part, so any other life has no observations
  have hnone : r'.takesPart place = false → (xs.filter fun x => r'.hasPublisher x.place && x.place == place) = [] := by
    intro hout
    rw [List.filter_eq_nil_iff]
    intro x hx hboth
    have hplace : x.place = place := beq_iff_eq.mp (Bool.and_eq_true_iff.mp hboth).2
    exact absurd ((hin x hx).symm.trans (hplace ▸ hout)) (by decide)
  rw [Registry.filter_updates]
  rcases h.at_place hd with ⟨hidle, hr', hcalls⟩ | ⟨hon, isReady, hr', hcalls⟩
  · rw [Nat.zero_add] at hcalls
    have hout : r'.takesPart place = false := by
      rw [Registry.takesPart, hr']
      exact hidle
    rw [hnone hout, hout, hcalls]
    cases hkind : ServiceKind.ofTag? config.service with
    | none =>
      have hnot : isEnded = false := by
        rw [Registry.hasPublisher, hr', hkind] at hended
        exact Bool.eq_false_iff.mpr fun hyes => Bool.false_ne_true (hended hyes)
      rw [hnot]
      exact Life.unknown hkind
    | some kind =>
      rw [hkind] at hidle
      exact Life.off isEnded (by rw [hkind]; rfl) hidle
  · rw [Nat.zero_add] at hcalls
    have htakes : r'.takesPart place = isReady := by
      rw [Registry.takesPart, hr']
      rfl
    obtain ⟨hknown, henabled⟩ := Bool.and_eq_true_iff.mp hon
    rw [htakes, hcalls]
    cases isReady with
    | false =>
      rw [hnone htakes]
      exact Life.failed isEnded hknown henabled
    | true => exact Life.served _ isEnded hknown henabled

/-- So the calls at one place, of all that there are for the destinations of a configuration, are those of a life. -/
theorem Readied.life_ofConfig {P P' : Type} {create : ServiceKind → P} {station : StationInfo}
    {services : List DestinationConfig} {r' : Registry P'} {inits : List Call}
    (h : Readied 0 (Registry.ofConfig create station services).1.outline r'.outline inits)
    {xs : List (Delivery Snapshot)} (hin : ∀ x ∈ xs, r'.takesPart x.place = true) {reached : List Nat}
    (hreached : reached <+: r'.staffedPlaces 0) {place : Nat} {config : DestinationConfig}
    (hconfig : services[place]? = some config) :
    Life config place (r'.takesPart place) (place ∈ reached)
      ((inits ++ r'.updates xs ++ reached.map Call.cleanup).filter (·.place == place)) := by
  have hd : (Registry.ofConfig create station services).1.outline[place]? =
      some ⟨config, station, (ServiceKind.ofTag? config.service).isSome && config.enabled,
        (ServiceKind.ofTag? config.service).map fun _ => ()⟩ := by
    rw [Registry.getElem?_outline, Registry.getElem?_ofConfig, hconfig, ← Destination.outline_ofConfig create]
    rfl
  have hended : decide (place ∈ reached) = true → r'.outline.hasPublisher place = true := by
    intro hmem
    rw [Registry.hasPublisher_outline]
    exact Registry.mem_staffedPlaces.mp (hreached.subset (of_decide_eq_true hmem))
  have hlife := h.life hd (fun x hx => (r'.takesPart_outline x.place).trans (hin x hx)) hended
  rw [Registry.takesPart_outline, Registry.updates_congr r'.outline_outline] at hlife
  rw [List.filter_append, List.filter_append, Registry.filter_cleanups (r'.nodup_staffedPlaces.sublist hreached.sublist)]
  exact hlife

namespace Service

variable {P S ε : Type} [ToString ε]

/-- At the beginning of a run publishers are made ready, and as many are told to be ready as take part then. -/
theorem startWith_readied (b : Behavior P S ε) (made : Registry (Placed P) × List LogLine) (c : Config)
    (hplaced : made.1.IsPlaced 0) (hstaffed : made.1.Staffed) (scene : Scene (Recorded S ε)) :
    let begun := (startWith b.recorded made c).run scene
    begun.1.registry.IsPlaced 0 ∧
      (∃ inits, begun.2.outside.calls = scene.outside.calls ++ inits ∧
        Readied 0 made.1.outline begun.1.registry.outline inits) ∧
      ∃ before, begun.2.log = before ++
        [⟨.service, .info s!"[App] {begun.1.registry.enabledCount} of {made.1.length} destination(s) ready"⟩,
          ⟨.dispatcher, Dispatcher.startedLine begun.1.registry.targets⟩] := by
  intro begun
  let noted := scene.noting ((Rainfall.Gauge.openAt .json scene.files c.rainfallFile scene.now).2 ++ made.2)
  let readied := (made.1.init b.recorded).run noted
  obtain ⟨more, hmore, hplaced', hready, hreadied⟩ := Registry.init_makes b hplaced hstaffed noted
  have hlength : readied.1.1.length = made.1.length := by
    rw [← Registry.length_outline, hreadied.length_eq, Registry.length_outline]
  have hlog : begun.2.log = readied.2.log ++
      [⟨.service, .info s!"[App] {readied.1.2} of {readied.1.1.length} destination(s) ready"⟩] ++
      [⟨.dispatcher, Dispatcher.startedLine (Registry.targets readied.1.1)⟩] := rfl
  have hready : readied.1.2 = begun.1.registry.enabledCount := hready
  refine ⟨hplaced', ⟨more.calls, congrArg Trace.calls hmore, hreadied⟩, readied.2.log, ?_⟩
  rw [hlog, hlength, hready, List.append_assoc]
  rfl

omit [ToString ε] in
/-- In the end publishers are ended, and nothing else comes of it. -/
theorem leave_makes (b : Behavior P S ε) {s : Service (Placed P) ε} (hplaced : s.registry.IsPlaced 0) :
    Action.Makes (s.leave b.recorded) fun isDone t =>
      ∃ reached, t = { calls := reached.map .cleanup, lines := [s.dispatcher.stoppedLine] } ∧
        s.registry.Reaches b 0 reached isDone := by
  unfold leave
  refine (Action.makes_noteAs _).bind ?_
  rintro _ _ rfl
  refine (Registry.cleanup_makes b hplaced).bind ?_
  rintro ⟨_, isDone⟩ _ ⟨-, reached, rfl, hreaches⟩
  have hall : ({ lines := [s.dispatcher.stoppedLine] } : Trace ε) ++ ({ calls := reached.map .cleanup } ++ {}) =
      { calls := reached.map .cleanup, lines := [s.dispatcher.stoppedLine] } := by
    rw [Trace.append_empty]
    rfl
  cases isDone with
  | false => exact Action.Makes.pure ⟨reached, hall, hreaches⟩
  | true =>
    refine (Action.makes_note _).after fun _ => ?_
    exact Action.Makes.pure ⟨reached, hall, hreaches⟩

/-- Publishers that are not ready without a host. -/
def wary : Behavior Unit Unit String where
  init p c := return if c.host = "" then .error "no host" else .ok p
  update p _ _ _ := return (p, .now .done)
  cleanup p := return some p
  missing name := name

/-- Destinations whose service is not known, that are not enabled, and that have no host. -/
def threeServices : Config :=
  { services := [{ service := "nowhere" }, { service := "MQTT", enabled := false }, { service := "MQTT" }] }

end Service

end WeatherRelay
