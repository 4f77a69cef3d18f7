import WeatherRelay.Proofs.Dispatch.Steps
import WeatherRelay.Proofs.Service.Frame

/-!
# What publishers are asked, and what they answer

For whatever publishers do there are others that do the same and keep a record beside it (`Behavior.recorded`): of their
calls, each under the place of its destination, of what their updates answer, and of the ends that they are told of.
With the lines of the dispatcher the record is the trace of a run (`Scene.trace`), to which every action adds
(`Action.Makes`). A delivery that is begun is one call with one answer, and one that ends by itself is told to its
publisher and to the log.
-/

namespace WeatherRelay

/-- A call of the publisher of the destination at a place: it was made ready, or could not be; it was given an
observation; it was to be ended. -/
inductive Call where
  | init (place : Nat) (isReady : Bool)
  | update (place : Nat) (load : Snapshot)
  | cleanup (place : Nat)

/-- That the delivery of an observation has ended by itself, as the publisher of the destination at a place was told. -/
structure Finish (ε : Type) where
  place : Nat
  load : Snapshot
  ending : Ending ε

/-- A publisher with the place of its destination. -/
structure Placed (P : Type) where
  place : Nat
  publisher : P

/-- What is outside, with the calls of publishers so far, what the updates among them answered, and the ends
that they were told of. -/
structure Recorded (S ε : Type) where
  outside : S
  calls : List Call := []
  answers : List (Fate ε) := []
  finishes : List (Finish ε) := []

/-- A scene with something else outside. -/
def Scene.map {S S' : Type} (f : S → S') (s : Scene S) : Scene S' := ⟨s.now, s.utc, s.zone, s.files, f s.outside, s.log⟩

namespace Action

variable {S ε α : Type}

/-- An action that does not see the record. -/
def recorded (x : Action S α) : Action (Recorded S ε) α := fun scene =>
  let r := x.run (scene.map (·.outside))
  (r.1, r.2.map fun outside => { scene.outside with outside })

/-- Records a call. -/
def record (c : Call) : Action (Recorded S ε) Unit := Scene.change fun r => { r with calls := r.calls ++ [c] }

end Action

/-- Publishers that do the same and record what they are asked and answer. -/
def Behavior.recorded {P S ε : Type} (b : Behavior P S ε) : Behavior (Placed P) (Recorded S ε) ε where
  init p c := do
    let result ← (b.init p.publisher c).recorded
    Action.record (.init p.place result.isOk)
    return result.map fun q => ⟨p.place, q⟩
  update p c station o := do
    Action.record (.update p.place o)
    let (q, fate) ← (b.update p.publisher c station o).recorded
    Scene.change fun r => { r with answers := r.answers ++ [fate] }
    return (⟨p.place, q⟩, fate)
  finish p c station o ending := do
    Scene.change fun r => { r with finishes := r.finishes ++ [⟨p.place, o, ending⟩] }
    (b.finish p.publisher c station o ending).recorded
  cleanup p := do
    Action.record (.cleanup p.place)
    let q? ← (b.cleanup p.publisher).recorded
    return q?.map fun q => ⟨p.place, q⟩
  missing := b.missing

namespace Registry

variable {P : Type}

/-- The destinations with their places written on their publishers, from a place on. -/
def placedFrom (n : Nat) : Registry P → Registry (Placed P)
  | [] => []
  | d :: rest => ⟨d.config, d.station, d.isEnabled, d.publisher.map fun p => ⟨n, p⟩⟩ :: placedFrom (n + 1) rest

/-- The destinations with their places written on their publishers. -/
def placed (r : Registry P) : Registry (Placed P) := r.placedFrom 0

/-- That the places are right, from a place on. -/
def IsPlaced (n : Nat) : Registry (Placed P) → Prop
  | [] => True
  | d :: rest => (∀ p ∈ d.publisher, p.place = n) ∧ IsPlaced (n + 1) rest

/-- Whether there is a publisher at a place. -/
def hasPublisher (r : Registry P) (place : Nat) : Bool := r[place]?.any (·.publisher.isSome)

/-- Whether the destination at a place takes part. -/
def takesPart (r : Registry P) (place : Nat) : Bool := r[place]?.any (·.isEnabled)

theorem isPlaced_placedFrom (r : Registry P) (n : Nat) : (r.placedFrom n).IsPlaced n := by
  induction r generalizing n with
  | nil => trivial
  | cons d rest ih =>
    refine ⟨?_, ih (n + 1)⟩
    intro p hp
    obtain ⟨q, -, rfl⟩ := Option.map_eq_some_iff.mp hp
    rfl

theorem IsPlaced.place_eq {r : Registry (Placed P)} {n place : Nat} (h : r.IsPlaced n) {d : Destination (Placed P)}
    (hd : r[place]? = some d) : ∀ p ∈ d.publisher, p.place = n + place := by
  induction r generalizing n place with
  | nil => nomatch hd
  | cons first rest ih =>
    obtain ⟨hfirst, hrest⟩ := h
    cases place with
    | zero =>
      obtain rfl := Option.some.inj hd
      exact hfirst
    | succ place =>
      intro p hp
      rw [ih hrest hd p hp, Nat.add_right_comm]
      rfl

theorem outline_placedFrom (r : Registry P) (n : Nat) : (r.placedFrom n).outline = r.outline := by
  induction r generalizing n with
  | nil => rfl
  | cons d rest ih =>
    have hd : Destination.outline ⟨d.config, d.station, d.isEnabled, d.publisher.map fun p => Placed.mk n p⟩ = d.outline := by
      unfold Destination.outline
      rw [Option.map_map]
    exact congr (congrArg List.cons hd) (ih (n + 1))

theorem length_outline (r : Registry P) : r.outline.length = r.length := List.length_map _

theorem getElem?_outline (r : Registry P) (place : Nat) : r.outline[place]? = r[place]?.map Destination.outline :=
  List.getElem?_map

theorem hasPublisher_outline (r : Registry P) (place : Nat) : r.outline.hasPublisher place = r.hasPublisher place := by
  unfold hasPublisher
  rw [getElem?_outline]
  cases r[place]? with
  | none => rfl
  | some d => simp [Destination.outline]

theorem hasPublisher_congr {P' : Type} {r : Registry P} {r' : Registry P'} (h : r.outline = r'.outline) :
    r.hasPublisher = r'.hasPublisher := by
  funext place
  rw [← r.hasPublisher_outline, ← r'.hasPublisher_outline, h]

theorem takesPart_outline (r : Registry P) (place : Nat) : r.outline.takesPart place = r.takesPart place := by
  unfold takesPart
  rw [getElem?_outline]
  cases r[place]? with
  | none => rfl
  | some d => rfl

theorem takesPart_congr {P' : Type} {r : Registry P} {r' : Registry P'} (h : r.outline = r'.outline) (place : Nat) :
    r.takesPart place = r'.takesPart place := by
  rw [← r.takesPart_outline, ← r'.takesPart_outline, h]

/-- The targets take part. -/
theorem takesPart_of_mem {r : Registry P} {t : Target} (ht : t ∈ r.targets) : r.takesPart t.place = true := by
  obtain ⟨d, hd, henabled, -⟩ := mem_targets.mp ht
  rw [takesPart, hd]
  exact henabled

/-- The calls for deliveries that are begun: one for each whose destination has a publisher. -/
def updates (r : Registry P) (xs : List (Delivery Snapshot)) : List Call :=
  (xs.filter fun x => r.hasPublisher x.place).map fun x => .update x.place x.load

theorem updates_congr {P' : Type} {r : Registry P} {r' : Registry P'} (h : r.outline = r'.outline) :
    r.updates = r'.updates := by
  funext xs
  rw [updates, updates, hasPublisher_congr h]

theorem updates_append (r : Registry P) (xs ys : List (Delivery Snapshot)) :
    r.updates (xs ++ ys) = r.updates xs ++ r.updates ys := by
  rw [updates, List.filter_append, List.map_append]
  rfl

end Registry

/-! ## Traces -/

/-- What a run leaves behind: the calls of publishers, what updates answered, the ends that publishers were told of, and
the lines of the dispatcher. -/
@[ext]
structure Trace (ε : Type) where
  calls : List Call := []
  answers : List (Fate ε) := []
  finishes : List (Finish ε) := []
  lines : List LogLine := []

namespace Trace

variable {ε : Type}

instance : Append (Trace ε) :=
  ⟨fun t u => ⟨t.calls ++ u.calls, t.answers ++ u.answers, t.finishes ++ u.finishes, t.lines ++ u.lines⟩⟩

@[simp] theorem calls_append (t u : Trace ε) : (t ++ u).calls = t.calls ++ u.calls := rfl

@[simp] theorem answers_append (t u : Trace ε) : (t ++ u).answers = t.answers ++ u.answers := rfl

@[simp] theorem finishes_append (t u : Trace ε) : (t ++ u).finishes = t.finishes ++ u.finishes := rfl

@[simp] theorem lines_append (t u : Trace ε) : (t ++ u).lines = t.lines ++ u.lines := rfl

theorem append_empty (t : Trace ε) : t ++ ({} : Trace ε) = t := by
  ext1 <;> simp

theorem empty_append (t : Trace ε) : ({} : Trace ε) ++ t = t := by
  ext1 <;> simp

theorem append_assoc (t u v : Trace ε) : t ++ u ++ v = t ++ (u ++ v) := by
  ext1 <;> simp

/-- What is left behind for each of a list. -/
def ofEach {β : Type} (f : β → Trace ε) (xs : List β) : Trace ε where
  calls := xs.flatMap fun x => (f x).calls
  answers := xs.flatMap fun x => (f x).answers
  finishes := xs.flatMap fun x => (f x).finishes
  lines := xs.flatMap fun x => (f x).lines

end Trace

/-- What a run has left behind so far. -/
def Scene.trace {S ε : Type} (s : Scene (Recorded S ε)) : Trace ε :=
  ⟨s.outside.calls, s.outside.answers, s.outside.finishes, s.linesOf .dispatcher⟩

/-- That an action adds to the trace, and what comes of it. -/
def Action.Makes {S ε α : Type} (x : Action (Recorded S ε) α) (Q : α → Trace ε → Prop) : Prop :=
  ∀ scene, ∃ more, (x.run scene).2.trace = scene.trace ++ more ∧ Q (x.run scene).1 more

namespace Action

variable {S ε α β : Type} {Q : α → Trace ε → Prop}

theorem Makes.pure {a : α} (h : Q a {}) : Makes (S := S) (Pure.pure a) Q := fun scene => ⟨{}, scene.trace.append_empty.symm, h⟩

theorem Makes.mono {x : Action (Recorded S ε) α} {Q' : α → Trace ε → Prop} (hx : Makes x Q)
    (h : ∀ a t, Q a t → Q' a t) : Makes x Q' := by
  intro scene
  obtain ⟨more, hmore, hq⟩ := hx scene
  exact ⟨more, hmore, h _ _ hq⟩

/-- What two actions add one after the other. -/
theorem Makes.bind {x : Action (Recorded S ε) α} {f : α → Action (Recorded S ε) β} {R : β → Trace ε → Prop} (hx : Makes x Q)
    (hf : ∀ a t, Q a t → Makes (f a) fun b more => R b (t ++ more)) : Makes (x >>= f) R := by
  intro scene
  obtain ⟨t, ht, hq⟩ := hx scene
  obtain ⟨more, hmore, hr⟩ := hf _ t hq (x.run scene).2
  refine ⟨t ++ more, ?_, hr⟩
  rw [← Trace.append_assoc, ← ht]
  exact hmore

theorem makes_note (lines : List LogLine) : Makes (S := S) (Scene.note lines) fun _ t => t = ({} : Trace ε) := by
  intro scene
  refine ⟨{}, ?_, rfl⟩
  rw [Trace.append_empty]
  exact congrArg (Trace.mk _ _ _) ((scene.linesOf_notingAs .dispatcher .service lines).trans (List.append_nil _))

theorem makes_noteAs (lines : List LogLine) :
    Makes (S := S) (Scene.noteAs .dispatcher lines) fun _ t => t = ({ lines } : Trace ε) := by
  intro scene
  refine ⟨{ lines }, ?_, rfl⟩
  have hlines := scene.linesOf_notingAs .dispatcher .dispatcher lines
  ext1
  · exact (List.append_nil _).symm
  · exact (List.append_nil _).symm
  · exact (List.append_nil _).symm
  · exact hlines

/-- What comes first adds nothing. -/
theorem Makes.after {x : Action (Recorded S ε) α} {f : α → Action (Recorded S ε) β} {R : β → Trace ε → Prop}
    (hx : Makes x fun _ t => t = {}) (hf : ∀ a, Makes (f a) R) : Makes (x >>= f) R := by
  refine hx.bind ?_
  rintro a _ rfl scene
  obtain ⟨more, hmore, hr⟩ := hf a scene
  exact ⟨more, hmore, (Trace.empty_append more).symm ▸ hr⟩

/-- What actions for each of a list add. -/
theorem Makes.forM {f : β → Action (Recorded S ε) Unit} {g : β → Trace ε} (h : ∀ y, Makes (f y) fun _ t => t = g y)
    (ys : List β) : Makes (ys.forM f) fun _ t => t = .ofEach g ys := by
  induction ys with
  | nil => exact Makes.pure rfl
  | cons y rest ih =>
    refine (h y).bind ?_
    rintro _ _ rfl
    refine ih.mono ?_
    rintro _ _ rfl
    rfl

/-- What a publisher adds is what it writes to the record. -/
theorem makes_byPublisher {x : Action (Recorded S ε) α} {Q : α → Trace ε → Prop}
    (h : ∀ scene, ∃ calls answers finishes,
      (x.run scene).2.outside.calls = scene.outside.calls ++ calls ∧
        (x.run scene).2.outside.answers = scene.outside.answers ++ answers ∧
        (x.run scene).2.outside.finishes = scene.outside.finishes ++ finishes ∧
        Q (x.run scene).1 { calls, answers, finishes }) : Makes (Scene.byPublisher x) Q := by
  intro scene
  obtain ⟨calls, answers, finishes, hcalls, hanswers, hfinishes, hq⟩ := h { scene with log := [] }
  refine ⟨{ calls, answers, finishes }, ?_, hq⟩
  ext1
  · exact hcalls
  · exact hanswers
  · exact hfinishes
  · exact (Scene.linesOf_byPublisher x scene).trans (List.append_nil _).symm

end Action

section

variable {P S ε : Type}

namespace Behavior

/-! ## One publisher -/

theorem recorded_init (b : Behavior P S ε) (p : Placed P) (c : DestinationConfig) :
    Action.Makes (Scene.byPublisher (b.recorded.init p c)) fun result t =>
      t = { calls := [.init p.place result.isOk] } ∧ ∀ q ∈ result.toOption, q.place = p.place := by
  refine Action.makes_byPublisher fun scene => ?_
  let result := ((b.init p.publisher c).run (scene.map (·.outside))).1
  have hresult : ((b.recorded.init p c).run scene).1 = result.map fun q => ⟨p.place, q⟩ := rfl
  refine ⟨[.init p.place result.isOk], [], [], rfl, (List.append_nil _).symm, (List.append_nil _).symm, ?_⟩
  rw [hresult]
  cases result with
  | error e => exact ⟨rfl, fun q hq => nomatch hq⟩
  | ok q =>
    refine ⟨rfl, fun q' hq' => ?_⟩
    obtain rfl := Option.some.inj hq'
    rfl

theorem recorded_update (b : Behavior P S ε) (p : Placed P) (c : DestinationConfig) (station : StationInfo) (o : Snapshot) :
    Action.Makes (Scene.byPublisher (b.recorded.update p c station o)) fun x t =>
      t = { calls := [.update p.place o], answers := [x.2] } ∧ x.1.place = p.place :=
  Action.makes_byPublisher fun _ => ⟨_, _, _, rfl, rfl, (List.append_nil _).symm, rfl, rfl⟩

theorem recorded_finish (b : Behavior P S ε) (p : Placed P) (c : DestinationConfig) (station : StationInfo) (o : Snapshot)
    (ending : Ending ε) :
    Action.Makes (Scene.byPublisher (b.recorded.finish p c station o ending)) fun _ t =>
      t = { finishes := [⟨p.place, o, ending⟩] } :=
  Action.makes_byPublisher fun _ => ⟨_, _, _, (List.append_nil _).symm, (List.append_nil _).symm, rfl, rfl⟩

/-- A publisher that is to be ended comes to its end or never returns. -/
theorem recorded_cleanup (b : Behavior P S ε) (p : Placed P) :
    Action.Makes (Scene.byPublisher (b.recorded.cleanup p)) fun q? t =>
      t = { calls := [.cleanup p.place] } ∧
        (q? = none → ∃ scene, ((b.cleanup p.publisher).run scene).1 = none) := by
  refine Action.makes_byPublisher fun scene => ?_
  let met := (((Action.record (.cleanup p.place)).run scene).2).map (·.outside)
  have hresult : ((b.recorded.cleanup p).run scene).1 = (((b.cleanup p.publisher).run met).1).map fun q => ⟨p.place, q⟩ := rfl
  refine ⟨[.cleanup p.place], [], [], rfl, (List.append_nil _).symm, (List.append_nil _).symm, rfl, fun hnone => ⟨met, ?_⟩⟩
  rw [hresult] at hnone
  exact Option.map_eq_none_iff.mp hnone

end Behavior

/-! ## One delivery -/

/-- A delivery that is begun to a destination with a publisher is one call with one answer. -/
theorem Destination.update_makes (b : Behavior P S ε) (o : Snapshot) {n : Nat} (d : Destination (Placed P))
    (hplace : ∀ p ∈ d.publisher, p.place = n) :
    Action.Makes (d.update b.recorded o) fun x t =>
      t = (if d.publisher.isSome then { calls := [.update n o], answers := [x.2] } else {}) ∧
        ∀ p ∈ x.1.publisher, p.place = n := by
  unfold Destination.update
  split
  · rename_i hnone
    apply Action.Makes.pure
    rw [hnone]
    exact ⟨rfl, fun p hp => nomatch hp⟩
  · rename_i p hp
    have hn : p.place = n := hplace p hp
    refine (b.recorded_update p d.config d.station o).bind ?_
    rintro ⟨q, fate⟩ _ ⟨rfl, hq⟩
    apply Action.Makes.pure
    rw [hp, hn, Trace.append_empty]
    refine ⟨rfl, fun q' hq' => ?_⟩
    obtain rfl := Option.some.inj hq'
    exact hq.trans hn

/-- So it is at the place of the destination. -/
theorem Registry.updateAt_makes (b : Behavior P S ε) (o : Snapshot) (place : Nat) {n : Nat} {r : Registry (Placed P)}
    (h : r.IsPlaced n) :
    Action.Makes (r.updateAt b.recorded o place) fun x t =>
      t = (if r.hasPublisher place then { calls := [.update (n + place) o], answers := [x.2] } else {}) ∧ x.1.IsPlaced n := by
  induction r generalizing place n with
  | nil =>
    unfold Registry.updateAt
    apply Action.Makes.pure
    exact ⟨rfl, trivial⟩
  | cons d rest ih =>
    obtain ⟨hd, hrest⟩ := h
    cases place with
    | zero =>
      unfold Registry.updateAt
      refine (d.update_makes b o hd).bind ?_
      rintro ⟨d', fate⟩ _ ⟨rfl, hd'⟩
      apply Action.Makes.pure
      exact ⟨Trace.append_empty _, hd', hrest⟩
    | succ place =>
      unfold Registry.updateAt
      refine (ih place hrest).bind ?_
      rintro ⟨rest', fate⟩ _ ⟨rfl, hrest'⟩
      apply Action.Makes.pure
      refine ⟨?_, hd, hrest'⟩
      rw [Trace.append_empty, Nat.add_right_comm n 1 place]
      rfl

/-- The end of a delivery is told to the publisher of its destination. -/
theorem Registry.finishAt_makes (b : Behavior P S ε) {r : Registry (Placed P)} (h : r.IsPlaced 0) (x : Delivery Snapshot)
    (ending : Ending ε) :
    Action.Makes (r.finishAt b.recorded x ending) fun _ t =>
      t = if r.hasPublisher x.place then { finishes := [⟨x.place, x.load, ending⟩] } else {} := by
  unfold Registry.finishAt
  split
  · rename_i hnone
    apply Action.Makes.pure
    rw [hasPublisher, hnone]
    rfl
  · rename_i d hd
    have hplace := h.place_eq hd
    rw [hasPublisher, hd]
    obtain ⟨config, station, isEnabled, publisher⟩ := d
    cases publisher with
    | none => exact Action.Makes.pure rfl
    | some p =>
      have hp : p.place = x.place := (hplace p rfl).trans (Nat.zero_add x.place)
      have hfinish := b.recorded_finish p config station x.load ending
      rw [hp] at hfinish
      exact hfinish

namespace Service

variable [ToString ε]

/-- What the end of a delivery leaves behind. -/
def ended (r : Registry P) (x : Delivery Snapshot) (ending : Ending ε) : Trace ε where
  finishes := if r.hasPublisher x.place then [⟨x.place, x.load, ending⟩] else []
  lines := ending.lines x

theorem conclude_makes (b : Behavior P S ε) {s : Service (Placed P) ε} (h : s.registry.IsPlaced 0) (x : Delivery Snapshot)
    (ending : Ending ε) : Action.Makes (s.conclude b.recorded x ending) fun _ t => t = ended s.registry x ending := by
  unfold conclude
  refine (Registry.finishAt_makes b h x ending).bind ?_
  rintro _ _ rfl
  refine (Action.makes_noteAs _).mono ?_
  rintro _ _ rfl
  unfold ended
  split <;> rfl

/-- The end of a delivery that runs is told once. -/
theorem settle_makes (b : Behavior P S ε) {s : Service (Placed P) ε} (h : s.registry.IsPlaced 0) (x : Delivery Snapshot)
    (ending : Ending ε) :
    Action.Makes (s.settle b.recorded x ending) fun _ t =>
      t = ((s.dispatcher.settle x ending).ended.map fun y => ended s.registry y ending).getD {} := by
  unfold settle
  dsimp only
  cases (s.dispatcher.settle x ending).ended with
  | none => exact Action.Makes.pure rfl
  | some y =>
    refine (conclude_makes b h y ending).bind ?_
    rintro _ _ rfl
    exact Action.Makes.pure (Trace.append_empty _)

/-- The wait at the end tells of what ends by itself. -/
theorem drain_makes (b : Behavior P S ε) {s : Service (Placed P) ε} (h : s.registry.IsPlaced 0) :
    Action.Makes (s.drain b.recorded) fun _ t =>
      let plan := s.dispatcher.drain s.fateOf
      t = { finishes := plan.ended.flatMap fun x => (ended s.registry x.1 x.2.ending).finishes, lines := plan.log } := by
  let plan := s.dispatcher.drain s.fateOf
  let left (x : Delivery Snapshot × Fate ε) : Trace ε :=
    ended s.registry x.1 x.2.ending ++ { lines := (x.2.ending.joined x.1).lines }
  have hend : ∀ x : Delivery Snapshot × Fate ε,
      Action.Makes (S := S)
        (do s.conclude b.recorded x.1 x.2.ending; Scene.noteAs .dispatcher (x.2.ending.joined x.1).lines) fun _ t => t = left x := by
    intro x
    refine (conclude_makes b h x.1 x.2.ending).bind ?_
    rintro _ _ rfl
    refine (Action.makes_noteAs _).mono ?_
    rintro _ _ rfl
    rfl
  unfold drain
  refine (Action.makes_noteAs plan.opening).bind ?_
  rintro _ _ rfl
  refine (Action.Makes.forM hend plan.ended).bind ?_
  rintro _ _ rfl
  refine (Action.makes_noteAs plan.closing).bind ?_
  rintro _ _ rfl
  apply Action.Makes.pure
  ext1
  · simp [Trace.ofEach, left, ended]
  · simp [Trace.ofEach, left, ended]
  · simp [Trace.ofEach, left, ended, plan]
  · simp [Trace.ofEach, left, ended, Drained.log, plan]

theorem ended_congr {P' : Type} {r : Registry P} {r' : Registry P'} (h : r.outline = r'.outline) :
    ended (ε := ε) r = ended r' := by
  funext x ending
  rw [ended, ended, Registry.hasPublisher_congr h]

end Service

end

end WeatherRelay
