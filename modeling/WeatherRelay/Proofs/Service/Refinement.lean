import WeatherRelay.Proofs.Service.Calls

/-!
# Runs that differ only in what is seen

An action refines another if it does the same on a scene of which more is seen. Where publishers refine others, so does
every run of the service (`Service.run_refines`). In this way a run of recorded publishers is a run of the publishers
themselves (`Behavior.recorded_refines`), and what destinations without publishers would answer is never asked, as long
as none of those that take part is without one (`Registry.Staffed`).
-/

namespace WeatherRelay

/-- That an action does what another one does on the scene that is seen through `g`; the result is the
same seen through `f`. -/
def Action.Refines {S S' α α' : Type} (f : α' → α) (g : S' → S) (x' : Action S' α') (x : Action S α) : Prop :=
  ∀ scene, x.run (scene.map g) = (f (x'.run scene).1, (x'.run scene).2.map g)

namespace Action

variable {S S' α α' β β' : Type} {f : α' → α} {f' : β' → β} {g : S' → S}

theorem Refines.pure {a : α} {a' : α'} (h : f a' = a) : Refines f g (Pure.pure a') (Pure.pure a) := by
  subst h
  exact fun _ => rfl

/-- One action after another; what comes last may rely on what is known of the result of the first. -/
theorem Refines.andThen {x' : Action S' α'} {x : Action S α} {k' : α' → Action S' β'} {k : α → Action S β} {Q : α' → Prop}
    (hx : Refines f g x' x) (hq : Yields x' Q) (hk : ∀ a, Q a → Refines f' g (k' a) (k (f a))) :
    Refines f' g (x' >>= k') (x >>= k) := by
  intro scene
  have hstep : (x >>= k).run (scene.map g) = (k (x.run (scene.map g)).1).run (x.run (scene.map g)).2 := rfl
  rw [hstep, hx scene]
  exact hk _ (hq scene) _

theorem Refines.bind {x' : Action S' α'} {x : Action S α} {k' : α' → Action S' β'} {k : α → Action S β}
    (hx : Refines f g x' x) (hk : ∀ a, Refines f' g (k' a) (k (f a))) : Refines f' g (x' >>= k') (x >>= k) :=
  hx.andThen (Q := fun _ => True) (fun _ => trivial) fun a _ => hk a

theorem refines_noteAs (writer : Writer) (lines : List LogLine) :
    Refines id g (Scene.noteAs writer lines) (Scene.noteAs writer lines) := fun _ => rfl

theorem refines_note (lines : List LogLine) : Refines id g (Scene.note lines) (Scene.note lines) :=
  refines_noteAs .service lines

/-- Actions for each of a list, one after another; each may rely on what is known of what is left. -/
theorem Refines.foldlM {step' : α' → β → Action S' α'} {step : α → β → Action S α} {P : List β → α' → Prop}
    (h : ∀ a y rest, P (y :: rest) a → Refines f g (step' a y) (step (f a) y) ∧ Yields (step' a y) (P rest)) {ys : List β} {a : α'}
    (ha : P ys a) : Refines f g (ys.foldlM step' a) (ys.foldlM step (f a)) := by
  induction ys generalizing a with
  | nil => exact Refines.pure rfl
  | cons y rest ih =>
    obtain ⟨hstep, hrest⟩ := h a y rest ha
    rw [List.foldlM_cons, List.foldlM_cons]
    exact hstep.andThen hrest fun a' ha' => ih ha'

theorem Refines.forM {act' : β → Action S' Unit} {act : β → Action S Unit} (h : ∀ y, Refines id g (act' y) (act y))
    (ys : List β) : Refines id g (ys.forM act') (ys.forM act) := by
  induction ys with
  | nil => exact Refines.pure rfl
  | cons y rest ih => exact (h y).bind fun _ => ih

/-- What publishers write to the log is taken alike. -/
theorem Refines.byPublisher {x' : Action S' α'} {x : Action S α} (h : Refines f g x' x) :
    Refines f g (Scene.byPublisher x') (Scene.byPublisher x) := by
  intro scene
  let told (r : α × Scene S) : α × Scene S := (r.1, { r.2 with log := scene.log ++ r.2.log.map fun e => ⟨.publisher, e.line⟩ })
  have hrun : (Scene.byPublisher x).run (scene.map g) = told (x.run (Scene.map g { scene with log := [] })) := rfl
  rw [hrun, h { scene with log := [] }]
  rfl

end Action

/-- That publishers do what others do, seen through `g`. What destinations without publishers answer is left open. -/
structure Behavior.Refines {P P' S S' ε : Type} (π : P' → P) (g : S' → S) (b' : Behavior P' S' ε) (b : Behavior P S ε) :
    Prop where
  init : ∀ p c, Action.Refines (Except.map π) g (b'.init p c) (b.init (π p) c)
  update : ∀ p c station o, Action.Refines (Prod.map π id) g (b'.update p c station o) (b.update (π p) c station o)
  finish : ∀ p c station o ending, Action.Refines id g (b'.finish p c station o ending) (b.finish (π p) c station o ending)
  cleanup : ∀ p, Action.Refines (Option.map π) g (b'.cleanup p) (b.cleanup (π p))

theorem Behavior.recorded_refines {P S ε : Type} (b : Behavior P S ε) :
    Behavior.Refines Placed.publisher Recorded.outside b.recorded b where
  init p c := by
    intro scene
    have hplace : ∀ result : Except ε P, (result.map fun q => Placed.mk p.place q).map Placed.publisher = result := by
      rintro (e | q)
      · rfl
      · rfl
    exact Prod.ext (hplace _).symm rfl
  update p c station o := fun _ => rfl
  finish p c station o ending := fun _ => rfl
  cleanup p := by
    intro scene
    have hplace : ∀ q? : Option P, (q?.map fun q => Placed.mk p.place q).map Placed.publisher = q? := by
      rintro (_ | q)
      · rfl
      · rfl
    exact Prod.ext (hplace _).symm rfl

/-- Publishers do the same whatever destinations without one answer. -/
theorem Behavior.refines_missing {P S ε : Type} (b : Behavior P S ε) (missing : String → ε) :
    Behavior.Refines id id { b with missing } b where
  init p c := by
    intro scene
    have hsame : ∀ result : Except ε P, result.map id = result := by
      rintro (e | q)
      · rfl
      · rfl
    exact Prod.ext (hsame _).symm rfl
  update p c station o := fun _ => rfl
  finish p c station o ending := fun _ => rfl
  cleanup p := fun _ => Prod.ext (congrFun Option.map_id _).symm rfl

/-! ## Destinations -/

/-- A destination with something else for a publisher. -/
def Destination.map {P P' : Type} (π : P' → P) (d : Destination P') : Destination P :=
  ⟨d.config, d.station, d.isEnabled, d.publisher.map π⟩

/-- That no destination takes part without a publisher. -/
def Registry.Staffed {P : Type} (r : Registry P) : Prop := ∀ d ∈ r, d.isEnabled = true → d.publisher.isSome = true

section

variable {P P' S S' ε : Type} {π : P' → P} {g : S' → S} {b' : Behavior P' S' ε} {b : Behavior P S ε}

namespace Registry

theorem outline_map (π : P' → P) (r : Registry P') : Registry.outline (r.map (Destination.map π)) = r.outline := by
  unfold outline
  rw [List.map_map]
  refine List.map_congr_left fun d _ => ?_
  simp [Destination.outline, Destination.map, Function.comp_def]

theorem map_id (r : Registry P) : r.map (Destination.map id) = r := by
  have hsame : ∀ d : Destination P, d.map id = d := by
    intro d
    simp [Destination.map]
  rw [funext hsame, List.map_id']

/-- Without their places the destinations are what they were. -/
theorem map_placedFrom (r : Registry P) (n : Nat) : (r.placedFrom n).map (Destination.map Placed.publisher) = r := by
  induction r generalizing n with
  | nil => rfl
  | cons d rest ih =>
    have hd : Destination.map Placed.publisher ⟨d.config, d.station, d.isEnabled, d.publisher.map fun p => Placed.mk n p⟩ = d := by
      simp [Destination.map, Function.comp_def]
    exact congr (congrArg List.cons hd) (ih (n + 1))

theorem Staffed.of_outline {r : Registry P} {r' : Registry P'} (h : r.Staffed) (hsame : r'.outline = r.outline) :
    r'.Staffed := by
  intro d' hd' henabled
  have hmem : d'.outline ∈ r.outline := hsame ▸ List.mem_map_of_mem hd'
  obtain ⟨d, hd, heq⟩ := List.mem_map.mp hmem
  have hflag : d.isEnabled = d'.isEnabled := congrArg Destination.isEnabled heq
  have hpublisher : d.outline.publisher.isSome = d'.outline.publisher.isSome := by rw [heq]
  simp only [Destination.outline, Option.isSome_map] at hpublisher
  rw [← hpublisher]
  exact h d hd (hflag.trans henabled)

/-- The targets of destinations that are staffed have publishers. -/
theorem Staffed.hasPublisher {r : Registry P} (h : r.Staffed) {t : Target} (ht : t ∈ r.targets) :
    r.hasPublisher t.place = true := by
  obtain ⟨d, hd, henabled, -⟩ := mem_targets.mp ht
  rw [Registry.hasPublisher, hd]
  exact h d (List.mem_of_getElem? hd) henabled

end Registry

theorem Destination.init_refines [ToString ε] (h : b'.Refines π g b) (d : Destination P') :
    Action.Refines (Prod.map (map π) id) g (d.init b') ((d.map π).init b) := by
  obtain ⟨config, station, isEnabled, publisher⟩ := d
  cases isEnabled with
  | false => exact Action.Refines.pure rfl
  | true =>
    cases publisher with
    | none => exact Action.Refines.pure rfl
    | some p =>
      refine (h.init p config).byPublisher.bind ?_
      rintro (e | q)
      · exact (Action.refines_note _).bind fun _ => Action.Refines.pure rfl
      · exact (Action.refines_note _).bind fun _ => Action.Refines.pure rfl

theorem Destination.update_refines (h : b'.Refines π g b) (o : Snapshot) (d : Destination P')
    (hmissing : b'.missing = b.missing ∨ d.publisher.isSome = true) :
    Action.Refines (Prod.map (map π) id) g (d.update b' o) ((d.map π).update b o) := by
  obtain ⟨config, station, isEnabled, publisher⟩ := d
  cases publisher with
  | none =>
    rcases hmissing with hsame | hnone
    · apply Action.Refines.pure
      rw [hsame]
      rfl
    · nomatch hnone
  | some p =>
    refine (h.update p config station o).byPublisher.bind ?_
    rintro ⟨q, fate⟩
    exact Action.Refines.pure rfl

theorem Destination.finish_refines (h : b'.Refines π g b) (d : Destination P') (o : Snapshot) (ending : Ending ε) :
    Action.Refines id g (d.finish b' o ending) ((d.map π).finish b o ending) := by
  obtain ⟨config, station, isEnabled, publisher⟩ := d
  cases publisher with
  | none => exact Action.Refines.pure rfl
  | some p => exact (h.finish p config station o ending).byPublisher

theorem Destination.cleanup_refines (h : b'.Refines π g b) (d : Destination P') :
    Action.Refines (Option.map (map π)) g (d.cleanup b') ((d.map π).cleanup b) := by
  obtain ⟨config, station, isEnabled, publisher⟩ := d
  cases publisher with
  | none => exact Action.Refines.pure rfl
  | some p =>
    refine (h.cleanup p).byPublisher.bind ?_
    rintro (_ | q)
    · exact Action.Refines.pure rfl
    · exact Action.Refines.pure rfl

/-- Making a publisher ready takes no destination in, and leaves none without a publisher. -/
theorem Destination.init_keeps [ToString ε] (b : Behavior P S ε) (d : Destination P) :
    Action.Yields (d.init b) fun x =>
      (x.1.isEnabled = true → d.isEnabled = true) ∧ (d.publisher.isSome = true → x.1.publisher.isSome = true) := by
  obtain ⟨config, station, isEnabled, publisher⟩ := d
  cases isEnabled with
  | false => exact Action.Yields.pure ⟨id, id⟩
  | true =>
    cases publisher with
    | none => exact Action.Yields.pure ⟨id, id⟩
    | some p =>
      refine Action.Yields.bind ?_
      rintro (e | q)
      · exact Action.Yields.bind fun _ => Action.Yields.pure ⟨fun _ => rfl, id⟩
      · exact Action.Yields.bind fun _ => Action.Yields.pure ⟨id, fun _ => rfl⟩

namespace Registry

theorem Staffed.init [ToString ε] {r : Registry P} (h : r.Staffed) (b : Behavior P S ε) :
    Action.Yields (r.init b) fun x => Staffed x.1 := by
  induction r with
  | nil => exact Action.Yields.pure h
  | cons d rest ih =>
    refine (d.init_keeps b).andThen ?_
    rintro ⟨d', isReady⟩ ⟨hflag, hpublisher⟩
    refine (ih fun x hx => h x (List.mem_cons_of_mem _ hx)).andThen ?_
    rintro ⟨rest', ready⟩ hrest
    refine Action.Yields.pure fun x hx henabled => ?_
    rcases List.mem_cons.mp hx with rfl | hx
    · exact hpublisher (h d List.mem_cons_self (hflag henabled))
    · exact hrest x hx henabled

theorem init_refines [ToString ε] (h : b'.Refines π g b) (r : Registry P') :
    Action.Refines (Prod.map (List.map (Destination.map π)) id) g (r.init b') (Registry.init b (r.map (Destination.map π))) := by
  induction r with
  | nil => exact Action.Refines.pure rfl
  | cons d rest ih =>
    refine (d.init_refines h).bind ?_
    rintro ⟨d', isReady⟩
    refine ih.bind ?_
    rintro ⟨rest', ready⟩
    exact Action.Refines.pure rfl

theorem updateAt_refines (h : b'.Refines π g b) (o : Snapshot) (place : Nat) (r : Registry P')
    (hmissing : b'.missing = b.missing ∨ r.hasPublisher place = true) :
    Action.Refines (Prod.map (List.map (Destination.map π)) id) g (r.updateAt b' o place)
      (Registry.updateAt b o place (r.map (Destination.map π))) := by
  induction r generalizing place with
  | nil =>
    unfold updateAt
    exact Action.Refines.pure rfl
  | cons d rest ih =>
    cases place with
    | zero =>
      unfold updateAt
      refine (d.update_refines h o hmissing).bind ?_
      rintro ⟨d', fate⟩
      exact Action.Refines.pure rfl
    | succ place =>
      unfold updateAt
      refine (ih place hmissing).bind ?_
      rintro ⟨rest', fate⟩
      exact Action.Refines.pure rfl

theorem finishAt_refines (h : b'.Refines π g b) (r : Registry P') (x : Delivery Snapshot) (ending : Ending ε) :
    Action.Refines id g (r.finishAt b' x ending) (Registry.finishAt b (r.map (Destination.map π)) x ending) := by
  unfold finishAt
  rw [List.getElem?_map]
  cases r[x.place]? with
  | none => exact Action.Refines.pure rfl
  | some d => exact d.finish_refines h x.load ending

theorem cleanup_refines (h : b'.Refines π g b) (r : Registry P') :
    Action.Refines (Prod.map (List.map (Destination.map π)) id) g (r.cleanup b') (Registry.cleanup b (r.map (Destination.map π))) := by
  induction r with
  | nil => exact Action.Refines.pure rfl
  | cons d rest ih =>
    refine (d.cleanup_refines h).bind ?_
    rintro (_ | d')
    · exact Action.Refines.pure rfl
    · refine ih.bind ?_
      rintro ⟨rest', isDone⟩
      exact Action.Refines.pure rfl

end Registry

/-! ## The service -/

namespace Service

/-- A service with something else for publishers. -/
def map (π : P' → P) (s : Service P' ε) : Service P ε :=
  ⟨s.intake, s.registry.map (Destination.map π), s.dispatcher, s.clock, s.tasks⟩

variable [ToString ε]

theorem conclude_refines (h : b'.Refines π g b) (s : Service P' ε) (x : Delivery Snapshot) (ending : Ending ε) :
    Action.Refines id g (s.conclude b' x ending) ((s.map π).conclude b x ending) :=
  (s.registry.finishAt_refines h x ending).bind fun _ => Action.refines_noteAs _ _

theorem settle_refines (h : b'.Refines π g b) (s : Service P' ε) (x : Delivery Snapshot) (ending : Ending ε) :
    Action.Refines (map π) g (s.settle b' x ending) ((s.map π).settle b x ending) := by
  have hdispatcher : (s.map π).dispatcher = s.dispatcher := rfl
  unfold settle
  rw [hdispatcher]
  dsimp only
  cases (s.dispatcher.settle x ending).ended with
  | none => exact Action.Refines.pure rfl
  | some y => exact (s.conclude_refines h y ending).bind fun _ => Action.Refines.pure rfl

theorem begin_refines (h : b'.Refines π g b) (s : Service P' ε) (x : Delivery Snapshot)
    (hmissing : b'.missing = b.missing ∨ s.registry.hasPublisher x.place = true) :
    Action.Refines (map π) g (s.begin b' x) ((s.map π).begin b x) := by
  unfold Service.begin
  refine (s.registry.updateAt_refines h x.load x.place hmissing).bind ?_
  rintro ⟨registry, fate⟩
  dsimp only [Prod.map, id]
  split
  · exact settle_refines h { s with registry, tasks := s.tasks ++ [⟨x, s.clock, fate⟩] } x fate.ending
  · exact Action.Refines.pure rfl

theorem dispatch_refines (h : b'.Refines π g b) (s : Service P' ε) (o : Snapshot)
    (hmissing : b'.missing = b.missing ∨ s.registry.Staffed) :
    Action.Refines (map π) g (s.dispatch b' o) ((s.map π).dispatch b o) := by
  have htargets : (s.map π).registry.targets = s.registry.targets := Registry.targets_congr (s.registry.outline_map π)
  -- the deliveries that are still to be begun go to destinations with publishers
  let asked (rest : List (Delivery Snapshot)) (s' : Service P' ε) : Prop :=
    b'.missing = b.missing ∨ ∀ x ∈ rest, s'.registry.hasPublisher x.place = true
  have hstep : ∀ s' x rest, asked (x :: rest) s' →
      Action.Refines (map π) g (Service.begin b' s' x) (Service.begin b (s'.map π) x) ∧
        Action.Yields (Service.begin b' s' x) (asked rest) := by
    intro s' x rest hasked
    refine ⟨s'.begin_refines h x (hasked.imp_right fun hall => hall x List.mem_cons_self), fun scene => ?_⟩
    refine hasked.imp_right fun hall y hy => ?_
    rw [Registry.hasPublisher_congr (begin_keeps b' s' x scene).outline]
    exact hall y (List.mem_cons_of_mem x hy)
  unfold Service.dispatch
  rw [htargets]
  refine (Action.refines_noteAs _ _).bind fun _ => ?_
  refine Action.Refines.foldlM hstep (a := { s with dispatcher := (s.dispatcher.dispatch s.registry.targets o).dispatcher }) ?_
  refine hmissing.imp_right fun hstaffed x hx => ?_
  obtain ⟨t, ht, rfl⟩ := Dispatcher.mem_started hx
  exact hstaffed.hasPublisher ht

theorem dispatchAll_refines (h : b'.Refines π g b) (s : Service P' ε) (os : List Snapshot)
    (hmissing : b'.missing = b.missing ∨ s.registry.Staffed) :
    Action.Refines (map π) g (s.dispatchAll b' os) ((s.map π).dispatchAll b os) :=
  Action.Refines.foldlM (P := fun _ s' => b'.missing = b.missing ∨ s'.registry.Staffed)
    (fun s' o _ hs => ⟨s'.dispatch_refines h o hs, fun scene =>
      hs.imp_right fun hstaffed => hstaffed.of_outline (dispatch_same b' s' o scene).outline⟩) hmissing

theorem elapse_refines (h : b'.Refines π g b) (s : Service P' ε) (milliseconds : Nat) :
    Action.Refines (map π) g (s.elapse b' milliseconds) ((s.map π).elapse b milliseconds) :=
  Action.Refines.foldlM (P := fun _ _ => True) (a := { s with clock := s.clock + milliseconds })
    (fun s' t _ _ => ⟨s'.settle_refines h t.delivery t.fate.ending, fun _ => trivial⟩) trivial

theorem step_refines (h : b'.Refines π g b) (s : Service P' ε) (e : Event)
    (hmissing : b'.missing = b.missing ∨ s.registry.Staffed) :
    Action.Refines (map π) g (s.step b' e) ((s.map π).step b e) := by
  cases e with
  | datagram bytes now utc => exact fun _ => rfl
  | turn =>
    have hturn : ∀ {P S : Type} (b : Behavior P S ε) (s : Service P ε), s.step b .turn = s.turn b := fun _ _ => rfl
    have hqueue : (s.map π).intake = s.intake := rfl
    rw [hturn, hturn, turn, turn, hqueue]
    split
    · exact Action.Refines.pure rfl
    · rename_i o queue _
      exact dispatch_refines h { s with intake := { s.intake with queue } } o hmissing
  | elapse milliseconds => exact s.elapse_refines h milliseconds

theorem steps_refines (h : b'.Refines π g b) (s : Service P' ε) (events : List Event)
    (hmissing : b'.missing = b.missing ∨ s.registry.Staffed) :
    Action.Refines (map π) g (s.steps b' events) ((s.map π).steps b events) :=
  Action.Refines.foldlM (P := fun _ s' => b'.missing = b.missing ∨ s'.registry.Staffed)
    (fun s' e _ hs => ⟨s'.step_refines h e hs, fun scene =>
      hs.imp_right fun hstaffed => hstaffed.of_outline (step_same b' s' e scene).outline⟩) hmissing

theorem close_refines (h : b'.Refines π g b) (s : Service P' ε)
    (hmissing : b'.missing = b.missing ∨ s.registry.Staffed) :
    Action.Refines (map π) g (s.close b') ((s.map π).close b) :=
  (Action.refines_note _).bind fun _ => s.dispatchAll_refines h s.intake.queue.items hmissing

theorem drain_refines (h : b'.Refines π g b) (s : Service P' ε) :
    Action.Refines (map π) g (s.drain b') ((s.map π).drain b) := by
  let plan := s.dispatcher.drain s.fateOf
  have hend : ∀ x : Delivery Snapshot × Fate ε, Action.Refines id g
      (do s.conclude b' x.1 x.2.ending; Scene.noteAs .dispatcher (x.2.ending.joined x.1).lines)
      (do (s.map π).conclude b x.1 x.2.ending; Scene.noteAs .dispatcher (x.2.ending.joined x.1).lines) :=
    fun x => (s.conclude_refines h x.1 x.2.ending).bind fun _ => Action.refines_noteAs _ _
  refine (Action.refines_noteAs .dispatcher plan.opening).bind fun _ => ?_
  refine (Action.Refines.forM hend plan.ended).bind fun _ => ?_
  refine (Action.refines_noteAs .dispatcher plan.closing).bind fun _ => ?_
  exact Action.Refines.pure rfl

omit [ToString ε] in
theorem leave_refines (h : b'.Refines π g b) (s : Service P' ε) :
    Action.Refines id g (s.leave b') ((s.map π).leave b) := by
  unfold leave
  refine (Action.refines_noteAs _ _).bind fun _ => ?_
  refine (s.registry.cleanup_refines h).bind ?_
  rintro ⟨registry, isDone⟩
  cases isDone with
  | false => exact Action.Refines.pure rfl
  | true => exact (Action.refines_note _).bind fun _ => Action.Refines.pure rfl

theorem stop_refines (h : b'.Refines π g b) (s : Service P' ε)
    (hmissing : b'.missing = b.missing ∨ s.registry.Staffed) :
    Action.Refines id g (s.stop b') ((s.map π).stop b) :=
  (s.close_refines h hmissing).bind fun closed => (closed.drain_refines h).bind fun drained => drained.leave_refines h

/-- The service at the beginning of a run, with destinations that have been made. -/
def startWith (b : Behavior P S ε) (made : Registry P × List LogLine) (c : Config) : Action S (Service P ε) := do
  let scene ← get
  let (gauge, gaugeLines) := Rainfall.Gauge.openAt .json scene.files c.rainfallFile scene.now
  Scene.note (gaugeLines ++ made.2)
  let (registry, ready) ← made.1.init b
  Scene.note [.info s!"[App] {ready} of {registry.length} destination(s) ready"]
  Scene.noteAs .dispatcher [Dispatcher.startedLine registry.targets]
  return {
    intake :=
      { station := { info := c.station, places := c.places, zone := scene.zone, gauge }
        queue := { depth := c.queueDepth } }
    registry
    dispatcher := .ofLimit c.maxInFlight c.graceSeconds }

theorem startWith_refines (h : b'.Refines π g b) (made : Registry P' × List LogLine) (c : Config) :
    Action.Refines (map π) g (startWith b' made c) (startWith b (made.1.map (Destination.map π), made.2) c) := by
  unfold startWith
  refine Action.Refines.bind (f := Scene.map g) (fun _ => rfl) fun scene => ?_
  have hfiles : (scene.map g).files = scene.files := rfl
  have hnow : (scene.map g).now = scene.now := rfl
  have hzone : (scene.map g).zone = scene.zone := rfl
  rw [hfiles, hnow, hzone]
  rcases Rainfall.Gauge.openAt .json scene.files c.rainfallFile scene.now with ⟨gauge, gaugeLines⟩
  refine (Action.refines_note _).bind fun _ => ?_
  refine (made.1.init_refines h).bind ?_
  rintro ⟨registry, ready⟩
  have hlength : (registry.map (Destination.map π)).length = registry.length := List.length_map _
  have htargets : Registry.targets (registry.map (Destination.map π)) = Registry.targets registry :=
    Registry.targets_congr (Registry.outline_map π registry)
  dsimp only [Prod.map]
  rw [hlength, htargets]
  refine (Action.refines_note _).bind fun _ => ?_
  refine (Action.refines_noteAs _ _).bind fun _ => ?_
  exact Action.Refines.pure rfl

theorem startWith_staffed (b : Behavior P S ε) {made : Registry P × List LogLine} (h : made.1.Staffed) (c : Config) :
    Action.Yields (startWith b made c) fun s => s.registry.Staffed :=
  fun scene => h.init b (scene.noting ((Rainfall.Gauge.openAt .json scene.files c.rainfallFile scene.now).2 ++ made.2))

/-- A run with destinations that have been made. -/
def runWith (b : Behavior P S ε) (made : Registry P × List LogLine) (c : Config) (events : List Event) : Action S Bool := do
  let s ← startWith b made c
  let s ← s.steps b events
  s.stop b

theorem run_eq (b : Behavior P S ε) (create : ServiceKind → P) (c : Config) (events : List Event) :
    run b create c events = runWith b (Registry.ofConfig create c.station c.services) c events := rfl

/-- Where publishers refine others, so does every run, unless destinations without one are asked. -/
theorem run_refines (h : b'.Refines π g b) (made : Registry P' × List LogLine) (c : Config) (events : List Event)
    (hmissing : b'.missing = b.missing ∨ made.1.Staffed) :
    Action.Refines id g (runWith b' made c events) (runWith b (made.1.map (Destination.map π), made.2) c events) := by
  have hstart : Action.Yields (startWith b' made c) fun s => b'.missing = b.missing ∨ s.registry.Staffed :=
    fun scene => hmissing.imp_right fun hstaffed => startWith_staffed b' hstaffed c scene
  refine (startWith_refines h made c).andThen hstart fun s hs => ?_
  refine (s.steps_refines h events hs).andThen (s.steps_same b' events) fun s' hsame => ?_
  exact s'.stop_refines h (hs.imp_right fun hstaffed => hstaffed.of_outline hsame.outline)

/-- No destination without a publisher is asked. -/
theorem run_missing (b : Behavior P S ε) (missing : String → ε) {made : Registry P × List LogLine} (h : made.1.Staffed)
    (c : Config) (events : List Event) (scene : Scene S) :
    (runWith { b with missing } made c events).run scene = (runWith b made c events).run scene := by
  have hsame := run_refines (b.refines_missing missing) made c events (Or.inr h) scene
  rw [Registry.map_id] at hsame
  exact hsame.symm

/-- A run whose publishers are recorded is the run itself but for the record. -/
theorem run_recorded (b : Behavior P S ε) (made : Registry P × List LogLine) (c : Config) (events : List Event)
    (scene : Scene S) :
    (runWith b made c events).run scene =
      let ended := (runWith b.recorded (made.1.placed, made.2) c events).run (scene.map fun outside => { outside })
      (ended.1, ended.2.map (·.outside)) := by
  have hsame := run_refines b.recorded_refines (made.1.placed, made.2) c events (Or.inl rfl)
    (scene.map fun outside => { outside })
  have hmade : made.1.placed.map (Destination.map Placed.publisher) = made.1 := made.1.map_placedFrom 0
  rw [hmade] at hsame
  exact hsame

/-- A service with the places of its publishers. -/
def placed (s : Service P ε) : Service (Placed P) ε := ⟨s.intake, s.registry.placed, s.dispatcher, s.clock, s.tasks⟩

omit [ToString ε] in
theorem map_placed (s : Service P ε) : s.placed.map Placed.publisher = s := by
  have hregistry : s.registry.placed.map (Destination.map Placed.publisher) = s.registry := s.registry.map_placedFrom 0
  rw [map, placed, hregistry]

end Service

end

end WeatherRelay
