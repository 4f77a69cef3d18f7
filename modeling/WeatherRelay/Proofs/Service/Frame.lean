import WeatherRelay.Service

/-!
# What deliveries leave alone

Publishers may do what they like on the scene. But the intake of the service, its station and its queue, is out of their
reach, and so are the count of cycles and the clock: a cycle raises the one, the passing of time the other, and neither
deliveries nor their ends change them (`Service.Keeps`). Of the destinations they change what their publishers keep, and
nothing else (`Registry.outline`).
-/

namespace WeatherRelay

/-- That the result of an action has a property, whatever the action meets. -/
def Action.Yields {S α : Type} (x : Action S α) (P : α → Prop) : Prop := ∀ scene, P (x.run scene).1

namespace Action

variable {S α β : Type} {P : α → Prop}

theorem Yields.pure {a : α} (h : P a) : Yields (S := S) (Pure.pure a) P := fun _ => h

/-- What comes last makes the result. -/
theorem Yields.bind {x : Action S β} {f : β → Action S α} (h : ∀ a, Yields (f a) P) : Yields (x >>= f) P :=
  fun scene => h (x.run scene).1 (x.run scene).2

/-- What comes last may rely on what was there before. -/
theorem Yields.andThen {x : Action S β} {f : β → Action S α} {Q : β → Prop} (hx : Yields x Q)
    (h : ∀ a, Q a → Yields (f a) P) : Yields (x >>= f) P :=
  fun scene => h (x.run scene).1 (hx scene) (x.run scene).2

/-- Actions for each of a list keep what each of them keeps; it may be about the list that is left. -/
theorem foldlM_induct {f : α → β → Action S α} {I : List β → α → Scene S → Prop}
    (h : ∀ a y rest scene, I (y :: rest) a scene → I rest ((f a y).run scene).1 ((f a y).run scene).2) {ys : List β} {a : α}
    {scene : Scene S} (ha : I ys a scene) : I [] ((ys.foldlM f a).run scene).1 ((ys.foldlM f a).run scene).2 := by
  induction ys generalizing a scene with
  | nil => exact ha
  | cons y rest ih =>
    rw [List.foldlM_cons]
    exact ih (h a y rest scene ha)

theorem Yields.foldlM {f : α → β → Action S α} {P : List β → α → Prop}
    (h : ∀ a y rest, P (y :: rest) a → Yields (f a y) (P rest)) {ys : List β} {a : α} (ha : P ys a) :
    Yields (ys.foldlM f a) (P []) :=
  fun _ => foldlM_induct (I := fun rest a _ => P rest a) (fun a y rest scene ha => h a y rest ha scene) ha

end Action

namespace Dispatcher

variable {α ε : Type}

theorem start_frame (d : Dispatcher α) (load : α) (targets : List Target) :
    (d.start load targets).dispatcher.cycle = d.cycle ∧ (d.start load targets).dispatcher.limit = d.limit ∧
      (d.start load targets).dispatcher.grace = d.grace := by
  induction targets generalizing d with
  | nil => exact ⟨rfl, rfl, rfl⟩
  | cons t rest ih =>
    unfold start
    split
    · exact ih _
    · exact ih _

theorem dispatch_frame (d : Dispatcher α) (targets : List Target) (load : α) :
    (d.dispatch targets load).dispatcher.cycle = d.cycle + 1 ∧ (d.dispatch targets load).dispatcher.limit = d.limit ∧
      (d.dispatch targets load).dispatcher.grace = d.grace :=
  start_frame _ _ _

theorem finish_frame (d : Dispatcher α) (x : Delivery α) (joined : Joined) :
    (d.finish x joined).cycle = d.cycle ∧ (d.finish x joined).limit = d.limit ∧ (d.finish x joined).grace = d.grace := by
  unfold finish
  split
  · exact ⟨rfl, rfl, rfl⟩
  · exact ⟨rfl, rfl, rfl⟩

theorem settle_frame [ToString ε] (d : Dispatcher α) (x : Delivery α) (ending : Ending ε) :
    (d.settle x ending).dispatcher.cycle = d.cycle ∧ (d.settle x ending).dispatcher.limit = d.limit ∧
      (d.settle x ending).dispatcher.grace = d.grace := by
  unfold settle
  split
  · exact ⟨rfl, rfl, rfl⟩
  · exact d.finish_frame _ _

end Dispatcher

/-- A destination without what its publisher keeps. -/
def Destination.outline {P : Type} (d : Destination P) : Destination Unit :=
  ⟨d.config, d.station, d.isEnabled, d.publisher.map fun _ => ()⟩

namespace Registry

variable {P S ε : Type}

/-- The destinations without what their publishers keep. -/
def outline (r : Registry P) : Registry Unit := r.map Destination.outline

theorem targetsFrom_outline (r : Registry P) (n : Nat) : r.outline.targetsFrom n = r.targetsFrom n := by
  induction r generalizing n with
  | nil => rfl
  | cons d rest ih =>
    have hrest := ih (n + 1)
    simp only [outline] at hrest
    simp only [outline, List.map_cons, targetsFrom, hrest]
    rfl

/-- Destinations with one outline have the same targets. -/
theorem targets_congr {P' : Type} {r : Registry P} {r' : Registry P'} (h : r.outline = r'.outline) :
    r.targets = r'.targets := by
  rw [targets, targets, ← r.targetsFrom_outline, ← r'.targetsFrom_outline, h]

/-- A delivery changes nothing but what a publisher keeps. -/
theorem updateAt_outline (b : Behavior P S ε) (o : Snapshot) (place : Nat) (r : Registry P) :
    Action.Yields (updateAt b o place r) fun x => x.1.outline = r.outline := by
  induction r generalizing place with
  | nil =>
    unfold updateAt
    exact Action.Yields.pure rfl
  | cons d rest ih =>
    cases place with
    | zero =>
      have hd : Action.Yields (d.update b o) fun x => x.1.outline = d.outline := by
        unfold Destination.update
        split
        · exact Action.Yields.pure rfl
        · rename_i p hp
          apply Action.Yields.bind
          rintro ⟨q, fate⟩
          apply Action.Yields.pure
          simp [Destination.outline, hp]
      unfold updateAt
      refine hd.andThen ?_
      rintro ⟨d', fate⟩ hsame
      apply Action.Yields.pure
      exact congrArg (· :: outline rest) hsame
    | succ place =>
      unfold updateAt
      refine (ih place).andThen ?_
      rintro ⟨rest', fate⟩ hsame
      apply Action.Yields.pure
      exact congrArg (d.outline :: ·) hsame

end Registry

namespace Service

variable {P S ε : Type}

/-- That a service has kept what deliveries leave alone. -/
structure Keeps (s s' : Service P ε) : Prop where
  intake : s'.intake = s.intake
  outline : s'.registry.outline = s.registry.outline
  limit : s'.dispatcher.limit = s.dispatcher.limit
  grace : s'.dispatcher.grace = s.dispatcher.grace
  cycle : s'.dispatcher.cycle = s.dispatcher.cycle
  clock : s'.clock = s.clock

theorem Keeps.refl (s : Service P ε) : Keeps s s := ⟨rfl, rfl, rfl, rfl, rfl, rfl⟩

theorem Keeps.trans {s s' s'' : Service P ε} (h : Keeps s s') (h' : Keeps s' s'') : Keeps s s'' where
  intake := h'.intake.trans h.intake
  outline := h'.outline.trans h.outline
  limit := h'.limit.trans h.limit
  grace := h'.grace.trans h.grace
  cycle := h'.cycle.trans h.cycle
  clock := h'.clock.trans h.clock

variable [ToString ε]

/-- What comes of a service when a delivery ends, whatever is done then. -/
theorem settle_eq (b : Behavior P S ε) (s : Service P ε) (x : Delivery Snapshot) (ending : Ending ε) :
    Action.Yields (s.settle b x ending) fun s' => s' = { s with
      dispatcher := (s.dispatcher.settle x ending).dispatcher, tasks := s.tasks.filter fun t => !t.delivery.isSame x } :=
  fun _ => rfl

/-- The end of a delivery changes nothing but which deliveries are under way. -/
theorem settle_keeps (b : Behavior P S ε) (s : Service P ε) (x : Delivery Snapshot) (ending : Ending ε) :
    Action.Yields (s.settle b x ending) (Keeps s) := by
  intro scene
  obtain ⟨hcycle, hlimit, hgrace⟩ := s.dispatcher.settle_frame x ending
  rw [s.settle_eq b x ending scene]
  exact ⟨rfl, rfl, hlimit, hgrace, hcycle, rfl⟩

/-- Nor does its beginning, but for what a publisher keeps. -/
theorem begin_keeps (b : Behavior P S ε) (s : Service P ε) (x : Delivery Snapshot) :
    Action.Yields (s.begin b x) (Keeps s) := by
  unfold Service.begin
  refine (s.registry.updateAt_outline b x.load x.place).andThen ?_
  rintro ⟨registry, fate⟩ houtline
  have hbegun : Keeps s { s with registry, tasks := s.tasks ++ [⟨x, s.clock, fate⟩] } := ⟨rfl, houtline, rfl, rfl, rfl, rfl⟩
  dsimp only
  split
  · exact fun scene => hbegun.trans (settle_keeps b _ x fate.ending scene)
  · exact Action.Yields.pure hbegun

/-- A cycle is counted, and changes nothing else but deliveries and what publishers keep. -/
theorem dispatch_keeps (b : Behavior P S ε) (s : Service P ε) (o : Snapshot) :
    Action.Yields (s.dispatch b o) (Keeps { s with dispatcher.cycle := s.dispatcher.cycle + 1 }) := by
  obtain ⟨hcycle, hlimit, hgrace⟩ := s.dispatcher.dispatch_frame s.registry.targets o
  unfold dispatch
  refine Action.Yields.bind fun _ => ?_
  refine Action.Yields.foldlM (P := fun _ => Keeps _) (fun s' x _ h scene => h.trans (begin_keeps b s' x scene)) ?_
  exact ⟨rfl, rfl, hlimit, hgrace, hcycle, rfl⟩

/-- The passing of time moves the clock, and changes nothing else but which deliveries are under way. -/
theorem elapse_keeps (b : Behavior P S ε) (s : Service P ε) (milliseconds : Nat) :
    Action.Yields (s.elapse b milliseconds) (Keeps { s with clock := s.clock + milliseconds }) := by
  unfold elapse
  refine Action.Yields.foldlM (P := fun _ => Keeps _) (fun s' t _ h scene => h.trans (settle_keeps b s' _ _ scene)) ?_
  exact Keeps.refl _

/-- What is never changed while a service runs: its destinations but for what their publishers keep, and its limits. -/
structure Same (s s' : Service P ε) : Prop where
  outline : s'.registry.outline = s.registry.outline
  limit : s'.dispatcher.limit = s.dispatcher.limit
  grace : s'.dispatcher.grace = s.dispatcher.grace

omit [ToString ε] in
theorem Same.refl (s : Service P ε) : Same s s := ⟨rfl, rfl, rfl⟩

omit [ToString ε] in
theorem Same.trans {s s' s'' : Service P ε} (h : Same s s') (h' : Same s' s'') : Same s s'' :=
  ⟨h'.outline.trans h.outline, h'.limit.trans h.limit, h'.grace.trans h.grace⟩

theorem dispatch_same (b : Behavior P S ε) (s : Service P ε) (o : Snapshot) : Action.Yields (s.dispatch b o) (Same s) := by
  intro scene
  have hkeeps := s.dispatch_keeps b o scene
  exact ⟨hkeeps.outline, hkeeps.limit, hkeeps.grace⟩

theorem dispatchAll_same (b : Behavior P S ε) (s : Service P ε) (os : List Snapshot) :
    Action.Yields (s.dispatchAll b os) (Same s) :=
  Action.Yields.foldlM (P := fun _ => Same s) (fun s' o _ h scene => h.trans (dispatch_same b s' o scene)) (Same.refl s)

theorem step_same (b : Behavior P S ε) (s : Service P ε) (e : Event) : Action.Yields (s.step b e) (Same s) := by
  cases e with
  | datagram bytes now utc =>
    intro scene
    exact ⟨rfl, rfl, rfl⟩
  | turn =>
    have hstep : s.step b .turn = s.turn b := rfl
    rw [hstep, turn]
    split
    · exact Action.Yields.pure (Same.refl s)
    · rename_i o queue _
      intro scene
      have hsame := dispatch_same b { s with intake := { s.intake with queue } } o scene
      exact ⟨hsame.outline, hsame.limit, hsame.grace⟩
  | elapse milliseconds =>
    intro scene
    have hkeeps := s.elapse_keeps b milliseconds scene
    exact ⟨hkeeps.outline, hkeeps.limit, hkeeps.grace⟩

theorem steps_same (b : Behavior P S ε) (s : Service P ε) (events : List Event) : Action.Yields (s.steps b events) (Same s) :=
  Action.Yields.foldlM (P := fun _ => Same s) (fun s' e _ h scene => h.trans (step_same b s' e scene)) (Same.refl s)

theorem close_same (b : Behavior P S ε) (s : Service P ε) : Action.Yields (s.close b) (Same s) :=
  Action.Yields.bind fun _ => s.dispatchAll_same b s.intake.queue.items

end Service

end WeatherRelay
