import WeatherRelay.Proofs.Service.Account

/-!
# Which deliveries are started

A cycle goes to the enabled destinations in the order of the configuration, as far as there is room for deliveries; at
no moment, not even within a cycle, are there more of them than the limit. Those that were started are collected or in
flight, a destination that was taken out gets no more, and the publishers are called once for each
(`Service.Account.calls_eq`).
-/

namespace WeatherRelay

section

variable {P α ε : Type}

namespace Dispatcher

/-- A cycle that has begun with some of its targets is within the limit. -/
theorem start_fits (d : Dispatcher α) (load : α) (ts : List Target) (h : d.inFlight ≤ d.limit) :
    (d.start load ts).dispatcher.inFlight ≤ d.limit := by
  rw [start_eq, inFlight_adding, List.length_map, List.length_take, room]
  omega

end Dispatcher

namespace Ledger

variable [ToString ε] {limit : Nat} {l : Ledger P α ε}

/-- What was started was collected or is in flight. -/
theorem Balanced.started_length (h : Balanced limit l) : l.started.length = l.collected.length + l.dispatcher.inFlight := by
  have hstarted := h.started.length_eq
  have hended := h.ended.length_eq
  simp only [List.length_append, List.length_map] at hstarted hended
  unfold Dispatcher.inFlight
  omega

/-- The first targets are started, as many as there is room for. -/
theorem Balanced.starts (h : Balanced limit l) (load : α) :
    (l.dispatcher.dispatch l.registry.targets load).started =
      (l.registry.targets.take (max limit 1 - l.dispatcher.running.length)).map fun t =>
        ⟨l.dispatcher.cycle + 1, t.place, t.name, load⟩ := by
  have heq := l.dispatcher.dispatch_eq l.registry.targets load
  dsimp only at heq
  rw [heq, h.limit_eq]

/-- The others are refused, at the limit. -/
theorem Balanced.refusals (h : Balanced limit l) (load : α) :
    (l.dispatcher.dispatch l.registry.targets load).log =
      (l.registry.targets.drop (max limit 1 - l.dispatcher.running.length)).map fun t =>
        .error s!"[Dispatch] cycle {l.dispatcher.cycle + 1}: cannot start {t.name}, {max limit 1} deliveries still running" := by
  have heq := l.dispatcher.dispatch_eq l.registry.targets load
  dsimp only at heq
  have hroom : l.dispatcher.running.length ≤ l.dispatcher.limit := Nat.le_trans (Nat.le_add_right _ _) h.fits
  rw [h.limit_eq] at heq hroom
  rw [heq]
  dsimp only
  rw [h.reapLines, List.nil_append]
  refine List.map_congr_left fun t ht => ?_
  -- a target is refused only if those before it have filled the room
  have hmore : max limit 1 - l.dispatcher.running.length < l.registry.targets.length := by
    have hrest := List.length_pos_of_mem ht
    rw [List.length_drop] at hrest
    omega
  have hfull : l.dispatcher.running.length + min (max limit 1 - l.dispatcher.running.length) l.registry.targets.length =
      max limit 1 := by
    omega
  simp only [Dispatcher.refusal, Dispatcher.inFlight, List.length_append, List.length_map, List.length_take, List.length_nil,
    Nat.add_zero, hfull]

/-! ## Destinations that were taken out -/

/-- That the destination at a place takes no part. -/
def IsOut (l : Ledger P α ε) (place : Nat) : Prop := l.registry.takesPart place = false

theorem isOut_disable (l : Ledger P α ε) (place : Nat) : (l.step (.disable place)).IsOut place := by
  simp only [IsOut, step, Registry.takesPart, List.getElem?_modify, if_true]
  cases l.registry[place]? with
  | none => rfl
  | some d => rfl

/-- No happening takes it in again. -/
theorem IsOut.step {place : Nat} (h : l.IsOut place) (e : Happening α ε) : (l.step e).IsOut place := by
  cases e with
  | dispatch load => exact h
  | reap => exact h
  | drain fate => exact h
  | disable other =>
    simp only [IsOut, Ledger.step, Registry.takesPart, List.getElem?_modify] at h ⊢
    cases hd : l.registry[place]? with
    | none => rfl
    | some d =>
      rw [hd] at h
      change (if other = place then d.disable else d).isEnabled = false
      split
      · rfl
      · exact h
  | finish x ending => exact h

/-- And no happening starts a delivery to it. -/
theorem IsOut.started_step {place : Nat} (h : l.IsOut place) (e : Happening α ε) {x : Delivery α}
    (hx : x ∈ (l.step e).started) (hplace : x.place = place) : x ∈ l.started := by
  cases e with
  | dispatch load =>
    rcases List.mem_append.mp hx with hx | hx
    · exact hx
    · obtain ⟨t, ht, rfl⟩ := Dispatcher.mem_started hx
      have hin : l.registry.takesPart place = true := hplace ▸ Registry.takesPart_of_mem ht
      exact absurd (hin.symm.trans h) (by decide)
  | reap => exact hx
  | drain fate => exact hx
  | disable other => exact hx
  | finish y ending => exact hx

theorem IsOut.started_run {place : Nat} (h : l.IsOut place) (hs : List (Happening α ε)) {x : Delivery α}
    (hx : x ∈ (l.run hs).started) (hplace : x.place = place) : x ∈ l.started := by
  induction hs generalizing l with
  | nil => exact hx
  | cons e rest ih => exact h.started_step e (ih (h.step e) hx) hplace

end Ledger

end

namespace Ledger

variable {P S α ε : Type} [ToString ε]

/-- A cycle starts a delivery to every enabled destination as far as there is room, whatever has happened to the
dispatcher before, and what was started is accounted for at every moment.

Of a run of the dispatcher: the deliveries in flight are within the limit, also within a cycle; those that were started
were collected or are in flight; no two are of one cycle and one destination. A cycle is counted; it starts the first of
the enabled destinations, in the order of the configuration, as many as there is room for beside those that run, each
with the load and the number of the cycle, and there is an error about each of the others. A destination that was taken
out gets no more deliveries.

Of the service: its dispatcher goes through states of such runs, and publishers are called once for each delivery that
was started to their destinations. -/
theorem cycles_start_what_fits :
    (∀ (registry : Registry P) (limit grace : Nat) (hs : List (Happening α ε)),
      let l := (opened registry limit grace).run hs
      l.dispatcher.inFlight ≤ max limit 1 ∧
      l.started.length = l.collected.length + l.dispatcher.inFlight ∧
      (l.started.map Delivery.key).Nodup ∧
      (∀ load,
        let targets := l.registry.targets
        let room := max limit 1 - l.dispatcher.running.length
        let r := l.dispatcher.dispatch targets load
        targets = (l.registry.zipIdx.filter (·.1.isEnabled)).map (fun d => ⟨d.2, d.1.name⟩) ∧
        r.started = (targets.take room).map (fun t => ⟨l.dispatcher.cycle + 1, t.place, t.name, load⟩) ∧
        r.started.length = min targets.length room ∧
        r.log = (targets.drop room).map (fun t =>
          .error s!"[Dispatch] cycle {l.dispatcher.cycle + 1}: cannot start {t.name}, {max limit 1} deliveries still running") ∧
        r.dispatcher.cycle = l.dispatcher.cycle + 1 ∧
        ∀ n, (Dispatcher.start { l.dispatcher.reap with cycle := l.dispatcher.cycle + 1 } load
          (targets.take n)).dispatcher.inFlight ≤ max limit 1) ∧
      ∀ place more, ∀ x ∈ ((l.step (.disable place)).run more).started, x.place = place → x ∈ l.started) ∧
    ∀ (b : Behavior P S ε) (scene : Scene (Recorded S ε)) (intake : Intake) (registry : Registry P) (limit grace : Nat)
      (events : List Event),
      let s : Service (Placed P) ε := { intake, registry := registry.placed, dispatcher := .ofLimit limit grace }
      let after := (s.steps b.recorded events).run scene
      ∃ hs,
        let l := (opened registry limit grace : Ledger P Snapshot ε).run hs
        l.dispatcher = after.1.dispatcher ∧ after.2.outside.calls = scene.outside.calls ++ registry.updates l.started := by
  constructor
  · intro registry limit grace hs l
    have h : Balanced limit l := balanced_run registry limit grace hs
    refine ⟨h.limit_eq ▸ h.fits, h.started_length, h.once, ?_, ?_⟩
    · intro load targets room r
      refine ⟨l.registry.targets_eq, h.starts load, ?_, h.refusals load, (l.dispatcher.dispatch_frame targets load).1, ?_⟩
      · rw [h.starts load, List.length_map, List.length_take, Nat.min_comm]
      · intro n
        rw [← h.limit_eq]
        refine Dispatcher.start_fits { l.dispatcher.reap with cycle := l.dispatcher.cycle + 1 } load _ ?_
        exact Nat.le_trans (Nat.le_add_right _ _) h.fits
    · intro place more x hx hplace
      exact (l.isOut_disable place).started_run more hx hplace
  · intro b scene intake registry limit grace events s after
    have hopened := Service.Account.opened (registry.outline_placedFrom 0).symm (registry.isPlaced_placedFrom 0) limit grace intake scene
    obtain ⟨more, ⟨l, hserving, haccount⟩, -⟩ := hopened.steps b events
    have hcalls := haccount.calls_eq
    rw [hserving.registry_eq] at hcalls
    obtain ⟨hs, rfl⟩ := hserving.exists_run
    exact ⟨hs, haccount.dispatcher_eq, hcalls⟩

/-- A cycle for two destinations with room for one. -/
def oneOfTwo : Ledger Unit Snapshot String :=
  (opened [.withPublisher { service := "a" } {} (), .withPublisher { service := "b" } {} ()] 1 0).run [.dispatch .empty]

/-- With room for one delivery a cycle starts the first of two destinations. Once that one is taken out and its delivery
has ended, a cycle starts the other. -/
theorem taken_out_after_its_delivery :
    let x : Delivery Snapshot := ⟨1, 0, "a", .empty⟩
    let y : Delivery Snapshot := ⟨2, 1, "b", .empty⟩
    let after := (oneOfTwo.step (.disable 0)).run [.finish x .done, .dispatch .empty]
    oneOfTwo.dispatcher.inFlight ≤ 1 ∧ after.started = [x, y] ∧ x ∈ after.started ∧ x.place = 0 ∧ x ∈ oneOfTwo.started := by
  intro x y after
  have hafter : after.started = [x, y] := rfl
  have hx : x ∈ after.started := hafter ▸ List.mem_cons_self
  obtain ⟨hfits, -, -, -, hout⟩ := (cycles_start_what_fits (P := Unit) (S := Unit) (α := Snapshot) (ε := String)).1
    [.withPublisher { service := "a" } {} (), .withPublisher { service := "b" } {} ()] 1 0 [.dispatch .empty]
  exact ⟨hfits, hafter, hx, rfl, hout 0 [.finish x .done, .dispatch .empty] x hx rfl⟩

end Ledger

end WeatherRelay
