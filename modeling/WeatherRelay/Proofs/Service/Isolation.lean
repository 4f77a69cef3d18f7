import WeatherRelay.Proofs.Service.Account
import WeatherRelay.Proofs.Service.Refinement

/-!
# What one destination costs the others

Deliveries run side by side, so a destination that is slow delays no other. But deliveries that do not end take up room:
a destination is left out of a cycle exactly when the enabled destinations before it and the deliveries that still run
fill the limit (`Service.received_eq`). So what a destination does is seen by another only through the number of its
deliveries that still run.
-/

namespace WeatherRelay

/-- What a call hands to the publisher at a place. -/
def Call.loadAt? (place : Nat) : Call → Option Snapshot
  | .update other load => if other = place then some load else none
  | _ => none

namespace Registry

variable {P : Type}

/-- How many destinations that take part come before a place. -/
def rank (r : Registry P) (place : Nat) : Nat := enabledCount (r.take place)

/-- The destinations with another publisher at a place. -/
def replace (place : Nat) (p : P) (r : Registry P) : Registry P := r.modify place fun d => { d with publisher := some p }

/-- Only the flags matter. -/
theorem rank_eq (r : Registry P) (place : Nat) : r.rank place = ((r.map (·.isEnabled)).take place).countP id := by
  rw [← List.map_take, List.countP_map]
  rfl

theorem rank_outline (r : Registry P) (place : Nat) : r.outline.rank place = r.rank place := by
  rw [rank_eq, rank_eq, outline, List.map_map]
  rfl

theorem rank_congr {P' : Type} {r : Registry P} {r' : Registry P'} (h : r.outline = r'.outline) (place : Nat) :
    r.rank place = r'.rank place := by
  rw [← r.rank_outline, ← r'.rank_outline, h]

/-- The places of targets are not before the first. -/
theorem le_place {r : Registry P} {n : Nat} {t : Target} (ht : t ∈ r.targetsFrom n) : n ≤ t.place := by
  rw [targetsFrom_eq] at ht
  obtain ⟨⟨d, place⟩, hd, rfl⟩ := List.mem_map.mp ht
  exact (List.mem_zipIdx (List.mem_filter.mp hd).1).1

theorem rank_succ (d : Destination P) (rest : Registry P) (place : Nat) :
    rank (d :: rest) (place + 1) = rest.rank place + if d.isEnabled then 1 else 0 := by
  unfold rank enabledCount
  rw [List.take_succ_cons, List.countP_cons]

/-- A destination is among the first targets if it takes part and fewer come before it. -/
theorem mem_take_targetsFrom (r : Registry P) (n k place : Nat) :
    n + place ∈ ((r.targetsFrom n).take k).map (·.place) ↔ r.takesPart place = true ∧ r.rank place < k := by
  induction r generalizing n k place with
  | nil => simp [targetsFrom, takesPart]
  | cons d rest ih =>
    have hlater : ∀ k', n ∉ ((targetsFrom (n + 1) rest).take k').map (·.place) := by
      intro k' hmem
      obtain ⟨t, ht, hplace⟩ := List.mem_map.mp hmem
      have hle := le_place (List.mem_of_mem_take ht)
      omega
    -- a destination that takes no part is no target and does not count in the rank of later ones
    cases hd : d.isEnabled with
    | false =>
      have htargets : targetsFrom n (d :: rest) = targetsFrom (n + 1) rest := by simp [targetsFrom, hd]
      rw [htargets]
      cases place with
      | zero =>
        have hout : takesPart (d :: rest) 0 = false := hd
        rw [hout]
        simpa using hlater k
      | succ place =>
        rw [rank_succ, hd, ← Nat.add_assoc, Nat.add_right_comm, ih (n + 1) k place]
        rfl
    | true =>
      have htargets : targetsFrom n (d :: rest) = ⟨n, d.name⟩ :: targetsFrom (n + 1) rest := by simp [targetsFrom, hd]
      rw [htargets]
      cases k with
      | zero => simp
      | succ k =>
        rw [List.take_succ_cons, List.map_cons, List.mem_cons]
        cases place with
        | zero =>
          have hin : takesPart (d :: rest) 0 = true := hd
          have hfirst : rank (d :: rest) 0 = 0 := rfl
          rw [hin, hfirst]
          simp
        | succ place =>
          rw [rank_succ, hd, ← Nat.add_assoc, Nat.add_right_comm n place 1, ih (n + 1) k place]
          have htakes : takesPart (d :: rest) (place + 1) = takesPart rest place := rfl
          rw [htakes]
          have hnot : ¬n + 1 + place = n := by omega
          simp only [hnot, false_or, if_true, Nat.add_lt_add_iff_right]

/-- Of deliveries to different places at most one goes to the publisher at a place. -/
theorem loads_updates (r : Registry P) (cycle place : Nat) (load : Snapshot) {ts : List Target}
    (h : (ts.map (·.place)).Nodup) :
    (r.updates (ts.map fun t => ⟨cycle, t.place, t.name, load⟩)).filterMap (Call.loadAt? place) =
      if r.hasPublisher place = true ∧ place ∈ ts.map (·.place) then [load] else [] := by
  induction ts with
  | nil => simp [updates]
  | cons t rest ih =>
    rw [List.map_cons, List.nodup_cons] at h
    obtain ⟨hnew, hrest⟩ := h
    have hcons : r.updates ((t :: rest).map fun t => ⟨cycle, t.place, t.name, load⟩) =
        (if r.hasPublisher t.place then [.update t.place load] else []) ++
          r.updates (rest.map fun t => ⟨cycle, t.place, t.name, load⟩) := by
      unfold updates
      rw [List.map_cons, List.filter_cons]
      split <;> rfl
    rw [hcons, List.filterMap_append, ih hrest]
    simp only [List.map_cons, List.mem_cons]
    by_cases hplace : t.place = place
    · subst hplace
      simp only [hnew, and_false, or_false, and_true, if_false, List.append_nil]
      cases r.hasPublisher t.place <;> simp [Call.loadAt?]
    · have hother : place ≠ t.place := fun heq => hplace heq.symm
      have hnone : (if r.hasPublisher t.place then [Call.update t.place load] else []).filterMap (Call.loadAt? place) = [] := by
        cases r.hasPublisher t.place <;> simp [Call.loadAt?, hplace]
      rw [hnone]
      simp only [hother, false_or, List.nil_append]

/-- The destination at a place gets the load of a cycle if it takes part, has a publisher, and there is room for it
beside the deliveries that still run and the destinations before it. -/
theorem loads_dispatch (r : Registry P) (d : Dispatcher Snapshot) (place : Nat) (load : Snapshot) :
    (r.updates (d.dispatch r.targets load).started).filterMap (Call.loadAt? place) =
      if r.hasPublisher place = true ∧ r.takesPart place = true ∧ r.rank place + d.running.length < d.limit then [load] else [] := by
  have heq := d.dispatch_eq r.targets load
  dsimp only at heq
  have hplaces : ((r.targets.take (d.limit - d.running.length)).map (·.place)).Nodup :=
    r.nodup_places.sublist ((List.take_sublist _ _).map _)
  have hmem := r.mem_take_targetsFrom 0 (d.limit - d.running.length) place
  rw [Nat.zero_add] at hmem
  rw [heq]
  dsimp only
  rw [r.loads_updates _ _ _ hplaces]
  simp only [Registry.targets, hmem, Nat.lt_sub_iff_add_lt]

/-- Another publisher at a place leaves the destinations at other places as they are. -/
theorem getElem?_replace {r : Registry P} {place other : Nat} (p : P) (h : other ≠ place) :
    (r.replace place p)[other]? = r[other]? := by
  unfold replace
  rw [List.getElem?_modify]
  cases r[other]? with
  | none => rfl
  | some d =>
    have hnot : ¬place = other := fun heq => h heq.symm
    simp [hnot]

/-- It changes no flag. -/
theorem flags_replace (r : Registry P) (place : Nat) (p : P) :
    (r.replace place p).map (·.isEnabled) = r.map (·.isEnabled) := by
  refine List.ext_getElem? fun other => ?_
  rw [List.getElem?_map, List.getElem?_map, replace, List.getElem?_modify]
  cases r[other]? with
  | none => rfl
  | some d =>
    change some (if place = other then { d with publisher := some p } else d).isEnabled = some d.isEnabled
    split <;> rfl

theorem rank_replace (r : Registry P) (place other : Nat) (p : P) : (r.replace place p).rank other = r.rank other := by
  rw [rank_eq, rank_eq, flags_replace]

end Registry

namespace Service

variable {P P' S ε : Type} [ToString ε]

/-- A cycle, and some time after it. -/
def round (b : Behavior P S ε) (s : Service P ε) (x : Snapshot × Nat) : Action S (Service P ε) := do
  (← s.dispatch b x.1).elapse b x.2

/-- Rounds one after another. -/
def rounds (b : Behavior P S ε) (s : Service P ε) (xs : List (Snapshot × Nat)) : Action S (Service P ε) :=
  xs.foldlM (round b) s

/-- The states of the service at the beginning of each round, with what is dispatched then. -/
def eves (b : Behavior P S ε) (s : Service P ε) (scene : Scene S) : List (Snapshot × Nat) → List (Service P ε × Snapshot)
  | [] => []
  | x :: rest =>
    let after := (s.round b x).run scene
    (s, x.1) :: eves b after.1 after.2 rest

/-- What the publisher at a place is given in rounds. -/
def received (b : Behavior P S ε) (s : Service P ε) (scene : Scene S) (xs : List (Snapshot × Nat))
    (place : Nat) : List Snapshot :=
  ((s.placed.rounds b.recorded xs).run (scene.map fun outside => { outside })).2.outside.calls.filterMap (Call.loadAt? place)

/-- A round leaves the destinations and the limits alone. -/
theorem round_same (b : Behavior P S ε) (s : Service P ε) (x : Snapshot × Nat) : Action.Yields (s.round b x) (Same s) := by
  refine (s.dispatch_same b x.1).andThen fun s' hsame scene => ?_
  exact hsame.trans (s'.step_same b (.elapse x.2) scene)

variable {base : Trace ε} {l : Ledger P' Snapshot ε} {told : List (Task ε)} {s : Service (Placed P) ε}
  {scene : Scene (Recorded S ε)}

/-- The calls of a round. -/
theorem Account.round (b : Behavior P S ε) (h : Account base l told [] s scene) (x : Snapshot × Nat) :
    let after := (s.round b.recorded x).run scene
    after.2.outside.calls =
        scene.outside.calls ++ s.registry.updates (s.dispatcher.dispatch s.registry.targets x.1).started ∧
      ∃ (l' : Ledger P' Snapshot ε) (told' : List (Task ε)), Account base l' told' [] after.1 after.2 := by
  obtain ⟨more, ⟨l₁, hl₁, h₁⟩, hmore, -⟩ := h.dispatch b x.1
  obtain ⟨l₂, hl₂, h₂⟩ := h₁.elapse b x.2
  refine ⟨?_, l₂, told ++ more, h₂⟩
  have hbefore : scene.outside.calls = base.calls ++ l.registry.updates (told.map (·.delivery)) := congrArg Trace.calls h.trace_eq
  refine (congrArg Trace.calls h₂.trace_eq).trans ?_
  rw [hbefore, List.append_assoc, ← hmore, Registry.updates_congr h.outline_eq.symm, ← Registry.updates_append, ← List.map_append,
    ← (hl₁.trans hl₂).registry_eq]
  rfl

/-- In rounds each cycle is dispatched once. -/
theorem eves_map (b : Behavior P S ε) (s : Service P ε) (scene : Scene S) (xs : List (Snapshot × Nat)) :
    (s.eves b scene xs).map (·.2) = xs.map (·.1) := by
  induction xs generalizing s scene with
  | nil => rfl
  | cons x rest ih => exact congrArg (x.1 :: ·) (ih _ _)

/-- What rounds hand to the publisher at a place. -/
theorem rounds_loads (b : Behavior P S ε) (place : Nat) (xs : List (Snapshot × Nat)) (h : Account base l told [] s scene) :
    ∃ calls, ((s.rounds b.recorded xs).run scene).2.outside.calls = scene.outside.calls ++ calls ∧
      calls.filterMap (Call.loadAt? place) =
        if s.registry.hasPublisher place = true ∧ s.registry.takesPart place = true then
          ((s.eves b.recorded scene xs).filter fun e =>
            s.registry.rank place + e.1.dispatcher.running.length < s.dispatcher.limit).map (·.2)
        else [] := by
  induction xs generalizing s l told scene with
  | nil => exact ⟨[], (List.append_nil _).symm, by simp [eves]⟩
  | cons x rest ih =>
    obtain ⟨hcalls, l', told', hnext⟩ := h.round b x
    have hsame := s.round_same b.recorded x scene
    obtain ⟨more, hmore, hloads⟩ := ih hnext
    refine ⟨s.registry.updates (s.dispatcher.dispatch s.registry.targets x.1).started ++ more, ?_, ?_⟩
    · exact hmore.trans ((congrArg (· ++ more) hcalls).trans (List.append_assoc _ _ _))
    · rw [List.filterMap_append, hloads, Registry.loads_dispatch, Registry.hasPublisher_congr hsame.outline,
        Registry.takesPart_congr hsame.outline, Registry.rank_congr hsame.outline, hsame.limit]
      -- the state at the beginning of the round decides about its load, and the destinations stay what they are
      by_cases hin : s.registry.hasPublisher place = true ∧ s.registry.takesPart place = true
      · rw [if_pos hin, if_pos hin, eves, List.filter_cons]
        by_cases hroom : s.registry.rank place + s.dispatcher.running.length < s.dispatcher.limit
        · simp [hin, hroom]
        · simp [hroom]
      · rw [if_neg hin, if_neg hin]
        simp only [← and_assoc, hin, false_and, if_false, List.append_nil]

/-- Rounds of recorded publishers are rounds of the publishers themselves but for the record. -/
theorem rounds_recorded (b : Behavior P S ε) (s : Service P ε) (xs : List (Snapshot × Nat)) (scene : Scene S) :
    (s.rounds b xs).run scene =
      let r := (s.placed.rounds b.recorded xs).run (scene.map fun outside => { outside })
      (r.1.map Placed.publisher, r.2.map (·.outside)) := by
  have hround : ∀ (s' : Service (Placed P) ε) (x : Snapshot × Nat),
      Action.Refines (map Placed.publisher) (·.outside) (s'.round b.recorded x) ((s'.map Placed.publisher).round b x) :=
    fun s' x => (s'.dispatch_refines b.recorded_refines x.1 (Or.inl rfl)).bind fun s'' =>
      s''.elapse_refines b.recorded_refines x.2
  have hrun : Action.Refines (map Placed.publisher) (·.outside) (s.placed.rounds b.recorded xs)
      ((s.placed.map Placed.publisher).rounds b xs) :=
    Action.Refines.foldlM (P := fun _ _ => True) (fun s' x _ _ => ⟨hround s' x, fun _ => trivial⟩) trivial
  rw [s.map_placed] at hrun
  exact hrun (scene.map fun outside => { outside })

/-- The deliveries to a place that still run. -/
def unfinished (s : Service P ε) (place : Nat) : Nat := s.dispatcher.running.countP (·.place == place)

/-- The service before the first round. -/
def resting (intake : Intake) (registry : Registry P) (limit grace : Nat) : Service P ε :=
  { intake, registry, dispatcher := .ofLimit limit grace }

section

variable (b : Behavior P S ε) (intake : Intake) (registry : Registry P) (limit grace : Nat) (xs : List (Snapshot × Nat))
  (scene : Scene S)

/-- The states in which the rounds of recorded publishers begin. -/
def recordedEves (s : Service P ε) : List (Service (Placed P) ε × Snapshot) :=
  s.placed.eves b.recorded (scene.map fun outside => { outside }) xs

/-- A destination is given what is dispatched while there is room for it. -/
theorem received_eq (place : Nat) :
    (resting intake registry limit grace).received b scene xs place =
      if registry.hasPublisher place = true ∧ registry.takesPart place = true then
        (((resting intake registry limit grace).recordedEves b xs scene).filter fun e =>
          registry.rank place + e.1.dispatcher.running.length < max limit 1).map (·.2)
      else [] := by
  have houtline : registry.placed.outline = registry.outline := registry.outline_placedFrom 0
  have hopened := Account.opened (ε := ε) houtline.symm (registry.isPlaced_placedFrom 0) limit grace intake
    (scene.map fun outside => ({ outside } : Recorded S ε))
  obtain ⟨calls, hcalls, hloads⟩ := rounds_loads b place xs hopened
  rw [Registry.hasPublisher_congr houtline, Registry.takesPart_congr houtline, Registry.rank_congr houtline] at hloads
  exact (congrArg (List.filterMap (Call.loadAt? place)) hcalls).trans hloads

/-- If only one destination has unfinished deliveries and they leave room, every other one is given
all that is dispatched. -/
theorem received_all (slow place : Nat)
    (hothers : ∀ e ∈ (resting intake registry limit grace).recordedEves b xs scene,
      ∀ y ∈ e.1.dispatcher.running, y.place = slow)
    (hroom : ∀ e ∈ (resting intake registry limit grace).recordedEves b xs scene,
      registry.rank place + e.1.unfinished slow < max limit 1) :
    (resting intake registry limit grace).received b scene xs place =
      if registry.hasPublisher place = true ∧ registry.takesPart place = true then xs.map (·.1) else [] := by
  have hall : ((resting intake registry limit grace).recordedEves b xs scene).filter (fun e =>
      registry.rank place + e.1.dispatcher.running.length < max limit 1) =
        (resting intake registry limit grace).recordedEves b xs scene := by
    rw [List.filter_eq_self]
    intro e he
    have hcount : e.1.unfinished slow = e.1.dispatcher.running.length :=
      List.countP_eq_length.mpr fun y hy => beq_iff_eq.mpr (hothers e he y hy)
    exact decide_eq_true (hcount ▸ hroom e he)
  rw [received_eq, hall, recordedEves, eves_map]

/-- What a destination is given depends on the others only through the room that their deliveries
leave, whatever publishers do.

In rounds a destination that takes part is given exactly what is dispatched while the destinations before it and the
deliveries that still run are fewer than the limit. So when one destination gets another publisher, and the deliveries
of all others end before the next dispatch, every other destination is given the same as before, as long as the
destinations before it and the unfinished deliveries of that one are fewer than the limit at every dispatch. -/
theorem siblings_lose_only_room :
    let s : Service P ε := resting intake registry limit grace
    let r := (s.placed.rounds b.recorded xs).run (scene.map fun outside => { outside })
    (s.rounds b xs).run scene = (r.1.map Placed.publisher, r.2.map (·.outside)) ∧
      (∀ place, s.received b scene xs place =
        if registry.hasPublisher place = true ∧ registry.takesPart place = true then
          ((s.recordedEves b xs scene).filter fun e =>
            registry.rank place + e.1.dispatcher.running.length < max limit 1).map (·.2)
        else []) ∧
      ∀ slow p,
        let s' : Service P ε := resting intake (registry.replace slow p) limit grace
        (∀ e ∈ s.recordedEves b xs scene, ∀ y ∈ e.1.dispatcher.running, y.place = slow) →
        (∀ e ∈ s'.recordedEves b xs scene, ∀ y ∈ e.1.dispatcher.running, y.place = slow) →
        ∀ place, place ≠ slow →
          (∀ e ∈ s.recordedEves b xs scene, registry.rank place + e.1.unfinished slow < max limit 1) →
          (∀ e ∈ s'.recordedEves b xs scene, registry.rank place + e.1.unfinished slow < max limit 1) →
          s'.received b scene xs place = s.received b scene xs place := by
  intro s r
  refine ⟨s.rounds_recorded b xs scene, received_eq b intake registry limit grace xs scene, ?_⟩
  intro slow p s' hothers hothers' place hplace hroom hroom'
  have hpublisher : (registry.replace slow p).hasPublisher place = registry.hasPublisher place := by
    rw [Registry.hasPublisher, Registry.hasPublisher, Registry.getElem?_replace p hplace]
  have htakes : (registry.replace slow p).takesPart place = registry.takesPart place := by
    rw [Registry.takesPart, Registry.takesPart, Registry.getElem?_replace p hplace]
  rw [← registry.rank_replace slow place p] at hroom'
  rw [received_all b intake registry limit grace xs scene slow place hothers hroom,
    received_all b intake (registry.replace slow p) limit grace xs scene slow place hothers' hroom', hpublisher, htakes]

end

/-- Publishers that never come to an end, or do so at once. -/
def hanging : Behavior Bool Unit String where
  init p _ := return .ok p
  update p _ _ _ := return (p, if p then .never else .now .done)
  cleanup p := return some p
  missing name := name

/-- Two destinations whose deliveries end at once. -/
def twoPrompt : Registry Bool :=
  [.withPublisher { service := "a" } {} false, .withPublisher { service := "b" } {} false]

/-- An intake that nothing comes in at. -/
def idleIntake : Intake := { station := {}, queue := { depth := 1 } }

/-- With room for one more delivery than there are destinations, the other destination is given both
cycles though one hangs. -/
theorem room_beside_a_hung_destination :
    let s : Service Bool String := resting idleIntake twoPrompt 3 0
    let s' : Service Bool String := resting idleIntake (twoPrompt.replace 0 true) 3 0
    let scene : Scene Unit := { now := .start1970, outside := () }
    let xs : List (Snapshot × Nat) := [(.empty, 0), (.empty, 0)]
    (∀ e ∈ s.recordedEves hanging xs scene, ∀ y ∈ e.1.dispatcher.running, y.place = 0) ∧
      (∀ e ∈ s'.recordedEves hanging xs scene, ∀ y ∈ e.1.dispatcher.running, y.place = 0) ∧
      (∀ e ∈ s.recordedEves hanging xs scene, twoPrompt.rank 1 + e.1.unfinished 0 < 3) ∧
      (∀ e ∈ s'.recordedEves hanging xs scene, twoPrompt.rank 1 + e.1.unfinished 0 < 3) ∧
      s'.received hanging scene xs 1 = s.received hanging scene xs 1 := by
  intro s s' scene xs
  have hothers : ∀ e ∈ s.recordedEves hanging xs scene, ∀ y ∈ e.1.dispatcher.running, y.place = 0 := by decide +kernel
  have hothers' : ∀ e ∈ s'.recordedEves hanging xs scene, ∀ y ∈ e.1.dispatcher.running, y.place = 0 := by decide +kernel
  have hroom : ∀ e ∈ s.recordedEves hanging xs scene, twoPrompt.rank 1 + e.1.unfinished 0 < 3 := by decide +kernel
  have hroom' : ∀ e ∈ s'.recordedEves hanging xs scene, twoPrompt.rank 1 + e.1.unfinished 0 < 3 := by decide +kernel
  obtain ⟨-, -, hsame⟩ := siblings_lose_only_room hanging idleIntake twoPrompt 3 0 xs scene
  exact ⟨hothers, hothers', hroom, hroom', hsame 0 true hothers hothers' 1 (by decide) hroom hroom'⟩

/-- A destination whose deliveries never end takes the room of another one, though there is room for
one delivery of each. -/
theorem hung_destination_costs_its_sibling :
    ¬∀ (registry : Registry Bool) (limit grace : Nat) (xs : List (Snapshot × Nat)) (slow : Nat) (p : Bool),
      let s : Service Bool String := resting idleIntake registry limit grace
      let s' : Service Bool String := resting idleIntake (registry.replace slow p) limit grace
      let scene : Scene Unit := { now := .start1970, outside := () }
      registry.enabledCount ≤ limit →
        (∀ e ∈ s.recordedEves hanging xs scene, ∀ y ∈ e.1.dispatcher.running, y.place = slow) →
        (∀ e ∈ s'.recordedEves hanging xs scene, ∀ y ∈ e.1.dispatcher.running, y.place = slow) →
        ∀ place, place ≠ slow → s'.received hanging scene xs place = s.received hanging scene xs place := by
  intro hall
  have hsame := hall twoPrompt 2 0 [(.empty, 0), (.empty, 0)] 0 true (by decide) (by decide +kernel) (by decide +kernel) 1 (by decide)
  exact absurd (congrArg List.length hsame) (by decide +kernel)

end Service

end WeatherRelay
