import WeatherRelay.Registry

/-!
# What a step of the dispatcher does

The destinations that take part in a cycle are the enabled ones, in the order of the configuration. The first of them
are started, as many as there is room for beside the deliveries that still run, and there is a line about each of the
others (`Dispatcher.dispatch_eq`). A delivery that ends goes from those that run to those that wait to be collected
(`Dispatcher.finish_cases`), and a drain leaves neither: what ran has ended by itself or was stopped
(`Dispatcher.drain_running`).
-/

namespace WeatherRelay

namespace Registry

variable {P : Type}

/-- The targets are the enabled destinations with their places, in the order of the configuration. -/
theorem targetsFrom_eq (r : Registry P) (n : Nat) :
    r.targetsFrom n = ((r.zipIdx n).filter (·.1.isEnabled)).map fun x => ⟨x.2, x.1.name⟩ := by
  induction r generalizing n with
  | nil => rfl
  | cons d rest ih =>
    cases h : d.isEnabled with
    | true => simp [targetsFrom, List.zipIdx_cons, h, ih]
    | false => simp [targetsFrom, List.zipIdx_cons, h, ih]

theorem targets_eq (r : Registry P) :
    r.targets = (r.zipIdx.filter (·.1.isEnabled)).map fun x => ⟨x.2, x.1.name⟩ :=
  r.targetsFrom_eq 0

/-- A target is an enabled destination. -/
theorem mem_targets {r : Registry P} {t : Target} :
    t ∈ r.targets ↔ ∃ d, r[t.place]? = some d ∧ d.isEnabled = true ∧ d.name = t.name := by
  rw [targets_eq]
  simp only [List.mem_map, List.mem_filter, List.mem_zipIdx_iff_getElem?, Prod.exists]
  constructor
  · rintro ⟨d, place, ⟨hd, henabled⟩, rfl⟩
    exact ⟨d, hd, henabled, rfl⟩
  · rintro ⟨d, hd, henabled, hname⟩
    exact ⟨d, t.place, ⟨hd, henabled⟩, by rw [hname]⟩

/-- The places of some of the destinations are different. -/
theorem nodup_filter_zipIdx (r : Registry P) (p : Destination P × Nat → Bool) : ((r.zipIdx.filter p).map (·.2)).Nodup := by
  have hplaces : (r.zipIdx.map (·.2)).Nodup := by
    rw [List.zipIdx_map_snd]
    exact List.nodup_range'
  exact hplaces.sublist (List.filter_sublist.map _)

/-- No destination is a target twice. -/
theorem nodup_places (r : Registry P) : (r.targets.map (·.place)).Nodup := by
  rw [targets_eq, List.map_map]
  exact r.nodup_filter_zipIdx _

end Registry

/-- What tells the deliveries of a dispatcher apart. -/
def Delivery.key {α : Type} (x : Delivery α) : Nat × Nat := (x.cycle, x.place)

theorem Delivery.isSame_iff {α : Type} {x y : Delivery α} : x.isSame y = true ↔ x.key = y.key := by
  simp [isSame, key]

namespace Dispatcher

variable {α : Type}

/-- A dispatcher with more deliveries that run. -/
def adding (d : Dispatcher α) (xs : List (Delivery α)) : Dispatcher α := { d with running := d.running ++ xs }

@[simp] theorem inFlight_adding (d : Dispatcher α) (xs : List (Delivery α)) :
    (d.adding xs).inFlight = d.inFlight + xs.length := by
  simp only [inFlight, adding, List.length_append]
  omega

@[simp] theorem adding_nil (d : Dispatcher α) : d.adding [] = d := by
  rw [adding, List.append_nil]

@[simp] theorem adding_adding (d : Dispatcher α) (xs ys : List (Delivery α)) :
    (d.adding xs).adding ys = d.adding (xs ++ ys) := by
  simp only [adding, List.append_assoc]

/-- How many more deliveries there is room for. -/
def room (d : Dispatcher α) : Nat := d.limit - d.inFlight

/-- The first targets are started, as many as there is room for, and the others are refused. -/
theorem start_eq (d : Dispatcher α) (load : α) (ts : List Target) :
    d.start load ts = {
      dispatcher := d.adding ((ts.take d.room).map (d.delivery load))
      started := (ts.take d.room).map (d.delivery load)
      log := (ts.drop d.room).map (d.adding ((ts.take d.room).map (d.delivery load))).refusal } := by
  induction ts generalizing d with
  | nil => simp [start]
  | cons t rest ih =>
    -- the induction is over the dispatcher too: one more delivery is one less that there is room for
    by_cases hroom : d.inFlight < d.limit
    · have hone : d.room = (d.adding [d.delivery load t]).room + 1 := by
        have hlimit : (d.adding [d.delivery load t]).limit = d.limit := rfl
        rw [room, room, inFlight_adding, hlimit, List.length_singleton]
        omega
      have hstart : d.start load (t :: rest) =
          { (d.adding [d.delivery load t]).start load rest with
            started := d.delivery load t :: ((d.adding [d.delivery load t]).start load rest).started } := by
        rw [start, if_pos hroom]
        rfl
      have hdelivery : (d.adding [d.delivery load t]).delivery load = d.delivery load := rfl
      rw [hstart, ih, hone, hdelivery]
      simp
    · have hnone : d.room = 0 := by
        unfold room
        omega
      have hstart : d.start load (t :: rest) =
          { d.start load rest with log := d.refusal t :: (d.start load rest).log } := by
        rw [start, if_neg hroom]
      rw [hstart, ih, hnone]
      simp

/-- The first targets of a cycle are started, as many as there is room for once what has ended is collected, and there
is a line about each of the others. -/
theorem dispatch_eq (d : Dispatcher α) (ts : List Target) (load : α) :
    let fits := d.limit - d.running.length
    let xs := (ts.take fits).map fun t => ⟨d.cycle + 1, t.place, t.name, load⟩
    let after : Dispatcher α := { d with cycle := d.cycle + 1, running := d.running ++ xs, ended := [] }
    d.dispatch ts load =
      { dispatcher := after, started := xs, log := d.reapLines ++ (ts.drop fits).map after.refusal } := by
  unfold dispatch
  rw [start_eq]
  rfl

/-- What a cycle starts goes to its targets. -/
theorem mem_started {d : Dispatcher α} {ts : List Target} {load : α} {x : Delivery α}
    (hx : x ∈ (d.dispatch ts load).started) : ∃ t ∈ ts, ⟨d.cycle + 1, t.place, t.name, load⟩ = x := by
  have heq := d.dispatch_eq ts load
  dsimp only at heq
  rw [heq] at hx
  obtain ⟨t, ht, hload⟩ := List.mem_map.mp hx
  exact ⟨t, List.mem_of_mem_take ht, hload⟩

/-- What it comes to that a delivery ends: nothing if it does not run, else it waits to be collected. -/
theorem finish_cases (d : Dispatcher α) (x : Delivery α) (joined : Joined) :
    (d.running.find? (·.isSame x) = none ∧ d.finish x joined = d) ∨
      ∃ y before after, d.running.find? (·.isSame x) = some y ∧ y.isSame x = true ∧ d.running = before ++ y :: after ∧
        d.finish x joined = { d with running := before ++ after, ended := d.ended ++ [(y, joined)] } := by
  unfold finish
  cases hfind : d.running.find? (·.isSame x) with
  | none => exact Or.inl ⟨rfl, rfl⟩
  | some y =>
    obtain ⟨hsame, before, after, hsplit, hbefore⟩ := List.find?_eq_some_iff_append.mp hfind
    have herase : d.running.eraseP (·.isSame x) = before ++ after := by
      rw [hsplit, List.eraseP_append_right _ (by simpa using hbefore)]
      simp [hsame]
    exact Or.inr ⟨y, before, after, rfl, hsame, hsplit, by rw [herase]⟩

end Dispatcher

/-! ## The end of a delivery -/

section

variable {α ε : Type}

/-- A panic does not leave the task of its delivery. -/
theorem Ending.joined_eq [ToString ε] (d : Delivery α) (e : Ending ε) : e.joined d = .returned := by
  cases e <;> rfl

/-- A wait divides the deliveries into those that end by themselves and those that do not. -/
theorem Wait.upTo_append (period elapsed : Nat) (xs : List (Delivery α × Fate ε)) :
    (Wait.upTo period elapsed xs).ended ++ (Wait.upTo period elapsed xs).left = xs := by
  induction xs generalizing elapsed with
  | nil => rfl
  | cons x rest ih =>
    unfold Wait.upTo
    split
    · rfl
    · split
      · exact congrArg (x :: ·) (ih _)
      · rfl

namespace Dispatcher

/-- A drain leaves nothing in flight. -/
theorem drain_dispatcher (d : Dispatcher α) (fate : Delivery α → Fate ε) :
    (d.drain fate).dispatcher = { d with running := [], ended := [] } := by
  unfold drain
  split
  · rename_i hidle
    rw [reap, List.isEmpty_iff.mp hidle]
  · rfl

/-- What runs before a drain ends by itself or is stopped. -/
theorem drain_running (d : Dispatcher α) (fate : Delivery α → Fate ε) :
    d.running.Perm ((d.drain fate).ended.map (·.1) ++ (d.drain fate).stopped) := by
  unfold drain
  split
  · rename_i hidle
    rw [List.isEmpty_iff.mp hidle]
    exact List.Perm.refl _
  · dsimp only
    rw [← List.map_append, Wait.upTo_append]
    have hperm := (List.mergeSort_perm (d.running.map fun x => (x, fate x)) fun a b => a.2.isSooner b.2).map (·.1)
    rw [List.map_map] at hperm
    simpa [Function.comp_def] using hperm.symm

variable [ToString ε]

/-- What it comes to that a delivery ends by itself: nothing if it does not run, else it waits to be collected. -/
theorem settle_cases (d : Dispatcher α) (x : Delivery α) (ending : Ending ε) :
    (d.running.find? (·.isSame x) = none ∧ d.settle x ending = { dispatcher := d }) ∨
      ∃ y before after, d.running.find? (·.isSame x) = some y ∧ y.isSame x = true ∧ d.running = before ++ y :: after ∧
        d.settle x ending =
          { dispatcher := { d with running := before ++ after, ended := d.ended ++ [(y, ending.joined y)] }, ended := some y } := by
  unfold settle
  cases hfind : d.running.find? (·.isSame x) with
  | none => exact Or.inl ⟨rfl, rfl⟩
  | some y =>
    have hsame : y.isSame x = true := (List.find?_eq_some_iff_append.mp hfind).1
    have hkey : (fun z : Delivery α => z.isSame y) = (·.isSame x) := by
      funext z
      rw [Bool.eq_iff_iff, Delivery.isSame_iff, Delivery.isSame_iff, Delivery.isSame_iff.mp hsame]
    have hfirst : d.running.find? (·.isSame y) = some y := by rw [hkey, hfind]
    obtain ⟨hnone, -⟩ | ⟨z, before, after, hsome, -, hsplit, heq⟩ := d.finish_cases y (ending.joined y)
    · exact absurd (hnone.symm.trans hfirst) (Option.some_ne_none y).symm
    · obtain rfl := Option.some.inj (hsome.symm.trans hfirst)
      exact Or.inr ⟨z, before, after, rfl, hsame, hsplit, congrArg (Settled.mk · (some z)) heq⟩

/-- What a drain logs: how many it waits for, if there are any, the ends of those that end by themselves, and how many
it stops, if there are any. -/
theorem drain_log (d : Dispatcher α) (fate : Delivery α → Fate ε) :
    (d.drain fate).log = d.reapLines ++
      (if d.running.isEmpty then [] else
        [.info s!"[Dispatch] waiting up to {d.grace}s for {d.running.length} deliveries"]) ++
      (d.drain fate).ended.flatMap (fun x => x.2.ending.lines x.1) ++
      (if (d.drain fate).stopped.isEmpty then [] else
        [.warn s!"[Dispatch] grace period over, aborting {(d.drain fate).stopped.length} deliveries"]) := by
  unfold drain
  split
  · simp [Drained.log]
  · simp [Drained.log, Ending.joined_eq, Joined.lines, Wait.stopLines]

end Dispatcher

end

end WeatherRelay
