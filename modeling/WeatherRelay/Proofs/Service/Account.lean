import WeatherRelay.Proofs.Dispatch.Drain
import WeatherRelay.Proofs.Dispatch.Ledger
import WeatherRelay.Proofs.Service.Calls

/-!
# The account of a service

Whatever happens to a service and whatever its publishers do, a ledger accounts for it (`Account`): the dispatcher goes
through the states of a run of the ledger, publishers are called once for every delivery that is begun, and every end by
itself is one that the update has answered, at its time, told to the publisher and to the log. Each step of the service
is a happening of the ledger and its consequences: a turn is a dispatch and the ends of what ends at once, the passing
of time is ends, and the wait at the end is a drain.
-/

namespace WeatherRelay

namespace Delivery

variable {α : Type}

/-- Of deliveries with different keys only one is the same as a given one. -/
theorem filter_not_isSame {before after : List (Delivery α)} {x y : Delivery α}
    (h : ((before ++ y :: after).map (·.key)).Nodup) (hsame : y.isSame x = true) :
    (before ++ y :: after).filter (fun z => !z.isSame x) = before ++ after := by
  rw [List.map_append, List.map_cons, List.nodup_append] at h
  obtain ⟨-, hafter, hbefore⟩ := h
  have hkey := isSame_iff.mp hsame
  have hfirst : before.filter (fun z => !z.isSame x) = before := by
    rw [List.filter_eq_self]
    intro z hz
    rw [Bool.not_eq_true', ← Bool.not_eq_true, isSame_iff, ← hkey]
    exact hbefore _ (List.mem_map_of_mem hz) _ List.mem_cons_self
  have hlast : after.filter (fun z => !z.isSame x) = after := by
    rw [List.filter_eq_self]
    intro z hz
    rw [Bool.not_eq_true', ← Bool.not_eq_true, isSame_iff, ← hkey]
    exact fun heq => (List.nodup_cons.mp hafter).1 (heq ▸ List.mem_map_of_mem hz)
  rw [List.filter_append, List.filter_cons_of_neg (by simp [hsame]), hfirst, hlast]

end Delivery

/-- When a delivery has ended, it leaves those that run. -/
theorem Dispatcher.running_settle {α ε : Type} [ToString ε] {d : Dispatcher α} (h : (d.running.map (·.key)).Nodup)
    (x : Delivery α) (ending : Ending ε) :
    (d.settle x ending).dispatcher.running = d.running.filter fun y => !y.isSame x := by
  obtain ⟨hnone, heq⟩ | ⟨y, before, after, -, hsame, hsplit, heq⟩ := d.settle_cases x ending
  · rw [heq, List.filter_eq_self.mpr]
    intro y hy
    have hother := List.find?_eq_none.mp hnone y hy
    simpa using hother
  · rw [heq]
    rw [hsplit] at h
    rw [hsplit, Delivery.filter_not_isSame h hsame]

/-! ## Tasks -/

namespace Task

variable {ε : Type}

theorem isDue_iff {t : Task ε} {clock : Nat} :
    t.isDue clock = true ↔ ∃ left, t.fate.left = some left ∧ t.begun + left ≤ clock := by
  simp [isDue, due, Option.any_eq_true]

theorem isDue_mono {t : Task ε} {clock later : Nat} (h : t.isDue clock = true) (hle : clock ≤ later) :
    t.isDue later = true := by
  obtain ⟨left, hleft, hdue⟩ := isDue_iff.mp h
  exact isDue_iff.mpr ⟨left, hleft, hdue.trans hle⟩

/-- What is left of it is what was left at its beginning, less the time since then. -/
theorem fateAt_eq (t : Task ε) (clock : Nat) :
    t.fateAt clock = ⟨t.fate.left.map fun left => t.begun + left - clock, t.fate.ending⟩ := by
  cases hleft : t.fate.left <;> simp [fateAt, due, hleft]

/-- When what is left has passed, it has come to its end. -/
theorem isDue_add {t : Task ε} {clock waited : Nat} (h : (t.fateAt clock).remaining ≤ waited) :
    t.isDue (clock + waited) = true := by
  rw [fateAt_eq] at h
  cases hleft : t.fate.left with
  | none => simp [hleft, Fate.remaining] at h
  | some left =>
    simp only [hleft, Fate.remaining, Option.map_some, Nat.cast_le] at h
    exact isDue_iff.mpr ⟨left, hleft, by omega⟩

end Task

/-! ## What a ledger says of publishers -/

/-- What the publisher of a delivery is told of its end; of one that is stopped it is told nothing. -/
def End.finish? {ε : Type} (x : Delivery Snapshot) : End ε → Option (Finish ε)
  | .byItself ending => some ⟨x.place, x.load, ending⟩
  | .stopped => none

namespace Ledger

variable {P ε : Type}

/-- What publishers were told of ends. -/
def finishesOf (r : Registry P) (ends : List (Delivery Snapshot × End ε)) : List (Finish ε) :=
  (ends.filter fun x => r.hasPublisher x.1.place).filterMap fun x => x.2.finish? x.1

theorem finishesOf_append (r : Registry P) (ends more : List (Delivery Snapshot × End ε)) :
    finishesOf r (ends ++ more) = finishesOf r ends ++ finishesOf r more := by
  rw [finishesOf, List.filter_append, List.filterMap_append]
  rfl

/-- A drain tells of what ends by itself. -/
theorem finishesOf_drain [ToString ε] (r : Registry P) (plan : Drained Snapshot ε) :
    finishesOf r plan.ends = plan.ended.flatMap fun x => (Service.ended r x.1 x.2.ending).finishes := by
  have hstopped : finishesOf r (plan.stopped.map fun x => (x, (.stopped : End ε))) = [] := by
    simp [finishesOf, End.finish?]
  rw [Drained.ends, finishesOf_append, hstopped, List.append_nil]
  induction plan.ended with
  | nil => rfl
  | cons x rest ih =>
    rw [List.map_cons, List.flatMap_cons, ← ih, ← List.singleton_append, finishesOf_append]
    congr 1
    cases hx : r.hasPublisher x.1.place <;> simp [finishesOf, Service.ended, End.finish?, hx]

/-- The trace that belongs to a ledger, when the deliveries that were begun have been answered. -/
def trace (l : Ledger P Snapshot ε) (told : List (Task ε)) : Trace ε where
  calls := l.registry.updates (told.map (·.delivery))
  answers := (told.filter fun t => l.registry.hasPublisher t.delivery.place).map (·.fate)
  finishes := finishesOf l.registry l.ends
  lines := l.log

/-- A delivery that is begun adds to the trace its call and its answer. -/
theorem trace_concat (l : Ledger P Snapshot ε) (told : List (Task ε)) (t : Task ε) :
    l.trace (told ++ [t]) = l.trace told ++
      if l.registry.hasPublisher t.delivery.place then
        { calls := [.update t.delivery.place t.delivery.load], answers := [t.fate] } else {} := by
  cases hplace : l.registry.hasPublisher t.delivery.place <;>
    ext1 <;> simp [trace, Registry.updates, hplace]

/-- The end of a delivery that runs adds to the trace what is told of it. -/
theorem trace_finish [ToString ε] (l : Ledger P Snapshot ε) (told : List (Task ε)) (x : Delivery Snapshot)
    (ending : Ending ε) :
    (l.step (.finish x ending)).trace told =
      l.trace told ++ ((l.dispatcher.settle x ending).ended.map fun y => Service.ended l.registry y ending).getD {} := by
  have hends : finishesOf l.registry (l.step (.finish x ending)).ends = finishesOf l.registry l.ends ++
      finishesOf l.registry ((l.dispatcher.settle x ending).ended.toList.map fun y => (y, .byItself ending)) :=
    finishesOf_append _ _ _
  ext1
  · cases (l.dispatcher.settle x ending).ended <;> exact (List.append_nil _).symm
  · cases (l.dispatcher.settle x ending).ended <;> exact (List.append_nil _).symm
  · refine hends.trans (congrArg (finishesOf l.registry l.ends ++ ·) ?_)
    cases (l.dispatcher.settle x ending).ended with
    | none => rfl
    | some y => cases hy : l.registry.hasPublisher y.place <;> simp [finishesOf, Service.ended, End.finish?, hy]
  · refine congrArg (l.log ++ ·) ?_
    cases (l.dispatcher.settle x ending).ended with
    | none => rfl
    | some y => exact List.append_nil _

/-- What runs are deliveries with different keys. -/
theorem Balanced.nodup_running [ToString ε] {limit : Nat} {l : Ledger P Snapshot ε} (h : Balanced limit l) :
    (l.dispatcher.running.map (·.key)).Nodup := by
  have hall := (h.started.map Delivery.key).nodup_iff.mp h.once
  rw [List.map_append] at hall
  exact (List.nodup_append.mp hall).1

theorem run_concat [ToString ε] (l : Ledger P Snapshot ε) (hs : List (Happening Snapshot ε)) (e : Happening Snapshot ε) :
    l.run (hs ++ [e]) = (l.run hs).step e :=
  List.foldl_append

/-- That a ledger has come from another while the service runs: by cycles, and by ends of deliveries by themselves. -/
inductive Serving [ToString ε] (l : Ledger P Snapshot ε) : Ledger P Snapshot ε → Prop where
  | refl : Serving l l
  | dispatch {l' : Ledger P Snapshot ε} (load : Snapshot) : Serving l l' → Serving l (l'.step (.dispatch load))
  | finish {l' : Ledger P Snapshot ε} (x : Delivery Snapshot) (ending : Ending ε) :
    Serving l l' → Serving l (l'.step (.finish x ending))

namespace Serving

variable [ToString ε] {l l' l'' : Ledger P Snapshot ε}

theorem trans (h : l.Serving l') (h' : l'.Serving l'') : l.Serving l'' := by
  induction h' with
  | refl => exact h
  | dispatch load _ ih => exact ih.dispatch load
  | finish x ending _ ih => exact ih.finish x ending

theorem exists_run (h : l.Serving l') : ∃ hs, l' = l.run hs := by
  induction h with
  | refl => exact ⟨[], rfl⟩
  | dispatch load _ ih =>
    obtain ⟨hs, rfl⟩ := ih
    exact ⟨hs ++ [.dispatch load], (run_concat l hs _).symm⟩
  | finish x ending _ ih =>
    obtain ⟨hs, rfl⟩ := ih
    exact ⟨hs ++ [.finish x ending], (run_concat l hs _).symm⟩

theorem registry_eq (h : l.Serving l') : l'.registry = l.registry := by
  induction h with
  | refl => rfl
  | dispatch load _ ih => exact ih
  | finish x ending _ ih => exact ih

/-- No delivery is stopped while the service runs. -/
theorem not_stopped (h : l.Serving l') (hnone : ∀ x, (x, .stopped) ∉ l.ends) (x : Delivery Snapshot) :
    (x, .stopped) ∉ l'.ends := by
  induction h with
  | refl => exact hnone x
  | dispatch load _ ih => exact ih
  | finish y ending _ ih =>
    intro hx
    rcases List.mem_append.mp hx with hx | hx
    · exact ih hx
    · obtain ⟨z, -, heq⟩ := List.mem_map.mp hx
      nomatch congrArg Prod.snd heq

/-- Only destinations that take part get deliveries. -/
theorem started (h : l.Serving l') {x : Delivery Snapshot} (hx : x ∈ l'.started) :
    x ∈ l.started ∨ l.registry.takesPart x.place = true := by
  induction h with
  | refl => exact Or.inl hx
  | dispatch load h ih =>
    rcases List.mem_append.mp hx with hx | hx
    · exact ih hx
    · obtain ⟨t, ht, rfl⟩ := Dispatcher.mem_started hx
      rw [h.registry_eq] at ht
      exact Or.inr (Registry.takesPart_of_mem ht)
  | finish y ending _ ih => exact ih hx

end Serving

end Ledger

/-! ## The account -/

namespace Service

variable {P P' S ε : Type} [ToString ε]

/-- That a ledger accounts for a service and its scene, whose trace began with `base`. The deliveries that were
started are those that were begun, with what their updates answered and when (`told`), and those that are still to
be begun (`pending`). -/
structure Account (base : Trace ε) (l : Ledger P' Snapshot ε) (told : List (Task ε)) (pending : List (Delivery Snapshot))
    (s : Service (Placed P) ε) (scene : Scene (Recorded S ε)) : Prop where
  balanced : ∃ limit, l.Balanced limit
  dispatcher_eq : l.dispatcher = s.dispatcher
  outline_eq : l.registry.outline = s.registry.outline
  isPlaced : s.registry.IsPlaced 0
  started_eq : l.started = told.map (·.delivery) ++ pending
  running_eq : s.dispatcher.running = s.tasks.map (·.delivery) ++ pending
  tasks_sublist : s.tasks.Sublist told
  begun_le : ∀ t ∈ told, t.begun ≤ s.clock
  inTime : ∀ x ending, (x, .byItself ending) ∈ l.ends →
    ∃ t ∈ told, t.delivery = x ∧ t.fate.ending = ending ∧ t.isDue s.clock = true
  trace_eq : scene.trace = base ++ l.trace told

/-- That there is an account of a service and its scene, whose ledger has come from another while the service ran. -/
def Serves (base : Trace ε) (l : Ledger P' Snapshot ε) (told : List (Task ε)) (pending : List (Delivery Snapshot))
    (s : Service (Placed P) ε) (scene : Scene (Recorded S ε)) : Prop :=
  ∃ l', l.Serving l' ∧ Account base l' told pending s scene

/-- So has what comes later. -/
theorem Serves.of_serving {base : Trace ε} {l l' : Ledger P' Snapshot ε} {told : List (Task ε)}
    {pending : List (Delivery Snapshot)} {s : Service (Placed P) ε} {scene : Scene (Recorded S ε)}
    (h : Serves base l' told pending s scene) (hl : l.Serving l') :
    Serves base l told pending s scene := by
  obtain ⟨l'', hl', haccount⟩ := h
  exact ⟨l'', hl.trans hl', haccount⟩

/-- So it is with deliveries that were begun before and after. -/
theorem Serves.of_serving_append {base : Trace ε} {l l' : Ledger P' Snapshot ε} {told more later : List (Task ε)}
    {pending : List (Delivery Snapshot)} {s : Service (Placed P) ε} {scene : Scene (Recorded S ε)}
    (h : Serves base l' (told ++ more ++ later) pending s scene) (hl : l.Serving l') :
    Serves base l (told ++ (more ++ later)) pending s scene := by
  rw [← List.append_assoc]
  exact h.of_serving hl

namespace Account

variable {base : Trace ε} {l : Ledger P' Snapshot ε} {told : List (Task ε)} {pending : List (Delivery Snapshot)}
  {s : Service (Placed P) ε} {scene : Scene (Recorded S ε)}

/-- The account of a service before anything has happened to it. -/
theorem opened {r : Registry P'} {registry : Registry (Placed P)} (houtline : r.outline = registry.outline)
    (hplaced : registry.IsPlaced 0) (limit grace : Nat) (intake : Intake) (scene : Scene (Recorded S ε)) :
    Account scene.trace (Ledger.opened r limit grace) [] [] { intake, registry, dispatcher := .ofLimit limit grace } scene where
  balanced := ⟨limit, Ledger.balanced_opened r limit grace⟩
  dispatcher_eq := rfl
  outline_eq := houtline
  isPlaced := hplaced
  started_eq := rfl
  running_eq := rfl
  tasks_sublist := List.Sublist.refl []
  begun_le := fun _ ht => nomatch ht
  inTime := fun _ _ hx => nomatch hx
  trace_eq := scene.trace.append_empty.symm

/-- The calls of publishers are those for the deliveries that were started. -/
theorem calls_eq (h : Account base l told [] s scene) :
    scene.outside.calls = base.calls ++ l.registry.updates l.started := by
  have hstarted := h.started_eq
  rw [List.append_nil] at hstarted
  rw [hstarted]
  exact congrArg Trace.calls h.trace_eq

theorem hasPublisher_eq (h : Account base l told pending s scene) : s.registry.hasPublisher = l.registry.hasPublisher :=
  (Registry.hasPublisher_congr h.outline_eq).symm

/-- No two deliveries that were begun, and none of them and one that is still to be begun, have one key. -/
theorem nodup_told (h : Account base l told pending s scene) :
    ((told.map (·.delivery)).map (·.key)).Nodup ∧ ∀ t ∈ told, ∀ y ∈ pending, y.isSame t.delivery = false := by
  obtain ⟨limit, hbalanced⟩ := h.balanced
  have honce := hbalanced.once
  rw [h.started_eq, List.map_append, List.nodup_append] at honce
  refine ⟨honce.1, fun t ht y hy => ?_⟩
  rw [← Bool.not_eq_true, Delivery.isSame_iff]
  exact fun heq => honce.2.2 _ (List.mem_map_of_mem (List.mem_map_of_mem ht)) _ (List.mem_map_of_mem hy) heq.symm

/-- A delivery has one task. -/
theorem task_unique (h : Account base l told pending s scene) {t u : Task ε} (ht : t ∈ told) (hu : u ∈ told)
    (hsame : t.delivery.isSame u.delivery = true) : t = u := by
  have hnodup := h.nodup_told.1
  rw [List.map_map] at hnodup
  exact List.inj_on_of_nodup_map hnodup ht hu (Delivery.isSame_iff.mp hsame)

/-- What runs is a task that was begun. -/
theorem exists_task (h : Account base l told [] s scene) {x : Delivery Snapshot} (hx : x ∈ s.dispatcher.running) :
    ∃ t ∈ s.tasks, t ∈ told ∧ t.delivery = x ∧ s.fateOf x = t.fateAt s.clock := by
  rw [h.running_eq, List.append_nil] at hx
  obtain ⟨t, ht, rfl⟩ := List.mem_map.mp hx
  have htold := h.tasks_sublist.subset ht
  refine ⟨t, ht, htold, rfl, ?_⟩
  obtain ⟨u, hfind⟩ : ∃ u, s.tasks.find? (·.delivery.isSame t.delivery) = some u :=
    Option.isSome_iff_exists.mp (List.find?_isSome.mpr ⟨t, ht, Delivery.isSame_iff.mpr rfl⟩)
  obtain ⟨hsame, before, after, hsplit, -⟩ := List.find?_eq_some_iff_append.mp hfind
  have hu : u ∈ s.tasks := hsplit ▸ List.mem_append_right before List.mem_cons_self
  rw [fateOf, hfind, h.task_unique (h.tasks_sublist.subset hu) htold hsame]
  rfl

/-! ### Beginnings and ends -/

/-- An account of what has come of a service with an account, while it runs. -/
theorem serves (h : Account base l told pending s scene) : Serves base l told pending s scene := ⟨l, .refl, h⟩

/-- Nothing has been begun since. -/
theorem serves_nil (h : Account base l told pending s scene) : Serves base l (told ++ []) pending s scene := by
  rw [List.append_nil]
  exact h.serves

theorem serves_finish {x : Delivery Snapshot} {ending : Ending ε}
    (h : Account base (l.step (.finish x ending)) told pending s scene) :
    Serves base l told pending s scene :=
  ⟨_, .finish x ending .refl, h⟩

/-- The clock goes on. -/
theorem later (h : Account base l told pending s scene) (milliseconds : Nat) :
    Account base l told pending { s with clock := s.clock + milliseconds } scene :=
  { h with
    begun_le := fun t ht => Nat.le_add_right_of_le (h.begun_le t ht)
    inTime := fun x ending hx => by
      obtain ⟨t, ht, hdelivery, hending, hdue⟩ := h.inTime x ending hx
      exact ⟨t, ht, hdelivery, hending, Task.isDue_mono hdue (Nat.le_add_right _ _)⟩ }

/-- What else the service takes in, and what leaves no trace, is no matter. -/
theorem elsewhere (h : Account base l told pending s scene) (intake : Intake) {scene' : Scene (Recorded S ε)}
    (hscene : scene'.trace = scene.trace) : Account base l told pending { s with intake } scene' :=
  { h with trace_eq := hscene.trans h.trace_eq }

/-- A delivery ends by itself, as its update answered and at its time. -/
theorem settle (b : Behavior P S ε) (h : Account base l told pending s scene) {x : Delivery Snapshot} {ending : Ending ε}
    (htold : ∀ t ∈ told, t.delivery.isSame x = true → t.fate.ending = ending ∧ t.isDue s.clock = true)
    (hpending : ∀ y ∈ pending, y.isSame x = false) :
    let after := (s.settle b.recorded x ending).run scene
    Account base (l.step (.finish x ending)) told pending after.1 after.2 := by
  intro after
  obtain ⟨limit, hbalanced⟩ := h.balanced
  have hafter := s.settle_eq b.recorded x ending scene
  have hkeys : (s.dispatcher.running.map (·.key)).Nodup := h.dispatcher_eq ▸ hbalanced.nodup_running
  have hdispatcher : (l.step (.finish x ending)).dispatcher = (s.dispatcher.settle x ending).dispatcher :=
    congrArg (fun d => (Dispatcher.settle d x ending).dispatcher) h.dispatcher_eq
  have hended : ∀ y ∈ (s.dispatcher.settle x ending).ended, ∃ t ∈ told, t.delivery = y ∧ t.delivery.isSame x = true := by
    intro y hy
    obtain ⟨-, heq⟩ | ⟨z, before, rest, -, hsame, hsplit, heq⟩ := s.dispatcher.settle_cases x ending
    · rw [heq] at hy
      nomatch hy
    · rw [heq] at hy
      obtain rfl := Option.some.inj hy
      have hz : z ∈ s.tasks.map (·.delivery) ++ pending := by
        rw [← h.running_eq, hsplit]
        exact List.mem_append_right before List.mem_cons_self
      rcases List.mem_append.mp hz with hz | hz
      · obtain ⟨t, ht, rfl⟩ := List.mem_map.mp hz
        exact ⟨t, h.tasks_sublist.subset ht, rfl, hsame⟩
      · exact absurd (hsame.symm.trans (hpending z hz)) (by decide)
  constructor
  case balanced => exact ⟨limit, hbalanced.finish x ending⟩
  case dispatcher_eq =>
    rw [hafter]
    exact hdispatcher
  case outline_eq =>
    rw [hafter]
    exact h.outline_eq
  case isPlaced =>
    rw [hafter]
    exact h.isPlaced
  case started_eq => exact h.started_eq
  case running_eq =>
    have hstay : pending.filter (fun y => !y.isSame x) = pending :=
      List.filter_eq_self.mpr fun y hy => by rw [hpending y hy]; rfl
    rw [hafter]
    dsimp only
    rw [Dispatcher.running_settle hkeys, h.running_eq, List.filter_append, hstay, List.filter_map]
    rfl
  case tasks_sublist =>
    rw [hafter]
    exact List.filter_sublist.trans h.tasks_sublist
  case begun_le =>
    rw [hafter]
    exact h.begun_le
  case inTime =>
    intro y how hy
    rw [hafter]
    rcases List.mem_append.mp hy with hy | hy
    · exact h.inTime y how hy
    · obtain ⟨z, hz, heq⟩ := List.mem_map.mp hy
      obtain ⟨rfl, hhow⟩ := Prod.mk.inj heq
      obtain rfl := End.byItself.inj hhow
      rw [h.dispatcher_eq, Option.mem_toList] at hz
      obtain ⟨t, ht, rfl, hsame⟩ := hended z hz
      obtain ⟨hending, hdue⟩ := htold t ht hsame
      exact ⟨t, ht, rfl, hending, hdue⟩
  case trace_eq =>
    obtain ⟨more, hmore, rfl⟩ := settle_makes b h.isPlaced x ending scene
    rw [hmore, h.trace_eq, Ledger.trace_finish, h.dispatcher_eq, ended_congr h.outline_eq, Trace.append_assoc]

/-- A delivery is begun, and ends at once if its update says so. -/
theorem begin (b : Behavior P S ε) {x : Delivery Snapshot} {rest : List (Delivery Snapshot)}
    (h : Account base l told (x :: rest) s scene) :
    let after := (s.begin b.recorded x).run scene
    ∃ fate, Serves base l (told ++ [⟨x, s.clock, fate⟩]) rest after.1 after.2 := by
  intro after
  let updated := (s.registry.updateAt b.recorded x.load x.place).run scene
  let fate := updated.1.2
  let t : Task ε := ⟨x, s.clock, fate⟩
  let begun : Service (Placed P) ε := { s with registry := updated.1.1, tasks := s.tasks ++ [t] }
  have houtline : Registry.outline updated.1.1 = s.registry.outline := s.registry.updateAt_outline b.recorded x.load x.place scene
  obtain ⟨more, hmore, hcall, hplaced⟩ := Registry.updateAt_makes b x.load x.place h.isPlaced scene
  have hbegun : Account base l (told ++ [t]) rest begun updated.2 := by
    constructor
    case balanced => exact h.balanced
    case dispatcher_eq => exact h.dispatcher_eq
    case outline_eq => exact h.outline_eq.trans houtline.symm
    case isPlaced => exact hplaced
    case started_eq =>
      rw [h.started_eq, List.map_append, List.append_assoc]
      rfl
    case running_eq =>
      rw [List.map_append, List.append_assoc]
      exact h.running_eq
    case tasks_sublist => exact h.tasks_sublist.append (List.Sublist.refl _)
    case begun_le =>
      intro u hu
      rcases List.mem_append.mp hu with hu | hu
      · exact h.begun_le u hu
      · rw [List.mem_singleton.mp hu]
    case inTime =>
      intro y ending hy
      obtain ⟨u, hu, hrest⟩ := h.inTime y ending hy
      exact ⟨u, List.mem_append_left _ hu, hrest⟩
    case trace_eq =>
      rw [hmore, h.trace_eq, hcall, Ledger.trace_concat, Trace.append_assoc, h.hasPublisher_eq, Nat.zero_add]
  have hrun : after = (if fate.left = some 0 then begun.settle b.recorded x fate.ending else return begun :
      Action (Recorded S ε) (Service (Placed P) ε)).run updated.2 := rfl
  rw [hrun]
  by_cases hnow : fate.left = some 0
  · rw [if_pos hnow]
    refine ⟨fate, (hbegun.settle b ?_ ?_).serves_finish⟩
    · intro u hu hsame
      obtain rfl : u = t := hbegun.task_unique hu (List.mem_append_right told List.mem_cons_self) hsame
      exact ⟨rfl, Task.isDue_iff.mpr ⟨0, hnow, Nat.le_refl _⟩⟩
    · exact hbegun.nodup_told.2 t (List.mem_append_right told List.mem_cons_self)
  · rw [if_neg hnow]
    exact ⟨fate, hbegun.serves⟩

/-- Deliveries are begun one after another. -/
theorem beginAll (b : Behavior P S ε) {xs : List (Delivery Snapshot)} (h : Account base l told xs s scene) :
    let after := (xs.foldlM (Service.begin b.recorded) s).run scene
    ∃ more, Serves base l (told ++ more) [] after.1 after.2 ∧ more.map (·.delivery) = xs ∧ ∀ t ∈ more, t.begun = s.clock := by
  let I (rest : List (Delivery Snapshot)) (s' : Service (Placed P) ε) (scene' : Scene (Recorded S ε)) : Prop :=
    ∃ more, Serves base l (told ++ more) rest s' scene' ∧ more.map (·.delivery) ++ rest = xs ∧
      (∀ t ∈ more, t.begun = s.clock) ∧ s'.clock = s.clock
  have hstep : ∀ s' x rest scene', I (x :: rest) s' scene' →
      I rest ((Service.begin b.recorded s' x).run scene').1 ((Service.begin b.recorded s' x).run scene').2 := by
    rintro s' x rest scene' ⟨more, hserves, hxs, hbegun, hclock⟩
    obtain ⟨l', hl, haccount⟩ := hserves
    obtain ⟨fate, hnext⟩ := haccount.begin b
    refine ⟨more ++ [⟨x, s'.clock, fate⟩], hnext.of_serving_append hl, ?_, ?_,
      (begin_keeps b.recorded s' x scene').clock.trans hclock⟩
    · rw [← hxs, List.map_append, List.append_assoc]
      rfl
    · intro t ht
      rcases List.mem_append.mp ht with ht | ht
      · exact hbegun t ht
      · rw [List.mem_singleton.mp ht]
        exact hclock
  have hbegin : I xs s scene := ⟨[], h.serves_nil, rfl, fun _ ht => (nomatch ht), rfl⟩
  obtain ⟨more, hserves, hxs, hbegun, -⟩ := Action.foldlM_induct hstep hbegin
  exact ⟨more, hserves, (List.append_nil _).symm.trans hxs, hbegun⟩

/-- A cycle begins what the dispatcher starts. -/
theorem dispatch (b : Behavior P S ε) (h : Account base l told [] s scene) (o : Snapshot) :
    let after := (s.dispatch b.recorded o).run scene
    ∃ more, Serves base l (told ++ more) [] after.1 after.2 ∧
      more.map (·.delivery) = (s.dispatcher.dispatch s.registry.targets o).started ∧
      ∀ t ∈ more, t.begun = s.clock ∧ t.delivery.cycle = s.dispatcher.cycle + 1 := by
  let r := s.dispatcher.dispatch s.registry.targets o
  let noted := ((Scene.noteAs .dispatcher r.log).run scene).2
  have hsame : l.dispatcher.dispatch l.registry.targets o = r := by
    rw [h.dispatcher_eq, Registry.targets_congr h.outline_eq]
  have hbegin : Account base (l.step (.dispatch o)) told r.started { s with dispatcher := r.dispatcher } noted := by
    obtain ⟨limit, hbalanced⟩ := h.balanced
    constructor
    case balanced => exact ⟨limit, hbalanced.dispatch o⟩
    case dispatcher_eq => exact congrArg Dispatched.dispatcher hsame
    case outline_eq => exact h.outline_eq
    case isPlaced => exact h.isPlaced
    case started_eq =>
      have hstarted := h.started_eq
      rw [List.append_nil] at hstarted
      exact congr (congrArg (· ++ ·) hstarted) (congrArg Dispatched.started hsame)
    case running_eq =>
      have heq : r = _ := s.dispatcher.dispatch_eq s.registry.targets o
      have hrunning := h.running_eq
      rw [List.append_nil] at hrunning
      rw [heq, ← hrunning]
    case tasks_sublist => exact h.tasks_sublist
    case begun_le => exact h.begun_le
    case inTime => exact h.inTime
    case trace_eq =>
      obtain ⟨more, hmore, rfl⟩ := Action.makes_noteAs r.log scene
      have hlog : (l.step (.dispatch o)).log = l.log ++ r.log :=
        congrArg (fun t : Dispatched Snapshot => l.log ++ t.log) hsame
      rw [hmore, h.trace_eq, Trace.append_assoc]
      congr 1
      ext1
      · exact List.append_nil _
      · exact List.append_nil _
      · exact List.append_nil _
      · exact hlog.symm
  obtain ⟨more, hserves, hmore, hbegun⟩ := hbegin.beginAll b
  refine ⟨more, hserves.of_serving (.dispatch o .refl), hmore, fun t ht => ⟨hbegun t ht, ?_⟩⟩
  have hstarted : t.delivery ∈ r.started := hmore ▸ List.mem_map_of_mem ht
  obtain ⟨target, -, heq⟩ := Dispatcher.mem_started hstarted
  rw [← heq]

/-- Time passes, and what has come to its end ends. -/
theorem elapse (b : Behavior P S ε) (h : Account base l told [] s scene) (milliseconds : Nat) :
    let after := (s.elapse b.recorded milliseconds).run scene
    Serves base l told [] after.1 after.2 := by
  let clock := s.clock + milliseconds
  let I (rest : List (Task ε)) (s' : Service (Placed P) ε) (scene' : Scene (Recorded S ε)) : Prop :=
    Serves base l told [] s' scene' ∧ s'.clock = clock ∧ ∀ t ∈ rest, t ∈ told ∧ t.isDue clock = true
  have hstep : ∀ (s' : Service (Placed P) ε) (t : Task ε) rest scene', I (t :: rest) s' scene' →
      let after := (s'.settle b.recorded t.delivery t.fate.ending).run scene'
      I rest after.1 after.2 := by
    rintro s' t rest scene' ⟨⟨l', hl, haccount⟩, hclock, hdue⟩
    obtain ⟨ht, hnow⟩ := hdue t List.mem_cons_self
    refine ⟨?_, (s'.settle_keeps b.recorded t.delivery t.fate.ending scene').clock.trans hclock,
      fun u hu => hdue u (List.mem_cons_of_mem t hu)⟩
    refine (haccount.settle b ?_ fun y hy => nomatch hy).serves_finish.of_serving hl
    intro u hu hsame
    obtain rfl : u = t := haccount.task_unique hu ht hsame
    exact ⟨rfl, hclock ▸ hnow⟩
  have hbegin : I ((s.tasks.filter (·.isDue clock)).mergeSort fun t u => (t.fateAt 0).isSooner (u.fateAt 0))
      { s with clock } scene := by
    refine ⟨(h.later milliseconds).serves, rfl, fun t ht => ?_⟩
    rw [(List.mergeSort_perm _ _).mem_iff, List.mem_filter] at ht
    exact ⟨h.tasks_sublist.subset ht.1, ht.2⟩
  exact (Action.foldlM_induct hstep hbegin).1

/-- An event begins deliveries only of a cycle that it counts. -/
theorem step (b : Behavior P S ε) (h : Account base l told [] s scene) (e : Event) :
    let after := (s.step b.recorded e).run scene
    ∃ more, Serves base l (told ++ more) [] after.1 after.2 ∧
      ∀ t ∈ more, t.begun = s.clock ∧ t.delivery.cycle = s.dispatcher.cycle + 1 := by
  have hnone : ∀ {s' : Service (Placed P) ε} {scene' : Scene (Recorded S ε)}, Serves base l told [] s' scene' →
      ∃ more, Serves base l (told ++ more) [] s' scene' ∧
        ∀ t ∈ more, t.begun = s.clock ∧ t.delivery.cycle = s.dispatcher.cycle + 1 :=
    fun hserves => ⟨[], by rwa [List.append_nil], fun _ ht => nomatch ht⟩
  intro after
  cases e with
  | datagram bytes now utc =>
    refine hnone (h.elsewhere _ ?_).serves
    exact congrArg (Trace.mk _ _ _) ((scene.linesOf_notingAs .dispatcher .service _).trans (List.append_nil _))
  | turn =>
    have hstep : s.step b.recorded .turn = s.turn b.recorded := rfl
    simp only [after, hstep, turn]
    split
    · exact hnone h.serves
    · rename_i o queue _
      obtain ⟨more, hserves, -, hbegun⟩ := (h.elsewhere { s.intake with queue } rfl).dispatch b o
      exact ⟨more, hserves, hbegun⟩
  | elapse milliseconds => exact hnone (h.elapse b milliseconds)

/-- Whatever happens to a service, deliveries are begun when their cycle is counted. -/
theorem steps (b : Behavior P S ε) (h : Account base l told [] s scene) (events : List Event) :
    let after := (s.steps b.recorded events).run scene
    ∃ more, Serves base l (told ++ more) [] after.1 after.2 ∧
      ∀ t ∈ more, ∃ before rest, events = before ++ rest ∧
        let met := ((s.steps b.recorded before).run scene).1
        t.begun = met.clock ∧ t.delivery.cycle = met.dispatcher.cycle + 1 := by
  induction events generalizing l told s scene with
  | nil => exact ⟨[], h.serves_nil, fun _ ht => nomatch ht⟩
  | cons e rest ih =>
    obtain ⟨more, ⟨l', hl, hnext⟩, hbegun⟩ := h.step b e
    obtain ⟨later, hserves, hlater⟩ := ih hnext
    refine ⟨more ++ later, hserves.of_serving_append hl, fun t ht => ?_⟩
    rcases List.mem_append.mp ht with ht | ht
    · exact ⟨[], e :: rest, rfl, hbegun t ht⟩
    · obtain ⟨before, remaining, hsplit, hmet⟩ := hlater t ht
      exact ⟨e :: before, remaining, congrArg (e :: ·) hsplit, hmet⟩

/-- When nothing more comes in, deliveries are begun for what the queue still holds. -/
theorem close (b : Behavior P S ε) (h : Account base l told [] s scene) :
    let after := (s.close b.recorded).run scene
    ∃ more, Serves base l (told ++ more) [] after.1 after.2 ∧ after.1.clock = s.clock ∧
      ∀ t ∈ more, t.begun = s.clock ∧ s.dispatcher.cycle < t.delivery.cycle := by
  let I (s' : Service (Placed P) ε) (scene' : Scene (Recorded S ε)) : Prop :=
    ∃ more, Serves base l (told ++ more) [] s' scene' ∧ s'.clock = s.clock ∧ s.dispatcher.cycle ≤ s'.dispatcher.cycle ∧
      ∀ t ∈ more, t.begun = s.clock ∧ s.dispatcher.cycle < t.delivery.cycle
  have hstep : ∀ s' o (rest : List Snapshot) scene', I s' scene' →
      I ((Service.dispatch b.recorded s' o).run scene').1 ((Service.dispatch b.recorded s' o).run scene').2 := by
    rintro s' o rest scene' ⟨more, ⟨l', hl, haccount⟩, hclock, hcycle, hbegun⟩
    obtain ⟨later, hserves, -, hlater⟩ := haccount.dispatch b o
    have hkeeps := dispatch_keeps b.recorded s' o scene'
    have hcounted : ((Service.dispatch b.recorded s' o).run scene').1.dispatcher.cycle = s'.dispatcher.cycle + 1 := hkeeps.cycle
    refine ⟨more ++ later, hserves.of_serving_append hl, hkeeps.clock.trans hclock, ?_, ?_⟩
    · omega
    · intro t ht
      rcases List.mem_append.mp ht with ht | ht
      · exact hbegun t ht
      · obtain ⟨hnow, heq⟩ := hlater t ht
        exact ⟨hnow.trans hclock, by omega⟩
  have hnoted : ((Scene.note [shutdownLine]).run scene).2.trace = scene.trace :=
    congrArg (Trace.mk _ _ _) ((scene.linesOf_notingAs .dispatcher .service _).trans (List.append_nil _))
  have hbegin : I s ((Scene.note [shutdownLine]).run scene).2 :=
    ⟨[], (h.elsewhere s.intake hnoted).serves_nil, rfl, Nat.le_refl _, fun _ ht => nomatch ht⟩
  have hend : I ((s.close b.recorded).run scene).1 ((s.close b.recorded).run scene).2 :=
    Action.foldlM_induct (I := fun _ => I) (fun s' o rest scene' => hstep s' o rest scene') hbegin
  obtain ⟨more, hserves, hclock, -, hbegun⟩ := hend
  exact ⟨more, hserves, hclock, hbegun⟩

/-- The wait at the end: what comes to its end in time ends as its update answered, and the rest is stopped. -/
theorem drain (b : Behavior P S ε) (h : Account base l told [] s scene) :
    let after := (s.drain b.recorded).run scene
    Account base (l.step (.drain s.fateOf)) told [] after.1 after.2 := by
  intro after
  let plan := s.dispatcher.drain s.fateOf
  have hplan : l.dispatcher.drain s.fateOf = plan := by rw [h.dispatcher_eq]
  have hafter : after.1 = { s with dispatcher := plan.dispatcher, clock := s.clock + plan.waited, tasks := [] } := rfl
  obtain ⟨limit, hbalanced⟩ := h.balanced
  constructor
  case balanced => exact ⟨limit, hbalanced.drain s.fateOf⟩
  case dispatcher_eq => exact congrArg Drained.dispatcher hplan
  case outline_eq => exact h.outline_eq
  case isPlaced => exact h.isPlaced
  case started_eq => exact h.started_eq
  case running_eq => exact congrArg Dispatcher.running (s.dispatcher.drain_dispatcher s.fateOf)
  case tasks_sublist => exact List.nil_sublist told
  case begun_le => exact fun t ht => Nat.le_add_right_of_le (h.begun_le t ht)
  case inTime =>
    intro x how hx
    rcases List.mem_append.mp hx with hx | hx
    · exact (h.later plan.waited).inTime x how hx
    · rw [hplan] at hx
      obtain ⟨fate, hended, rfl⟩ := Drained.mem_ends_byItself.mp hx
      obtain ⟨hruns, heq, -⟩ := Dispatcher.of_mem_drain_ended hended
      have hwaited := Dispatcher.remaining_le_waited hended
      obtain ⟨t, -, ht, rfl, hfate⟩ := h.exists_task hruns
      dsimp only at heq hwaited
      rw [← heq, hfate]
      rw [hfate] at hwaited
      exact ⟨t, ht, rfl, rfl, Task.isDue_add hwaited⟩
  case trace_eq =>
    obtain ⟨more, hmore, rfl⟩ := drain_makes b h.isPlaced scene
    rw [hmore, h.trace_eq, Trace.append_assoc]
    congr 1
    ext1
    · exact List.append_nil _
    · exact List.append_nil _
    · have hends : (l.step (.drain s.fateOf)).ends = l.ends ++ plan.ends := congrArg (fun r => l.ends ++ Drained.ends r) hplan
      have hfinishes := Ledger.finishesOf_append l.registry l.ends plan.ends
      rw [Ledger.finishesOf_drain, ended_congr h.outline_eq] at hfinishes
      exact ((congrArg (Ledger.finishesOf l.registry) hends).trans hfinishes).symm
    · exact congrArg (fun r : Drained Snapshot ε => l.log ++ r.log) hplan.symm

end Account

/-! ## In time -/

/-- That no delivery under way has come to its end. -/
def Punctual {P : Type} (s : Service P ε) : Prop := ∀ t ∈ s.tasks, t.isDue s.clock = false

section

variable {P : Type} (b : Behavior P S ε)

/-- A delivery that ends at once has ended when it is begun. -/
theorem begin_punctual {s : Service P ε} (h : s.Punctual) (x : Delivery Snapshot) :
    Action.Yields (s.begin b x) Punctual := by
  unfold Service.begin
  refine Action.Yields.bind ?_
  rintro ⟨registry, fate⟩
  dsimp only
  split
  · intro scene t ht
    rw [settle_eq b _ x fate.ending scene] at ht ⊢
    obtain ⟨hmem, hother⟩ := List.mem_filter.mp ht
    rcases List.mem_append.mp hmem with hmem | hmem
    · exact h t hmem
    · rw [List.mem_singleton.mp hmem, Delivery.isSame_iff.mpr rfl] at hother
      nomatch hother
  · rename_i hlater
    apply Action.Yields.pure
    intro t ht
    rcases List.mem_append.mp ht with ht | ht
    · exact h t ht
    · rw [List.mem_singleton.mp ht, ← Bool.not_eq_true, Task.isDue_iff]
      rintro ⟨left, hleft, hdue⟩
      change s.clock + left ≤ s.clock at hdue
      obtain rfl : left = 0 := by omega
      exact hlater hleft

theorem dispatch_punctual {s : Service P ε} (h : s.Punctual) (o : Snapshot) : Action.Yields (s.dispatch b o) Punctual := by
  unfold Service.dispatch
  refine Action.Yields.bind fun _ => ?_
  exact Action.Yields.foldlM (P := fun _ => Punctual) (fun s' x _ h => begin_punctual b h x) h

/-- When time has passed, what had come to its end has ended. -/
theorem elapse_punctual (s : Service P ε) (milliseconds : Nat) : Action.Yields (s.elapse b milliseconds) Punctual := by
  let clock := s.clock + milliseconds
  -- what is due is still to be settled
  let I (rest : List (Task ε)) (s' : Service P ε) : Prop := s'.clock = clock ∧ ∀ t ∈ s'.tasks, t.isDue clock = true → t ∈ rest
  have hstep : ∀ (s' : Service P ε) (t : Task ε) rest, I (t :: rest) s' →
      Action.Yields (s'.settle b t.delivery t.fate.ending) (I rest) := by
    rintro s' t rest ⟨hclock, hdue⟩ scene
    rw [s'.settle_eq b t.delivery t.fate.ending scene]
    refine ⟨hclock, fun u hu hnow => ?_⟩
    obtain ⟨hu, hother⟩ := List.mem_filter.mp hu
    rcases List.mem_cons.mp (hdue u hu hnow) with rfl | hrest
    · rw [Delivery.isSame_iff.mpr rfl] at hother
      nomatch hother
    · exact hrest
  have hbegin : I ((s.tasks.filter (·.isDue clock)).mergeSort fun t u => (t.fateAt 0).isSooner (u.fateAt 0)) { s with clock } :=
    ⟨rfl, fun t ht hnow => (List.mergeSort_perm _ _).mem_iff.mpr (List.mem_filter.mpr ⟨ht, hnow⟩)⟩
  intro scene
  obtain ⟨hclock, hdue⟩ := Action.Yields.foldlM hstep hbegin scene
  intro t ht
  rw [Bool.eq_false_iff, ne_eq, show ((s.elapse b milliseconds).run scene).1.clock = clock from hclock]
  exact fun hnow => nomatch hdue t ht hnow

theorem step_punctual {s : Service P ε} (h : s.Punctual) (e : Event) : Action.Yields (s.step b e) Punctual := by
  cases e with
  | datagram bytes now utc =>
    intro scene
    exact h
  | turn =>
    have hstep : s.step b .turn = s.turn b := rfl
    rw [hstep, turn]
    split
    · exact Action.Yields.pure h
    · rename_i o queue _
      exact dispatch_punctual (s := { s with intake := { s.intake with queue } }) b h o
  | elapse milliseconds => exact s.elapse_punctual b milliseconds

theorem steps_punctual {s : Service P ε} (h : s.Punctual) (events : List Event) :
    Action.Yields (s.steps b events) Punctual :=
  Action.Yields.foldlM (P := fun _ => Punctual) (fun _ e _ h => step_punctual b h e) h

end

end Service

end WeatherRelay
