import WeatherRelay.Proofs.Dispatch.Steps

/-!
# The ledger of a dispatcher

Anything may happen to a dispatcher in any order: loads are dispatched, what has ended is collected, the dispatcher
waits for what runs, destinations are taken out, and deliveries end. A ledger is a dispatcher with its destinations and
its log, and beside them what was started, how it ended, what was collected, and what the dispatcher remarked. At every
moment it is balanced (`Balanced`): what was started runs or has ended, once; what has ended is collected or waits for
that; and the log is made of the lines about the ends and of the remarks.
-/

namespace WeatherRelay

/-- How a delivery has ended: by itself, or because it was stopped. -/
inductive End (ε : Type) where
  | byItself (ending : Ending ε)
  | stopped

/-- What a dispatcher says of its own: that there was no room for a target, how many deliveries it waits for,
and how many it stops. -/
inductive Remark where
  | refused (cycle : Nat) (t : Target) (inFlight : Nat)
  | waiting (grace count : Nat)
  | stopping (count : Nat)

/-- What happens to a dispatcher and its destinations. -/
inductive Happening (α ε : Type) where
  | dispatch (load : α)
  | reap
  | drain (fate : Delivery α → Fate ε)
  | disable (place : Nat)
  | finish (x : Delivery α) (ending : Ending ε)

/-- A dispatcher with its destinations and its log, and what has become of the deliveries. -/
structure Ledger (P α ε : Type) where
  registry : Registry P
  dispatcher : Dispatcher α
  started : List (Delivery α) := []
  ends : List (Delivery α × End ε) := []
  collected : List (Delivery α × Joined) := []
  remarks : List Remark := []
  log : List LogLine := []

/-- The lines about the end of a delivery; one that is stopped leaves none. -/
def End.lines {α ε : Type} [ToString ε] (x : Delivery α) : End ε → List LogLine
  | .byItself ending => ending.lines x
  | .stopped => []

/-- The line of a remark. -/
def Remark.line : Remark → LogLine
  | .refused cycle t inFlight =>
    .error s!"[Dispatch] cycle {cycle}: cannot start {t.name}, {inFlight} deliveries still running"
  | .waiting grace count => .info s!"[Dispatch] waiting up to {grace}s for {count} deliveries"
  | .stopping count => .warn s!"[Dispatch] grace period over, aborting {count} deliveries"

/-- What is remarked in a cycle. -/
def Dispatched.remarks {α : Type} (ts : List Target) (r : Dispatched α) : List Remark :=
  (ts.drop r.started.length).map fun t => .refused r.dispatcher.cycle t r.dispatcher.inFlight

namespace Drained

variable {α ε : Type}

/-- What is remarked in a drain. -/
def remarks (d : Dispatcher α) (r : Drained α ε) : List Remark :=
  (if d.running.isEmpty then [] else [.waiting d.grace d.running.length]) ++
    if r.stopped.isEmpty then [] else [.stopping r.stopped.length]

/-- How deliveries end in a drain. -/
def ends (r : Drained α ε) : List (Delivery α × End ε) :=
  r.ended.map (fun x => (x.1, .byItself x.2.ending)) ++ r.stopped.map fun x => (x, .stopped)

theorem mem_ends_byItself {r : Drained α ε} {x : Delivery α} {ending : Ending ε} :
    (x, .byItself ending) ∈ r.ends ↔ ∃ fate, (x, fate) ∈ r.ended ∧ fate.ending = ending := by
  simp only [ends, List.mem_append, List.mem_map]
  constructor
  · rintro (⟨⟨y, fate⟩, hended, heq⟩ | ⟨y, -, heq⟩)
    · obtain ⟨rfl, hending⟩ := Prod.mk.inj heq
      exact ⟨fate, hended, End.byItself.inj hending⟩
    · nomatch congrArg Prod.snd heq
  · rintro ⟨fate, hended, rfl⟩
    exact Or.inl ⟨(x, fate), hended, rfl⟩

/-- What is collected in a drain. -/
def collected [ToString ε] (r : Drained α ε) : List (Delivery α × Joined) :=
  r.ended.map (fun x => (x.1, x.2.ending.joined x.1)) ++ r.stopped.map fun x => (x, .cancelled)

end Drained

namespace Ledger

variable {P α ε : Type}

/-- A new dispatcher. -/
def opened (registry : Registry P) (limit grace : Nat) : Ledger P α ε := { registry, dispatcher := .ofLimit limit grace }

/-- The ends of one delivery. -/
def endsOf (l : Ledger P α ε) (x : Delivery α) : List (Delivery α × End ε) := l.ends.filter (·.1.isSame x)

variable [ToString ε]

/-- What a happening does. -/
def step (l : Ledger P α ε) : Happening α ε → Ledger P α ε
  | .dispatch load =>
    let r := l.dispatcher.dispatch l.registry.targets load
    { l with
      dispatcher := r.dispatcher
      started := l.started ++ r.started
      collected := l.collected ++ l.dispatcher.ended
      remarks := l.remarks ++ r.remarks l.registry.targets
      log := l.log ++ r.log }
  | .reap =>
    { l with
      dispatcher := l.dispatcher.reap
      collected := l.collected ++ l.dispatcher.ended
      log := l.log ++ l.dispatcher.reapLines }
  | .drain fate =>
    let r := l.dispatcher.drain fate
    { l with
      dispatcher := r.dispatcher
      ends := l.ends ++ r.ends
      collected := l.collected ++ l.dispatcher.ended ++ r.collected
      remarks := l.remarks ++ r.remarks l.dispatcher
      log := l.log ++ r.log }
  | .disable place => { l with registry := l.registry.modify place Destination.disable }
  | .finish x ending =>
    let r := l.dispatcher.settle x ending
    { l with
      dispatcher := r.dispatcher
      ends := l.ends ++ r.ended.toList.map fun y => (y, .byItself ending)
      log := l.log ++ r.ended.toList.flatMap fun y => ending.lines y }

/-- What happenings do one after another. -/
def run (l : Ledger P α ε) (hs : List (Happening α ε)) : Ledger P α ε := hs.foldl step l

/-- That a ledger is in order. -/
structure Balanced (limit : Nat) (l : Ledger P α ε) : Prop where
  limit_eq : l.dispatcher.limit = max limit 1
  fits : l.dispatcher.inFlight ≤ l.dispatcher.limit
  started : l.started.Perm (l.dispatcher.running ++ l.ends.map (·.1))
  ended : (l.ends.map (·.1)).Perm (l.dispatcher.ended.map (·.1) ++ l.collected.map (·.1))
  once : (l.started.map (·.key)).Nodup
  recent : ∀ x ∈ l.started, x.cycle ≤ l.dispatcher.cycle
  contained : ∀ x ∈ l.dispatcher.ended ++ l.collected, x.2.lines = []
  told : l.log.Perm (l.ends.flatMap (fun x => x.2.lines x.1) ++ l.remarks.map Remark.line)

/-! ## The lines of a step -/

/-- What a cycle logs is about tasks that are collected, or remarked. -/
theorem dispatch_log (d : Dispatcher α) (ts : List Target) (load : α) :
    (d.dispatch ts load).log = d.reapLines ++ ((d.dispatch ts load).remarks ts).map Remark.line := by
  have heq := d.dispatch_eq ts load
  dsimp only at heq
  rw [heq, Dispatched.remarks, List.length_map, List.length_take, ← List.drop_eq_drop_min, List.map_map]
  rfl

/-- What a drain logs is about tasks that are collected, or about ends, or remarked. -/
theorem drain_log_perm (d : Dispatcher α) (fate : Delivery α → Fate ε) :
    (d.drain fate).log.Perm (d.reapLines ++ ((d.drain fate).ends.flatMap (fun x => x.2.lines x.1) ++
      ((d.drain fate).remarks d).map Remark.line)) := by
  have hends : (d.drain fate).ends.flatMap (fun x => x.2.lines x.1) =
      (d.drain fate).ended.flatMap (fun x => x.2.ending.lines x.1) := by
    simp [Drained.ends, List.flatMap_map, End.lines]
  have hremarks : ((d.drain fate).remarks d).map Remark.line =
      (if d.running.isEmpty then [] else
        [.info s!"[Dispatch] waiting up to {d.grace}s for {d.running.length} deliveries"]) ++
      if (d.drain fate).stopped.isEmpty then [] else
        [.warn s!"[Dispatch] grace period over, aborting {(d.drain fate).stopped.length} deliveries"] := by
    rw [Drained.remarks, List.map_append]
    congr 1
    · split <;> rfl
    · split <;> rfl
  rw [d.drain_log fate, hends, hremarks, List.append_assoc, List.append_assoc]
  exact List.perm_append_comm_assoc _ _ _ |>.append_left _

/-- What it comes to that a delivery ends: nothing if it does not run, else it goes from those that run to the ends. -/
theorem finish_step_cases (l : Ledger P α ε) (x : Delivery α) (ending : Ending ε) :
    l.step (.finish x ending) = l ∨
      ∃ y before after, y.isSame x = true ∧ l.dispatcher.running = before ++ y :: after ∧
        l.step (.finish x ending) =
          { l with
            dispatcher :=
              { l.dispatcher with running := before ++ after, ended := l.dispatcher.ended ++ [(y, ending.joined y)] }
            ends := l.ends ++ [(y, .byItself ending)]
            log := l.log ++ ending.lines y } := by
  obtain ⟨-, heq⟩ | ⟨y, before, after, -, hsame, hsplit, heq⟩ := l.dispatcher.settle_cases x ending
  · left
    simp [step, heq]
  · refine Or.inr ⟨y, before, after, hsame, hsplit, ?_⟩
    simp [step, heq]

/-! ## What every happening preserves -/

variable {limit : Nat} {l : Ledger P α ε}

theorem balanced_opened (registry : Registry P) (limit grace : Nat) :
    (opened registry limit grace : Ledger P α ε).Balanced limit where
  limit_eq := rfl
  fits := Nat.zero_le _
  started := List.Perm.refl _
  ended := List.Perm.refl _
  once := List.nodup_nil
  recent := fun _ hx => nomatch hx
  contained := fun _ hx => nomatch hx
  told := List.Perm.refl _

/-- No line is about a task that is collected. -/
theorem Balanced.reapLines (h : Balanced limit l) : l.dispatcher.reapLines = [] := by
  unfold Dispatcher.reapLines
  rw [List.flatMap_eq_nil_iff]
  exact fun x hx => h.contained x (List.mem_append_left _ hx)

/-- What has ended is collected. -/
theorem Balanced.collect (h : Balanced limit l) :
    (l.ends.map (·.1)).Perm ((l.collected ++ l.dispatcher.ended).map (·.1)) := by
  rw [List.map_append]
  exact h.ended.trans List.perm_append_comm

theorem Balanced.contained_collect (h : Balanced limit l) : ∀ x ∈ l.collected ++ l.dispatcher.ended, x.2.lines = [] :=
  fun x hx => h.contained x (List.mem_append.mpr (List.mem_append.mp hx).symm)

/-- More lines, some about ends and some of remarks. -/
theorem Balanced.tell (h : Balanced limit l) (ends : List (Delivery α × End ε)) (remarks : List Remark)
    {lines : List LogLine} (hlines : lines.Perm (ends.flatMap (fun x => x.2.lines x.1) ++ remarks.map Remark.line)) :
    (l.log ++ lines).Perm ((l.ends ++ ends).flatMap (fun x => x.2.lines x.1) ++
      (l.remarks ++ remarks).map Remark.line) := by
  rw [List.perm_iff_count]
  intro line
  have hbefore := h.told.count_eq line
  have hafter := hlines.count_eq line
  simp only [List.count_append, List.flatMap_append, List.map_append] at hbefore hafter ⊢
  omega

theorem Balanced.reap (h : Balanced limit l) : Balanced limit (l.step .reap) where
  limit_eq := h.limit_eq
  fits := Nat.le_trans (Nat.le_add_right _ _) h.fits
  started := h.started
  ended := h.collect
  once := h.once
  recent := h.recent
  contained := h.contained_collect
  told := by
    have hlines := h.reapLines
    simp only [step, hlines, List.append_nil]
    exact h.told

theorem Balanced.disable (h : Balanced limit l) (place : Nat) : Balanced limit (l.step (.disable place)) :=
  ⟨h.limit_eq, h.fits, h.started, h.ended, h.once, h.recent, h.contained, h.told⟩

/-- The deliveries of a cycle are new. -/
theorem Balanced.once_append (h : Balanced limit l) {xs : List (Delivery α)}
    (hcycle : ∀ x ∈ xs, x.cycle = l.dispatcher.cycle + 1)
    (hplaces : (xs.map (·.place)).Nodup) : ((l.started ++ xs).map (·.key)).Nodup := by
  rw [List.map_append, List.nodup_append]
  refine ⟨h.once, ?_, ?_⟩
  · have hkeys : (xs.map (·.key)).map (·.2) = xs.map (·.place) := by
      rw [List.map_map]
      rfl
    rw [← hkeys] at hplaces
    exact List.Pairwise.of_map _ (fun _ _ hne hab => hne (congrArg Prod.snd hab)) hplaces
  · -- what was started before is of an earlier cycle
    intro a ha b hb hab
    obtain ⟨x, hx, rfl⟩ := List.mem_map.mp ha
    obtain ⟨y, hy, rfl⟩ := List.mem_map.mp hb
    have hold := h.recent x hx
    have hnew := hcycle y hy
    have hsame : x.cycle = y.cycle := congrArg Prod.fst hab
    omega

theorem Balanced.dispatch (h : Balanced limit l) (load : α) : Balanced limit (l.step (.dispatch load)) := by
  have heq := l.dispatcher.dispatch_eq l.registry.targets load
  dsimp only at heq
  have hroom : l.dispatcher.running.length ≤ l.dispatcher.limit := Nat.le_trans (Nat.le_add_right _ _) h.fits
  constructor
  case limit_eq =>
    simp only [step, heq]
    exact h.limit_eq
  case fits =>
    simp only [step, heq, Dispatcher.inFlight, List.length_append, List.length_map, List.length_take, List.length_nil]
    omega
  case started =>
    simp only [step, heq]
    refine (h.started.append_right _).trans ?_
    rw [List.append_assoc, List.append_assoc]
    exact List.perm_append_comm.append_left _
  case ended =>
    simp only [step, heq]
    exact h.collect
  case once =>
    simp only [step, heq]
    refine h.once_append ?_ ?_
    · intro x hx
      obtain ⟨t, -, rfl⟩ := List.mem_map.mp hx
      rfl
    · rw [List.map_map]
      exact l.registry.nodup_places.sublist ((List.take_sublist _ _).map _)
  case recent =>
    simp only [step, heq]
    intro x hx
    rcases List.mem_append.mp hx with hx | hx
    · exact Nat.le_succ_of_le (h.recent x hx)
    · obtain ⟨t, -, rfl⟩ := List.mem_map.mp hx
      exact Nat.le_refl _
  case contained =>
    simp only [step, heq]
    exact h.contained_collect
  case told =>
    have htell := h.tell [] ((l.dispatcher.dispatch l.registry.targets load).remarks l.registry.targets)
      (List.Perm.refl _)
    rw [List.append_nil] at htell
    have hlog := dispatch_log l.dispatcher l.registry.targets load
    rw [h.reapLines, List.nil_append] at hlog
    simp only [step, hlog]
    exact htell

theorem Balanced.drain (h : Balanced limit l) (fate : Delivery α → Fate ε) : Balanced limit (l.step (.drain fate)) := by
  have hdispatcher := l.dispatcher.drain_dispatcher fate
  have hends : (l.dispatcher.drain fate).ends.map (·.1) =
      (l.dispatcher.drain fate).ended.map (·.1) ++ (l.dispatcher.drain fate).stopped := by
    simp [Drained.ends, Function.comp_def]
  have hcollected : (l.dispatcher.drain fate).collected.map (·.1) =
      (l.dispatcher.drain fate).ended.map (·.1) ++ (l.dispatcher.drain fate).stopped := by
    simp [Drained.collected, Function.comp_def]
  constructor
  case limit_eq =>
    simp only [step, hdispatcher]
    exact h.limit_eq
  case fits =>
    simp only [step, hdispatcher]
    exact Nat.zero_le _
  case started =>
    simp only [step, hdispatcher, List.nil_append, List.map_append, hends]
    refine h.started.trans (List.perm_append_comm.trans ?_)
    exact (l.dispatcher.drain_running fate).append_left _
  case ended =>
    simp only [step, hdispatcher, List.map_nil, List.nil_append]
    rw [List.map_append, List.map_append, hends, hcollected]
    exact h.collect.append_right _
  case once =>
    simp only [step, hdispatcher]
    exact h.once
  case recent =>
    simp only [step, hdispatcher]
    exact h.recent
  case contained =>
    simp only [step, hdispatcher, List.nil_append]
    intro x hx
    rcases List.mem_append.mp hx with hx | hx
    · exact h.contained_collect x hx
    · rcases List.mem_append.mp hx with hx | hx
      · obtain ⟨y, -, rfl⟩ := List.mem_map.mp hx
        simp only [Ending.joined_eq, Joined.lines]
      · obtain ⟨y, -, rfl⟩ := List.mem_map.mp hx
        rfl
  case told =>
    have hlog := drain_log_perm l.dispatcher fate
    rw [h.reapLines, List.nil_append] at hlog
    exact h.tell _ _ hlog

theorem Balanced.finish (h : Balanced limit l) (x : Delivery α) (ending : Ending ε) :
    Balanced limit (l.step (.finish x ending)) := by
  rcases l.finish_step_cases x ending with hsame | ⟨y, before, after, -, hsplit, heq⟩
  · rw [hsame]
    exact h
  · have hstarted := h.started
    have hfits := h.fits
    simp only [hsplit, Dispatcher.inFlight] at hstarted hfits
    rw [heq]
    constructor
    case limit_eq => exact h.limit_eq
    case fits =>
      simp only [Dispatcher.inFlight, List.length_append, List.length_cons, List.length_nil] at hfits ⊢
      omega
    case started =>
      simp only [List.map_append, List.map_cons, List.map_nil]
      refine hstarted.trans ?_
      -- the delivery goes from among those that run to behind those that have ended
      simp only [List.append_assoc, List.cons_append]
      refine List.Perm.append_left before ?_
      rw [← List.append_assoc]
      exact List.perm_append_singleton _ _ |>.symm
    case ended =>
      simp only [List.map_append, List.map_cons, List.map_nil]
      refine (h.ended.append_right _).trans ?_
      rw [List.append_assoc, List.append_assoc]
      exact List.perm_append_comm.append_left _
    case once => exact h.once
    case recent => exact h.recent
    case contained =>
      intro t ht
      simp only [List.mem_append, List.mem_singleton] at ht
      rcases ht with (ht | rfl) | ht
      · exact h.contained t (List.mem_append_left _ ht)
      · simp only [Ending.joined_eq, Joined.lines]
      · exact h.contained t (List.mem_append_right _ ht)
    case told =>
      have hlines : (ending.lines y).Perm
          ([(y, End.byItself ending)].flatMap (fun x => x.2.lines x.1) ++ ([] : List Remark).map Remark.line) := by
        simp [End.lines]
      have htell := h.tell _ _ hlines
      rwa [List.append_nil] at htell

/-- Every happening keeps the ledger in order. -/
theorem Balanced.step (h : Balanced limit l) (e : Happening α ε) : Balanced limit (l.step e) := by
  cases e with
  | dispatch load => exact h.dispatch load
  | reap => exact h.reap
  | drain fate => exact h.drain fate
  | disable place => exact h.disable place
  | finish x ending => exact h.finish x ending

/-- So does every run. -/
theorem Balanced.run (h : Balanced limit l) (hs : List (Happening α ε)) : Balanced limit (l.run hs) := by
  induction hs generalizing l with
  | nil => exact h
  | cons e rest ih => exact ih (h.step e)

theorem balanced_run (registry : Registry P) (limit grace : Nat) (hs : List (Happening α ε)) :
    Balanced limit ((opened registry limit grace).run hs) :=
  (balanced_opened registry limit grace).run hs

end Ledger

end WeatherRelay
