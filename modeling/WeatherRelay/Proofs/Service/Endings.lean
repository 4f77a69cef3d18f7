import WeatherRelay.Proofs.Service.Account
import WeatherRelay.Proofs.Service.Refinement

/-!
# How deliveries end

A delivery that was started runs or has ended in just one way (`Balanced.endsOf`), and its end is told by at most one
line. The end of a delivery concerns no other one, and a panic stays in its task.
-/

namespace WeatherRelay

namespace Delivery

variable {α : Type}

/-- Of deliveries with different keys one is the same as another only if it is that one. -/
theorem filter_isSame {xs : List (Delivery α)} (h : (xs.map (·.key)).Nodup) {x : Delivery α} (hx : x ∈ xs) :
    xs.filter (·.isSame x) = [x] := by
  induction xs with
  | nil => nomatch hx
  | cons y rest ih =>
    rw [List.map_cons, List.nodup_cons] at h
    obtain ⟨hnew, hrest⟩ := h
    rcases List.mem_cons.mp hx with rfl | hx
    · have hothers : rest.filter (·.isSame x) = [] := by
        rw [List.filter_eq_nil_iff]
        intro z hz hsame
        exact hnew (isSame_iff.mp hsame ▸ List.mem_map_of_mem hz)
      rw [List.filter_cons, if_pos (isSame_iff.mpr rfl), hothers]
    · have hother : ¬y.isSame x = true := fun hsame => hnew (isSame_iff.mp hsame ▸ List.mem_map_of_mem hx)
      rw [List.filter_cons, if_neg hother, ih hrest hx]

end Delivery

namespace Ledger

variable {P α ε : Type} [ToString ε] {limit : Nat} {l : Ledger P α ε}

/-- A delivery that was started runs and has not ended, or does not run and has ended once. -/
theorem Balanced.endsOf (h : Balanced limit l) {x : Delivery α} (hx : x ∈ l.started) :
    (x ∈ l.dispatcher.running ∧ l.endsOf x = []) ∨
      (x ∉ l.dispatcher.running ∧ ∃ how, l.endsOf x = [(x, how)]) := by
  -- of all that run and all ends only one has the key of this delivery
  have hall := h.started.filter (·.isSame x)
  have hends : (l.ends.map (·.1)).filter (·.isSame x) = (l.endsOf x).map (·.1) := List.filter_map
  rw [Delivery.filter_isSame h.once hx, List.filter_append, hends] at hall
  rcases List.append_eq_singleton_iff.mp (List.singleton_perm.mp hall).symm with ⟨hrunning, hended⟩ | ⟨hrunning, hended⟩
  · right
    obtain ⟨⟨y, how⟩, hone, rfl⟩ := List.map_eq_singleton_iff.mp hended
    refine ⟨fun hmem => ?_, how, hone⟩
    have hsame := List.filter_eq_nil_iff.mp hrunning _ hmem
    exact hsame (Delivery.isSame_iff.mpr rfl)
  · left
    have hmem : x ∈ l.dispatcher.running.filter (·.isSame x) := by
      rw [hrunning]
      exact List.mem_singleton_self x
    exact ⟨(List.mem_filter.mp hmem).1, List.map_eq_nil_iff.mp hended⟩

/-- A drain lets no delivery run on. -/
theorem Balanced.endsOf_drain (h : Balanced limit l) (fate : Delivery α → Fate ε) {x : Delivery α} (hx : x ∈ l.started) :
    ∃ how, (l.step (.drain fate)).endsOf x = [(x, how)] := by
  rcases (h.drain fate).endsOf hx with ⟨hrunning, -⟩ | ⟨-, hone⟩
  · have hnone : (l.step (.drain fate)).dispatcher.running = [] :=
      congrArg Dispatcher.running (l.dispatcher.drain_dispatcher fate)
    rw [hnone] at hrunning
    nomatch hrunning
  · exact hone

/-- The end of a delivery concerns that delivery only. -/
theorem finish_others (l : Ledger P α ε) (x : Delivery α) (ending : Ending ε) {y : Delivery α} (hy : y.isSame x = false) :
    (y ∈ (l.step (.finish x ending)).dispatcher.running ↔ y ∈ l.dispatcher.running) ∧
      (l.step (.finish x ending)).endsOf y = l.endsOf y := by
  rcases l.finish_step_cases x ending with heq | ⟨z, before, after, hsame, hsplit, heq⟩
  · rw [heq]
    exact ⟨Iff.rfl, rfl⟩
  · have hne : ¬z.isSame y = true := by
      intro hzy
      have hyx : y.isSame x = true :=
        Delivery.isSame_iff.mpr ((Delivery.isSame_iff.mp hzy).symm.trans (Delivery.isSame_iff.mp hsame))
      exact absurd (hy.symm.trans hyx) (by decide)
    have hyz : y ≠ z := fun h => hne (h ▸ Delivery.isSame_iff.mpr rfl)
    rw [heq]
    refine ⟨?_, ?_⟩
    · rw [hsplit]
      simp only [List.mem_append, List.mem_cons, hyz, false_or]
    · simp [Ledger.endsOf, hne]

end Ledger

namespace Service

variable {P P' S ε : Type} [ToString ε]

namespace Account

variable {base : Trace ε} {l : Ledger P' Snapshot ε} {told : List (Task ε)} {s : Service (Placed P) ε}
  {scene : Scene (Recorded S ε)} {t : Task ε}

theorem mem_started (h : Account base l told [] s scene) (ht : t ∈ told) : t.delivery ∈ l.started := by
  have hstarted := h.started_eq
  rw [List.append_nil] at hstarted
  exact hstarted ▸ List.mem_map_of_mem ht

/-- An end by itself is as the update of the delivery answered, when its time has come. -/
theorem ending_eq (h : Account base l told [] s scene) (ht : t ∈ told) {ending : Ending ε}
    (hend : (t.delivery, .byItself ending) ∈ l.ends) : ending = t.fate.ending ∧ t.isDue s.clock = true := by
  obtain ⟨u, hu, hdelivery, hending, hdue⟩ := h.inTime _ _ hend
  obtain rfl := h.task_unique hu ht (hdelivery ▸ Delivery.isSame_iff.mpr rfl)
  exact ⟨hending.symm, hdue⟩

/-- While the service runs, a delivery that was begun is under way, before its time, or has ended as its update
answered, when its time had come. -/
theorem delivery_cases (h : Account base l told [] s scene) (hserved : ∀ x, (x, .stopped) ∉ l.ends) (hpunctual : s.Punctual)
    (ht : t ∈ told) :
    (t.delivery ∈ l.dispatcher.running ∧ l.endsOf t.delivery = [] ∧ t.isDue s.clock = false) ∨
      (t.delivery ∉ l.dispatcher.running ∧ l.endsOf t.delivery = [(t.delivery, .byItself t.fate.ending)] ∧
        t.isDue s.clock = true) := by
  obtain ⟨limit, hbalanced⟩ := h.balanced
  obtain ⟨hruns, hnone⟩ | ⟨hruns, how, hone⟩ := hbalanced.endsOf (h.mem_started ht)
  · refine Or.inl ⟨hruns, hnone, ?_⟩
    obtain ⟨u, hu, hutold, hdelivery, -⟩ := h.exists_task (h.dispatcher_eq ▸ hruns)
    obtain rfl := h.task_unique hutold ht (hdelivery ▸ Delivery.isSame_iff.mpr rfl)
    exact hpunctual u hu
  · have hend : (t.delivery, how) ∈ l.ends := by
      have hmem : (t.delivery, how) ∈ l.endsOf t.delivery := hone ▸ List.mem_singleton_self _
      exact List.mem_of_mem_filter hmem
    cases how with
    | stopped => exact absurd hend (hserved t.delivery)
    | byItself ending =>
      obtain ⟨rfl, hdue⟩ := h.ending_eq ht hend
      exact Or.inr ⟨hruns, hone, hdue⟩

/-- After the wait at the end, it has ended as its update answered, or it was stopped. -/
theorem drained_cases (h : Account base l told [] s scene) (hidle : l.dispatcher.running = []) (ht : t ∈ told) :
    l.endsOf t.delivery = [(t.delivery, .byItself t.fate.ending)] ∨ l.endsOf t.delivery = [(t.delivery, .stopped)] := by
  obtain ⟨limit, hbalanced⟩ := h.balanced
  obtain ⟨hruns, -⟩ | ⟨-, how, hone⟩ := hbalanced.endsOf (h.mem_started ht)
  · rw [hidle] at hruns
    nomatch hruns
  · cases how with
    | stopped => exact Or.inr hone
    | byItself ending =>
      have hmem : (t.delivery, .byItself ending) ∈ l.endsOf t.delivery := hone ▸ List.mem_singleton_self _
      obtain ⟨rfl, -⟩ := h.ending_eq ht (List.mem_of_mem_filter hmem)
      exact Or.inl hone

end Account

/-- Every delivery that is started ends in one way, and its end is contained, whatever comes of updates, in whatever
order deliveries end and are collected, and whatever else happens to the dispatcher.

Of a run of the dispatcher: a delivery that was started runs, and is counted in flight, and has not ended, or does not
run any more and has ended once; after a drain every one has ended once. The log is made of the lines about these ends
and of what the dispatcher remarks. No panic is told of a task. The end of a delivery changes neither the destinations
nor the count of cycles nor any other delivery, and so it is with a drain.

Of the ends: one that is done or stopped leaves no line, a failure a warning with the error, a panic an error with its
message; and whatever an update comes to, its task returns.

Of the service, whatever its publishers do: the end of a delivery changes neither what the service takes in, nor its
destinations, its cycles and its clock, nor any other delivery. At any moment, and again when it has been shut down,
what publishers were asked, what their updates answered, what they were told of ends, and the lines of the dispatcher
are the trace of such a run of the dispatcher. While the service runs, a delivery runs as long as its update said that
it would, and then ends as that said; after the wait at the end, it has ended so or was stopped. What publishers keep is
their own, but the destinations stay what they are. -/
theorem started_deliveries_end_once :
    (∀ (registry : Registry P) (limit grace : Nat) (hs : List (Happening Snapshot ε)),
      let l := (Ledger.opened registry limit grace).run hs
      (∀ x ∈ l.started,
        (x ∈ l.dispatcher.running ∧ l.endsOf x = []) ∨ (x ∉ l.dispatcher.running ∧ ∃ how, l.endsOf x = [(x, how)])) ∧
      l.dispatcher.inFlight = (l.dispatcher.running ++ l.dispatcher.ended.map (·.1)).length ∧
      (∀ fate, ∀ x ∈ l.started, ∃ how, (l.step (.drain fate)).endsOf x = [(x, how)]) ∧
      l.log.Perm (l.ends.flatMap (fun x => x.2.lines x.1) ++ l.remarks.map Remark.line) ∧
      (∀ t ∈ l.dispatcher.ended ++ l.collected, ∀ message, t.2 ≠ .panicked message) ∧
      (∀ x ending,
        let after := l.step (.finish x ending)
        after.registry = l.registry ∧ after.started = l.started ∧ after.dispatcher.cycle = l.dispatcher.cycle ∧
          ∀ y, y.isSame x = false →
            (y ∈ after.dispatcher.running ↔ y ∈ l.dispatcher.running) ∧ after.endsOf y = l.endsOf y) ∧
      ∀ fate,
        let after := l.step (.drain fate)
        after.registry = l.registry ∧ after.started = l.started ∧ after.dispatcher.cycle = l.dispatcher.cycle) ∧
    (∀ x : Delivery Snapshot,
      End.lines x (.byItself (.done : Ending ε)) = [] ∧
      (∀ e : ε, End.lines x (.byItself (.failed e)) = [.warn s!"[Dispatch] cycle {x.cycle}: {x.name} failed: {e}"]) ∧
      (∀ message, End.lines x (.byItself (.panicked (some message) : Ending ε)) =
        [.error s!"[Dispatch] cycle {x.cycle}: {x.name} panicked: {message}"]) ∧
      End.lines x (.byItself (.panicked none : Ending ε)) =
        [.error (s!"[Dispatch] cycle {x.cycle}: {x.name} panicked: " ++ "unknown panic")] ∧
      End.lines x (.stopped : End ε) = [] ∧
      ∀ update : Unwinding (Except ε Unit), Joined.ofTask (x.task update) = .returned) ∧
    (∀ (b : Behavior P S ε) (scene : Scene S) (s : Service P ε) (x : Delivery Snapshot) (ending : Ending ε),
      let after := ((s.settle b x ending).run scene).1
      after.intake = s.intake ∧ after.registry = s.registry ∧ after.dispatcher.cycle = s.dispatcher.cycle ∧
        after.clock = s.clock ∧ (∀ t ∈ s.tasks, t.delivery.isSame x = false → t ∈ after.tasks) ∧
        ∀ y, y.isSame x = false → (y ∈ after.dispatcher.running ↔ y ∈ s.dispatcher.running)) ∧
    ∀ (b : Behavior P S ε) (scene : Scene S) (intake : Intake) (registry : Registry P) (limit grace : Nat)
      (events : List Event),
      let s : Service P ε := { intake, registry, dispatcher := .ofLimit limit grace }
      let begun : Scene (Recorded S ε) := scene.map fun outside => { outside }
      let served := (s.placed.steps b.recorded events).run begun
      let closed := (served.1.close b.recorded).run served.2
      let drained := (closed.1.drain b.recorded).run closed.2
      (s.steps b events).run scene = (served.1.map Placed.publisher, served.2.map (·.outside)) ∧
      served.1.registry.outline = registry.outline ∧ drained.1.registry.outline = registry.outline ∧
      (∃ hs told,
        let l := (Ledger.opened registry limit grace : Ledger P Snapshot ε).run hs
        l.registry = registry ∧ l.dispatcher = served.1.dispatcher ∧ l.started = told.map (·.delivery) ∧
          served.2.trace = begun.trace ++ l.trace told ∧
          ∀ t ∈ told,
            (t.delivery ∈ l.dispatcher.running ∧ l.endsOf t.delivery = [] ∧ t.isDue served.1.clock = false) ∨
              (t.delivery ∉ l.dispatcher.running ∧ l.endsOf t.delivery = [(t.delivery, .byItself t.fate.ending)] ∧
                t.isDue served.1.clock = true)) ∧
      ∃ hs told,
        let l := (Ledger.opened registry limit grace : Ledger P Snapshot ε).run hs
        l.registry = registry ∧ l.dispatcher = drained.1.dispatcher ∧ l.started = told.map (·.delivery) ∧
          drained.2.trace = begun.trace ++ l.trace told ∧
          ∀ t ∈ told,
            l.endsOf t.delivery = [(t.delivery, .byItself t.fate.ending)] ∨ l.endsOf t.delivery = [(t.delivery, .stopped)] := by
  refine ⟨?_, ?_, ?_, ?_⟩
  · intro registry limit grace hs l
    have h : Ledger.Balanced limit l := Ledger.balanced_run registry limit grace hs
    refine ⟨fun x hx => h.endsOf hx, ?_, fun fate x hx => h.endsOf_drain fate hx, h.told, ?_, ?_, ?_⟩
    · rw [List.length_append, List.length_map]
      rfl
    · intro t ht message hpanicked
      have hquiet := h.contained t ht
      rw [hpanicked] at hquiet
      nomatch hquiet
    · intro x ending after
      exact ⟨rfl, rfl, (l.dispatcher.settle_frame x ending).1, fun y hy => l.finish_others x ending hy⟩
    · intro fate after
      have hcycle : (l.dispatcher.drain fate).dispatcher.cycle = l.dispatcher.cycle := by
        rw [Dispatcher.drain_dispatcher]
      exact ⟨rfl, rfl, hcycle⟩
  · intro x
    refine ⟨rfl, fun e => rfl, fun message => rfl, rfl, rfl, ?_⟩
    rintro (message | (e | _))
    · rfl
    · rfl
    · rfl
  · intro b scene s x ending after
    refine ⟨rfl, rfl, (s.dispatcher.settle_frame x ending).1, rfl, ?_, ?_⟩
    · intro t ht hother
      exact List.mem_filter.mpr ⟨ht, by rw [hother]; rfl⟩
    · intro y hy
      exact (Ledger.finish_others { registry := s.registry, dispatcher := s.dispatcher } x ending hy).1
  · intro b scene intake registry limit grace events s begun served closed drained
    have hrefined := s.placed.steps_refines b.recorded_refines events (Or.inl rfl) begun
    rw [s.map_placed] at hrefined
    have houtline : registry.placed.outline = registry.outline := registry.outline_placedFrom 0
    have hsame := s.placed.steps_same b.recorded events begun
    have hclosed := served.1.close_same b.recorded served.2
    have hopened := Account.opened (ε := ε) houtline.symm (registry.isPlaced_placedFrom 0) limit grace intake begun
    obtain ⟨told, ⟨l, hserving, haccount⟩, -⟩ := hopened.steps b events
    obtain ⟨more, ⟨l', hserving', haccount'⟩, -⟩ := haccount.close b
    have hpunctual := steps_punctual b.recorded (s := s.placed) (fun t ht => nomatch ht) events begun
    have hserved := hserving.not_stopped fun x hx => nomatch hx
    have hdrained := haccount'.drain b
    refine ⟨hrefined, hsame.outline.trans houtline, hclosed.outline.trans (hsame.outline.trans houtline), ?_, ?_⟩
    · obtain ⟨hs, rfl⟩ := hserving.exists_run
      refine ⟨hs, told, hserving.registry_eq, haccount.dispatcher_eq, ?_, haccount.trace_eq, fun t ht => ?_⟩
      · exact haccount.started_eq.trans (List.append_nil _)
      · exact haccount.delivery_cases hserved hpunctual ht
    · have hregistry : l'.registry = registry := (hserving.trans hserving').registry_eq
      obtain ⟨hs, rfl⟩ := (hserving.trans hserving').exists_run
      refine ⟨hs ++ [.drain closed.1.fateOf], told ++ more, ?_⟩
      rw [Ledger.run_concat]
      refine ⟨hregistry, hdrained.dispatcher_eq, ?_, hdrained.trace_eq, fun t ht => ?_⟩
      · exact hdrained.started_eq.trans (List.append_nil _)
      · refine hdrained.drained_cases ?_ ht
        exact congrArg Dispatcher.running (Dispatcher.drain_dispatcher _ _)

/-- Publishers that panic at once, or never come to an end. -/
def breaking : Behavior Bool Unit String where
  init p _ := return .ok p
  update p _ _ _ := return (p, if p then .now (.panicked none) else .never)
  cleanup p := return some p
  missing name := name

/-- Two destinations, of which the first has a publisher that panics. -/
def oneBroken : Registry Bool :=
  [.withPublisher { service := "a" } {} true, .withPublisher { service := "b" } {} false]

/-- An intake whose queue holds a snapshot. -/
def oneWaiting : Intake := { station := {}, queue := { depth := 1, items := [.empty] } }

/-- A scene with nothing else outside. -/
def bareScene : Scene Unit := { now := .start1970, outside := () }

/-- The service after a cycle for both destinations. -/
def afterPanic : Service (Placed Bool) String × Scene (Recorded Unit String) :=
  ((placed { intake := oneWaiting, registry := oneBroken, dispatcher := .ofLimit 2 1 }).steps breaking.recorded [.turn]).run
    (bareScene.map fun outside => { outside })

/-- When the publisher of one of two destinations panics, its delivery has ended with that, once, and the other runs. -/
theorem panic_beside_a_running_delivery :
    (afterPanic.2.outside.finishes.map fun f => (f.place, f.ending)) = [(0, .panicked none)] ∧
      afterPanic.2.linesOf .dispatcher = [.error "[Dispatch] cycle 1: a panicked: unknown panic"] ∧
      ∃ hs, ∃ told : List (Task String),
        let l := (Ledger.opened oneBroken 2 1 : Ledger Bool Snapshot String).run hs
        l.dispatcher = afterPanic.1.dispatcher ∧ l.started = told.map (·.delivery) ∧
          (∃ t ∈ told, t.delivery.key = (1, 0) ∧ t.delivery ∉ l.dispatcher.running ∧
            l.endsOf t.delivery = [(t.delivery, .byItself t.fate.ending)]) ∧
          ∃ t ∈ told, t.delivery.key = (1, 1) ∧ t.delivery ∈ l.dispatcher.running ∧ l.endsOf t.delivery = [] := by
  have hfinishes : (afterPanic.2.outside.finishes.map fun f => (f.place, f.ending)) = [(0, .panicked none)] := by decide +kernel
  have hlines : afterPanic.2.linesOf .dispatcher = [.error "[Dispatch] cycle 1: a panicked: unknown panic"] := by decide +kernel
  have hrunning : afterPanic.1.dispatcher.running.map (·.key) = [(1, 1)] := by decide +kernel
  have hended : afterPanic.1.dispatcher.ended.map (·.1.key) = [(1, 0)] := by decide +kernel
  obtain ⟨-, -, -, hservice⟩ := started_deliveries_end_once (P := Bool) (S := Unit) (ε := String)
  have hserved := (hservice breaking bareScene oneWaiting oneBroken 2 1 [.turn]).2.2.2.1
  clear hservice
  unfold afterPanic at *
  generalize StateT.run _ _ = served at *
  obtain ⟨hs, told, -, hdispatcher, hstarted, -, htold⟩ := hserved
  have hbalanced := Ledger.balanced_run (ε := String) (α := Snapshot) oneBroken 2 1 hs
  refine ⟨hfinishes, hlines, hs, told, hdispatcher, hstarted, ?_⟩
  rw [← hdispatcher] at hrunning hended
  obtain ⟨y, hruns, hykey⟩ := List.map_eq_singleton_iff.mp hrunning
  obtain ⟨⟨x, joined⟩, hdone, hxkey⟩ := List.map_eq_singleton_iff.mp hended
  have hy : y ∈ ((Ledger.opened oneBroken 2 1).run hs).started :=
    hbalanced.started.mem_iff.mpr (List.mem_append_left _ (hruns ▸ List.mem_singleton_self y))
  have hx : x ∈ ((Ledger.opened oneBroken 2 1).run hs).started := by
    rw [hbalanced.started.mem_iff, List.mem_append, hbalanced.ended.mem_iff, hdone]
    exact Or.inr List.mem_cons_self
  rw [hstarted] at hx hy
  obtain ⟨t, ht, rfl⟩ := List.mem_map.mp hx
  obtain ⟨u, hu, rfl⟩ := List.mem_map.mp hy
  refine ⟨⟨t, ht, hxkey, ?_⟩, u, hu, hykey, ?_⟩
  · obtain ⟨hmem, -⟩ | ⟨hnot, hone, -⟩ := htold t ht
    · rw [hruns, List.mem_singleton] at hmem
      exact absurd ((congrArg Delivery.key hmem).symm.trans hxkey) (hykey ▸ by decide)
    · exact ⟨hnot, hone⟩
  · obtain ⟨hmem, hnone, -⟩ | ⟨hnot, -⟩ := htold u hu
    · exact ⟨hmem, hnone⟩
    · exact absurd (hruns ▸ List.mem_singleton_self _) hnot

end Service

end WeatherRelay
