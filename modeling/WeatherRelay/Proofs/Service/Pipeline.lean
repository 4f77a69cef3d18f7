import WeatherRelay.Proofs.Service.Frame
import WeatherRelay.Proofs.Station.Ingest

/-!
# From datagrams to cycles

The intake and the dispatcher share nothing but the queue, and events come in any order. A course is a run of the service
with its history: what the reception of each datagram did, and the snapshots that cycles were made of. At every moment the
snapshots of the past cycles and those that wait in the queue are, in order, the ones that were handed over (`Conserves`).
-/

namespace WeatherRelay

/-! ## One datagram -/

/-- The station after a datagram; one that is no packet changes nothing. -/
def Station.hear (s : Station) (bytes : ByteArray) (now : Moment) : Station :=
  match Packet.decode bytes with
  | .error _ => s
  | .ok p => s.after p now

/-- What an offer comes to. -/
theorem Queue.offer_cases {α : Type} (q : Queue α) (a : α) :
    (q.hasTaker = true ∧ q.items.length < q.depth ∧ q.offer a = (.accepted, { q with items := q.items ++ [a] })) ∨
      (q.depth ≤ q.items.length ∧ q.offer a = (.full, q)) ∨ (q.hasTaker = false ∧ q.offer a = (.noTaker, q)) := by
  unfold offer
  cases htaker : q.hasTaker with
  | false => exact Or.inr (Or.inr ⟨rfl, rfl⟩)
  | true =>
    by_cases hroom : q.items.length < q.depth
    · exact Or.inl ⟨rfl, hroom, by simp [hroom]⟩
    · exact Or.inr (Or.inl ⟨Nat.le_of_not_lt hroom, by simp [hroom]⟩)

namespace Intake

/-- The snapshot that a datagram completes, if it does. -/
def completed? (i : Intake) (fs : Files) (bytes : ByteArray) (now : Moment) : Option Snapshot :=
  (Packet.decode bytes).toOption.bind fun p => (i.station.ingest fs p now).1

/-- What comes of a reception: a snapshot is completed and handed over, it is completed and there is no room for it or
nobody to take it, or none is completed. -/
inductive Outcome (i : Intake) (completed : Option Snapshot) (r : Received) : Prop where
  | handedOver (h : completed = some r.intake.station.live) (hqueued : r.queued = true) (htaker : i.queue.hasTaker = true)
      (hroom : i.queue.items.length < i.queue.depth)
      (hqueue : r.intake.queue = { i.queue with items := i.queue.items ++ [r.intake.station.live] })
  | refused (h : completed = some r.intake.station.live) (hqueued : r.queued = false)
      (hwhy : i.queue.depth ≤ i.queue.items.length ∨ i.queue.hasTaker = false) (hqueue : r.intake.queue = i.queue)
  | nothing (h : completed = none) (hqueued : r.queued = false) (hqueue : r.intake.queue = i.queue)

variable {i : Intake} {completed : Option Snapshot} {r : Received}

/-- The queue changes only when a snapshot is handed over. -/
theorem Outcome.queue_eq (h : Outcome i completed r) (hnot : r.queued = false) : r.intake.queue = i.queue := by
  cases h with
  | handedOver _ hqueued _ _ _ => exact absurd (hqueued.symm.trans hnot) (by decide)
  | refused _ _ _ hqueue => exact hqueue
  | nothing _ _ hqueue => exact hqueue

/-- A snapshot is refused only when the queue is full or nobody takes from it. -/
theorem Outcome.why_refused (h : Outcome i completed r) (hsome : completed.isSome = true) (hnot : r.queued = false) :
    i.queue.depth ≤ i.queue.items.length ∨ i.queue.hasTaker = false := by
  cases h with
  | handedOver _ hqueued _ _ _ => exact absurd (hqueued.symm.trans hnot) (by decide)
  | refused _ _ hwhy _ => exact hwhy
  | nothing hnone _ _ =>
    rw [hnone] at hsome
    nomatch hsome

/-- A datagram that is no packet changes nothing. -/
theorem receive_of_decode_error {bytes : ByteArray} {e : PacketError} (h : Packet.decode bytes = .error e) (i : Intake)
    (fs : Files) (now : Moment) : (i.receive fs bytes now).intake = i ∧ (i.receive fs bytes now).files = fs := by
  unfold receive
  rw [h]
  exact ⟨rfl, rfl⟩

/-- The station hears every datagram, and what becomes of a snapshot is no matter for it. -/
theorem receive_station (i : Intake) (fs : Files) (bytes : ByteArray) (now : Moment) :
    (i.receive fs bytes now).intake.station = i.station.hear bytes now := by
  unfold receive Station.hear
  cases Packet.decode bytes with
  | error e => rfl
  | ok p =>
    obtain ⟨-, hstation⟩ := i.station.ingest_eq fs p now
    dsimp only [handOver]
    rw [← hstation]
    cases (i.station.ingest fs p now).1 with
    | none => rfl
    | some o =>
      rcases i.queue.offer_cases o with ⟨-, -, ho⟩ | ⟨-, ho⟩ | ⟨-, ho⟩
      all_goals simp only [ho]

/-- The reception of a datagram has one of the outcomes. -/
theorem receive_outcome (i : Intake) (fs : Files) (bytes : ByteArray) (now : Moment) :
    Outcome i (i.completed? fs bytes now) (i.receive fs bytes now) := by
  unfold completed? receive
  cases hdecode : Packet.decode bytes with
  | error e => exact .nothing rfl rfl rfl
  | ok p =>
    obtain ⟨hsnapshot, hafter⟩ := i.station.ingest_eq fs p now
    simp only [handOver, Except.toOption, Option.bind_some]
    cases hcompleted : (i.station.ingest fs p now).1 with
    | none => exact .nothing rfl rfl rfl
    | some o =>
      have hlive : o = (i.station.ingest fs p now).2.station.live := by
        rw [hafter]
        exact Station.live_of_snapshot? (hsnapshot.symm.trans hcompleted)
      rcases i.queue.offer_cases o with ⟨htaker, hroom, ho⟩ | ⟨hfull, ho⟩ | ⟨htaker, ho⟩
      · simp only [ho]
        exact .handedOver (congrArg some hlive) rfl htaker hroom (by rw [← hlive])
      · simp only [ho]
        exact .refused (congrArg some hlive) rfl (Or.inl hfull) rfl
      · simp only [ho]
        exact .refused (congrArg some hlive) rfl (Or.inr htaker) rfl

end Intake

/-! ## Runs with their history -/

/-- What the reception of a datagram did: the snapshot that it completed, whether one was handed over, how many waited in
the queue before, and the live observation at its end. -/
structure Reception where
  completed : Option Snapshot
  queued : Bool
  waiting : Nat
  live : Snapshot

/-- The datagram of an event, as far as it is looked at. -/
def Event.datagram? : Event → Option (ByteArray × Moment)
  | .datagram bytes now _ => some (bytes.extract 0 Service.maxDatagram, now)
  | _ => none

/-- The service and its scene in the course of a run, with all receptions and the snapshots of all cycles. -/
structure Course (P S ε : Type) where
  service : Service P ε
  scene : Scene S
  receptions : List Reception := []
  dispatched : List Snapshot := []

namespace Course

variable {P S ε : Type}

/-- The live observations at the ends of the receptions that handed a snapshot over. -/
def accepted (c : Course P S ε) : List Snapshot := (c.receptions.filter (·.queued)).map (·.live)

/-- What the service makes of a datagram. -/
def received (c : Course P S ε) (bytes : ByteArray) (now : Moment) : Received :=
  c.service.intake.receive c.scene.files (bytes.extract 0 Service.maxDatagram) now

/-- What is remembered of it. -/
def reception (c : Course P S ε) (bytes : ByteArray) (now : Moment) : Reception where
  completed := c.service.intake.completed? c.scene.files (bytes.extract 0 Service.maxDatagram) now
  queued := (c.received bytes now).queued
  waiting := c.service.intake.queue.items.length
  live := (c.received bytes now).intake.station.live

/-- A cycle. -/
def dispatch [ToString ε] (b : Behavior P S ε) (c : Course P S ε) (o : Snapshot) : Course P S ε :=
  let (service, scene) := (c.service.dispatch b o).run c.scene
  { c with service, scene, dispatched := c.dispatched ++ [o] }

/-- What an event does. -/
def step [ToString ε] (b : Behavior P S ε) (c : Course P S ε) : Event → Course P S ε
  | .datagram bytes now utc =>
    let (service, scene) := (c.service.step b (.datagram bytes now utc)).run c.scene
    { c with service, scene, receptions := c.receptions ++ [c.reception bytes now] }
  | .turn =>
    match c.service.intake.queue.take with
    | (none, _) => c
    | (some o, queue) => dispatch b { c with service.intake.queue := queue } o
  | .elapse milliseconds =>
    let (service, scene) := (c.service.elapse b milliseconds).run c.scene
    { c with service, scene }

/-- What events do one after another. -/
def run [ToString ε] (b : Behavior P S ε) (c : Course P S ε) (events : List Event) : Course P S ε :=
  events.foldl (step b) c

/-- Nothing more comes in: the dispatcher takes what the queue still holds. -/
def close [ToString ε] (b : Behavior P S ε) (c : Course P S ε) : Course P S ε :=
  c.service.intake.queue.items.foldl (dispatch b) { c with scene := c.scene.noting [Service.shutdownLine] }

/-- That the history of a course is in order: all that was handed over was taken or waits, and what was not had no room.
The datagrams heard so far and the depth of the queue are given. -/
structure Conserves (station : Station) (depth : Nat) (heard : List (ByteArray × Moment)) (c : Course P S ε) : Prop where
  hasTaker : c.service.intake.queue.hasTaker = true
  depth_eq : c.service.intake.queue.depth = depth
  fits : c.service.intake.queue.items.length ≤ depth
  conserved : c.dispatched ++ c.service.intake.queue.items = c.accepted
  counted : c.service.dispatcher.cycle = c.dispatched.length
  station_eq : c.service.intake.station = heard.foldl (fun s d => s.hear d.1 d.2) station
  handedOver : ∀ r ∈ c.receptions, r.queued = true → r.completed = some r.live
  refused : ∀ r ∈ c.receptions, r.completed.isSome = true → r.queued = false → r.waiting = depth

/-! ### Courses are runs -/

variable [ToString ε]

theorem step_eq (b : Behavior P S ε) (c : Course P S ε) (e : Event) :
    (c.service.step b e).run c.scene = ((c.step b e).service, (c.step b e).scene) := by
  cases e with
  | datagram bytes now utc => rfl
  | turn =>
    unfold Service.step Service.turn step
    cases htake : c.service.intake.queue.take with
    | mk o queue => cases o <;> rfl
  | elapse milliseconds => rfl

/-- A course goes through the states of the run. -/
theorem run_eq (b : Behavior P S ε) (c : Course P S ε) (events : List Event) :
    (c.service.steps b events).run c.scene = ((c.run b events).service, (c.run b events).scene) := by
  induction events generalizing c with
  | nil => rfl
  | cons e rest ih =>
    have hstep : (c.service.steps b (e :: rest)).run c.scene =
        (((c.service.step b e).run c.scene).1.steps b rest).run ((c.service.step b e).run c.scene).2 := rfl
    rw [hstep, step_eq]
    exact ih (c.step b e)

theorem foldl_dispatch_eq (b : Behavior P S ε) (c : Course P S ε) (os : List Snapshot) :
    (c.service.dispatchAll b os).run c.scene = ((os.foldl (dispatch b) c).service, (os.foldl (dispatch b) c).scene) := by
  induction os generalizing c with
  | nil => rfl
  | cons o rest ih => exact ih (c.dispatch b o)

/-- A course ends as the run does. -/
theorem close_eq (b : Behavior P S ε) (c : Course P S ε) :
    (c.service.close b).run c.scene = ((c.close b).service, (c.close b).scene) :=
  foldl_dispatch_eq b { c with scene := c.scene.noting [Service.shutdownLine] } _

/-! ### What every event preserves -/

variable {station : Station} {depth : Nat} {heard : List (ByteArray × Moment)} {c : Course P S ε}

/-- One more reception. -/
theorem mem_snoc {receptions : List Reception} {x : Reception} {Q : Reception → Prop} (h : ∀ r ∈ receptions, Q r)
    (hx : Q x) : ∀ r ∈ receptions ++ [x], Q r := by
  intro r hr
  rcases List.mem_append.mp hr with hr | hr
  · exact h r hr
  · rwa [List.mem_singleton.mp hr]

/-- The service after a datagram has the new intake, and is else what it was. -/
theorem datagram_service (b : Behavior P S ε) (c : Course P S ε) (bytes : ByteArray) (now utc : Moment) :
    (c.step b (.datagram bytes now utc)).service = { c.service with intake := (c.received bytes now).intake } := rfl

/-- A reception that hands a snapshot over adds it to the accepted ones, others add nothing. -/
theorem datagram_accepted (b : Behavior P S ε) (c : Course P S ε) (bytes : ByteArray) (now utc : Moment) :
    (c.step b (.datagram bytes now utc)).accepted =
      c.accepted ++ if (c.received bytes now).queued = true then [(c.received bytes now).intake.station.live] else [] := by
  have hreceptions : (c.step b (.datagram bytes now utc)).receptions = c.receptions ++ [c.reception bytes now] := rfl
  have hqueued : (c.reception bytes now).queued = (c.received bytes now).queued := rfl
  have hlive : (c.reception bytes now).live = (c.received bytes now).intake.station.live := rfl
  rw [accepted, hreceptions, List.filter_append, List.map_append, ← hqueued, ← hlive]
  cases hq : (c.reception bytes now).queued with
  | false => simp [accepted, hq]
  | true => simp [accepted, hq]

theorem Conserves.datagram_station (b : Behavior P S ε) (h : Conserves station depth heard c) (bytes : ByteArray)
    (now utc : Moment) :
    (c.step b (.datagram bytes now utc)).service.intake.station =
      (heard ++ [(bytes.extract 0 Service.maxDatagram, now)]).foldl (fun s d => s.hear d.1 d.2) station := by
  rw [datagram_service, List.foldl_append, ← h.station_eq]
  exact c.service.intake.receive_station c.scene.files (bytes.extract 0 Service.maxDatagram) now

/-- A snapshot that is handed over joins those that wait. -/
theorem Conserves.datagram_handedOver (b : Behavior P S ε) (h : Conserves station depth heard c) {bytes : ByteArray}
    {now utc : Moment}
    (hcompleted : (c.reception bytes now).completed = some (c.reception bytes now).live)
    (hqueued : (c.received bytes now).queued = true)
    (hroom : c.service.intake.queue.items.length < c.service.intake.queue.depth)
    (hqueue : (c.received bytes now).intake.queue = { c.service.intake.queue with
      items := c.service.intake.queue.items ++ [(c.received bytes now).intake.station.live] }) :
    Conserves station depth (heard ++ [(bytes.extract 0 Service.maxDatagram, now)]) (c.step b (.datagram bytes now utc)) := by
  have hservice := datagram_service b c bytes now utc
  refine ⟨?_, ?_, ?_, ?_, h.counted, h.datagram_station b bytes now utc, ?_, ?_⟩
  · rw [hservice, hqueue]
    exact h.hasTaker
  · rw [hservice, hqueue]
    exact h.depth_eq
  · rw [hservice, hqueue]
    have hdepth := h.depth_eq
    simp only [List.length_append, List.length_singleton]
    omega
  · rw [datagram_accepted, if_pos hqueued, hservice, hqueue, ← h.conserved, List.append_assoc]
    rfl
  · exact mem_snoc h.handedOver fun _ => hcompleted
  · refine mem_snoc h.refused fun _ hnot => ?_
    exact absurd (hqueued.symm.trans hnot) (by decide)

/-- When no snapshot is handed over the queue stays what it is. -/
theorem Conserves.datagram_notQueued (b : Behavior P S ε) (h : Conserves station depth heard c) {bytes : ByteArray}
    {now utc : Moment}
    (hqueued : (c.received bytes now).queued = false)
    (hqueue : (c.received bytes now).intake.queue = c.service.intake.queue)
    (hwhy : (c.reception bytes now).completed.isSome = true → c.service.intake.queue.items.length = depth) :
    Conserves station depth (heard ++ [(bytes.extract 0 Service.maxDatagram, now)]) (c.step b (.datagram bytes now utc)) := by
  have hservice := datagram_service b c bytes now utc
  refine ⟨?_, ?_, ?_, ?_, h.counted, h.datagram_station b bytes now utc, ?_, ?_⟩
  · rw [hservice, hqueue]
    exact h.hasTaker
  · rw [hservice, hqueue]
    exact h.depth_eq
  · rw [hservice, hqueue]
    exact h.fits
  · rw [datagram_accepted, if_neg (by simp [hqueued]), hservice, hqueue, List.append_nil]
    exact h.conserved
  · refine mem_snoc h.handedOver fun hyes => ?_
    exact absurd (hqueued.symm.trans hyes) (by decide)
  · exact mem_snoc h.refused fun hsome _ => hwhy hsome

/-- A datagram keeps the history in order. -/
theorem Conserves.datagram (b : Behavior P S ε) (h : Conserves station depth heard c) (bytes : ByteArray)
    (now utc : Moment) :
    Conserves station depth (heard ++ [(bytes.extract 0 Service.maxDatagram, now)]) (c.step b (.datagram bytes now utc)) := by
  cases c.service.intake.receive_outcome c.scene.files (bytes.extract 0 Service.maxDatagram) now with
  | handedOver hcompleted hqueued _ hroom hqueue => exact h.datagram_handedOver b hcompleted hqueued hroom hqueue
  | refused _ hqueued hwhy hqueue =>
    refine h.datagram_notQueued b hqueued hqueue fun _ => ?_
    rcases hwhy with hfull | htaker
    · exact Nat.le_antisymm h.fits (h.depth_eq ▸ hfull)
    · exact absurd (h.hasTaker.symm.trans htaker) (by decide)
  | nothing hcompleted hqueued hqueue =>
    refine h.datagram_notQueued b hqueued hqueue fun hsome => ?_
    have hnone : (c.reception bytes now).completed = none := hcompleted
    rw [hnone] at hsome
    nomatch hsome

/-- A cycle takes its snapshot, leaves the intake alone and is counted. -/
theorem dispatch_frame (b : Behavior P S ε) (c : Course P S ε) (o : Snapshot) :
    (c.dispatch b o).dispatched = c.dispatched ++ [o] ∧ (c.dispatch b o).service.intake = c.service.intake ∧
      (c.dispatch b o).service.dispatcher.cycle = c.service.dispatcher.cycle + 1 :=
  have hkeeps := c.service.dispatch_keeps b o c.scene
  ⟨rfl, hkeeps.intake, hkeeps.cycle⟩

/-- A turn takes the oldest snapshot that waits. -/
theorem Conserves.turn (b : Behavior P S ε) (h : Conserves station depth heard c) :
    Conserves station depth heard (c.step b .turn) := by
  cases hitems : c.service.intake.queue.items with
  | nil =>
    have hstep : c.step b .turn = c := by simp only [step, Queue.take, hitems]
    rwa [hstep]
  | cons o rest =>
    have hstep : c.step b .turn =
        dispatch b { c with service.intake.queue := { c.service.intake.queue with items := rest } } o := by
      simp only [step, Queue.take, hitems]
    obtain ⟨hdispatched, hintake, hcycle⟩ :=
      dispatch_frame b { c with service.intake.queue := { c.service.intake.queue with items := rest } } o
    rw [hstep]
    refine ⟨?_, ?_, ?_, ?_, ?_, ?_, h.handedOver, h.refused⟩
    · rw [hintake]
      exact h.hasTaker
    · rw [hintake]
      exact h.depth_eq
    · have hlength := h.fits
      rw [hitems, List.length_cons] at hlength
      rw [hintake]
      exact Nat.le_of_succ_le hlength
    · have hconserved := h.conserved
      rw [hitems] at hconserved
      rw [hdispatched, hintake, List.append_assoc]
      exact hconserved
    · rw [hdispatched, hcycle, List.length_append, ← h.counted]
      rfl
    · rw [hintake]
      exact h.station_eq

/-- The passing of time leaves the history alone. -/
theorem Conserves.elapse (b : Behavior P S ε) (h : Conserves station depth heard c) (milliseconds : Nat) :
    Conserves station depth heard (c.step b (.elapse milliseconds)) := by
  have hkeeps := c.service.elapse_keeps b milliseconds c.scene
  have hintake : (c.step b (.elapse milliseconds)).service.intake = c.service.intake := hkeeps.intake
  refine ⟨?_, ?_, ?_, ?_, hkeeps.cycle.trans h.counted, ?_, h.handedOver, h.refused⟩
  · rw [hintake]
    exact h.hasTaker
  · rw [hintake]
    exact h.depth_eq
  · rw [hintake]
    exact h.fits
  · rw [hintake]
    exact h.conserved
  · rw [hintake]
    exact h.station_eq

/-! ### Whole runs -/

/-- Every run keeps its history in order. -/
theorem Conserves.run (b : Behavior P S ε) (events : List Event) (h : Conserves station depth heard c) :
    Conserves station depth (heard ++ events.filterMap Event.datagram?) (c.run b events) := by
  induction events generalizing c heard with
  | nil =>
    rw [List.filterMap_nil, List.append_nil]
    exact h
  | cons e rest ih =>
    cases e with
    | datagram bytes now utc =>
      have hrest := ih (h.datagram b bytes now utc)
      rwa [List.append_assoc] at hrest
    | turn => exact ih (h.turn b)
    | elapse milliseconds => exact ih (h.elapse b milliseconds)

/-- Several cycles take their snapshots in order, leave the intake alone and are all counted. -/
theorem foldl_dispatch (b : Behavior P S ε) (c : Course P S ε) (os : List Snapshot) :
    (os.foldl (dispatch b) c).dispatched = c.dispatched ++ os ∧
      (os.foldl (dispatch b) c).service.intake = c.service.intake ∧
      (os.foldl (dispatch b) c).service.dispatcher.cycle = c.service.dispatcher.cycle + os.length := by
  induction os generalizing c with
  | nil => exact ⟨(List.append_nil _).symm, rfl, rfl⟩
  | cons o rest ih =>
    obtain ⟨hdispatched, hintake, hcycle⟩ := ih (c.dispatch b o)
    obtain ⟨hone, hsame, hnext⟩ := c.dispatch_frame b o
    refine ⟨hdispatched.trans ?_, hintake.trans hsame, hcycle.trans ?_⟩
    · rw [hone, List.append_assoc]
      rfl
    · rw [hnext, List.length_cons]
      omega

/-- Nothing that was accepted is lost, done twice or taken out of turn, whatever datagrams come in, in whatever order with
the turns of the dispatcher and the ends of deliveries, and however deep the queue is.

Of a single reception: the queue changes only when a snapshot is handed over; a completed one is refused only when the
queue is full or nobody takes from it; and a datagram that is no packet changes nothing.

Of a run from an empty queue: the cycles, those after the end of receiving included, are made of the snapshots that were
handed over, in order and each once, and each is the live observation at the end of its reception; the queue holds no more
than its depth, and just that much when a snapshot is refused; there are as many cycles as snapshots were handed over; and
the station at the end is a function of the station at the beginning and the datagrams. -/
theorem accepted_snapshots_are_dispatched :
    (∀ (i : Intake) (fs : Files) (bytes : ByteArray) (now : Moment),
      let r := i.receive fs bytes now
      (r.queued = false → r.intake.queue = i.queue) ∧
        ((i.completed? fs bytes now).isSome = true → r.queued = false →
          i.queue.depth ≤ i.queue.items.length ∨ i.queue.hasTaker = false) ∧
        ∀ e, Packet.decode bytes = .error e → r.intake = i ∧ r.files = fs) ∧
    ∀ (b : Behavior P S ε) (scene : Scene S) (station : Station) (depth : Nat) (registry : Registry P) (limit grace : Nat)
      (events : List Event),
      let s : Service P ε := { intake := { station, queue := { depth } }, registry, dispatcher := .ofLimit limit grace }
      let before := run b { service := s, scene } events
      let after := before.close b
      (s.steps b events).run scene = (before.service, before.scene) ∧
        (before.service.close b).run before.scene = (after.service, after.scene) ∧
        after.dispatched = before.accepted ∧
        (∀ r ∈ before.receptions, r.queued = true → r.completed = some r.live) ∧
        (∀ r ∈ before.receptions, r.completed.isSome = true → r.queued = false → r.waiting = depth) ∧
        before.service.intake.queue.items.length ≤ depth ∧
        after.service.dispatcher.cycle = before.receptions.countP (·.queued) ∧
        after.service.intake.station =
          (events.filterMap Event.datagram?).foldl (fun s d => s.hear d.1 d.2) station := by
  constructor
  · intro i fs bytes now
    have houtcome := i.receive_outcome fs bytes now
    exact ⟨houtcome.queue_eq, houtcome.why_refused, fun _ he => Intake.receive_of_decode_error he i fs now⟩
  · intro b scene station depth registry limit grace events s before after
    have hbegin : Conserves station depth [] ({ service := s, scene } : Course P S ε) := by
      refine ⟨rfl, rfl, Nat.zero_le _, rfl, rfl, rfl, ?_, ?_⟩
      · exact fun r hr => nomatch hr
      · exact fun r hr => nomatch hr
    have hbefore : Conserves station depth (events.filterMap Event.datagram?) before := hbegin.run b events
    obtain ⟨hdispatched, hintake, hcycle⟩ := foldl_dispatch b
      { before with scene := before.scene.noting [Service.shutdownLine] } before.service.intake.queue.items
    have hall : after.dispatched = before.accepted := hdispatched.trans hbefore.conserved
    have hrun := run_eq b ({ service := s, scene } : Course P S ε) events
    refine ⟨hrun, close_eq b before, hall, hbefore.handedOver, hbefore.refused, hbefore.fits, ?_, ?_⟩
    · calc after.service.dispatcher.cycle
          = before.dispatched.length + before.service.intake.queue.items.length := hcycle.trans (by rw [← hbefore.counted])
        _ = before.accepted.length := by rw [← hbefore.conserved, List.length_append]
        _ = before.receptions.countP (·.queued) := by rw [accepted, List.length_map, List.countP_eq_length_filter]
    · exact (congrArg Intake.station hintake).trans hbefore.station_eq

/-- A datagram with an air reading. -/
def airReading : Event :=
  .datagram "\x7b\"type\":\"obs_air\",\"serial_number\":\"A\",\"obs\":[[0,0,0,0,0,0]]\x7d".toUTF8 .start1970

/-- A datagram with a sky reading. -/
def skyReading : Event :=
  .datagram "\x7b\"type\":\"obs_sky\",\"serial_number\":\"S\",\"obs\":[[0,0,0,0,0,0,0,0,0,0,0]]\x7d".toUTF8 .start1970

/-- Publishers that do nothing. -/
def idle : Behavior Unit Unit String where
  init p _ := return .ok p
  update p _ _ _ := return (p, .now .done)
  cleanup p := return some p
  missing name := name

/-- Two cycles come in and none is taken, with room for one. -/
def twoCycles : Course Unit Unit String :=
  run idle
    { service := { intake := { station := {}, queue := { depth := 1 } }, registry := [], dispatcher := .ofLimit 1 0 }
      scene := { now := .start1970, outside := () } }
    [airReading, skyReading, airReading, skyReading]

set_option maxRecDepth 20000 in
/-- Of two cycles with room for one the first is dispatched and the second refused. -/
theorem full_queue_refuses_second_cycle :
    (twoCycles.receptions.map fun r => (r.completed.isSome, r.queued, r.waiting)) =
        [(false, false, 0), (true, true, 0), (false, false, 1), (true, false, 1)] ∧
      (twoCycles.close idle).service.dispatcher.cycle = 1 := by
  have hreceptions : (twoCycles.receptions.map fun r => (r.completed.isSome, r.queued, r.waiting)) =
      [(false, false, 0), (true, true, 0), (false, false, 1), (true, false, 1)] := by
    decide +kernel
  obtain ⟨-, -, -, -, -, -, hcycle, -⟩ := accepted_snapshots_are_dispatched.2 idle { now := .start1970, outside := () }
    {} 1 [] 1 0 [airReading, skyReading, airReading, skyReading]
  have hcount := congrArg (List.countP fun r => r.2.1) hreceptions
  rw [List.countP_map] at hcount
  exact ⟨hreceptions, hcycle.trans hcount⟩

end Course

end WeatherRelay
