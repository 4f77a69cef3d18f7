import Mathlib.Data.List.TakeWhile
import WeatherRelay.Proofs.Decimal
import WeatherRelay.Publish.Publisher

/-!
# Brokers by their names

A host of the configuration names a broker by a name alone, which has the usual port, or by a name and a port with a
colon between them, the last one (`NamesBroker`). Every such host makes a session with that name and port. So does a
port after a colon with no name before it (`Nameless`): that there is a host is checked before it is split. All other
hosts are refused, and nothing is done (`sessions_follow_hosts`).
-/

namespace WeatherRelay.Mqtt

/-! ## What names a broker -/

/-- That a text writes a port: the digits of a number up to 65535, which may have a plus sign. -/
def WritesPort (text : List Char) (n : Nat) : Prop :=
  ∃ ds, (text = ds ∨ text = '+' :: ds) ∧
    ds ≠ [] ∧ (∀ c ∈ ds, c.isDigit = true) ∧ Nat.ofDigitChars 10 ds 0 = n ∧ n ≤ 65535

/-- That a text is a name of a broker, not the empty one, alone or with a port after a colon. -/
def NamesBroker (text name : List Char) (n : Nat) : Prop :=
  name ≠ [] ∧ (text = name ∧ ':' ∉ name ∧ n = usualPort ∨ ∃ port, text = name ++ ':' :: port ∧ WritesPort port n)

/-- That a text is a port after a colon without a name. -/
def Nameless (text : List Char) (n : Nat) : Prop := ∃ port, text = ':' :: port ∧ WritesPort port n

/-- That a text is taken for a name, which may be missing, and a port. -/
def IsTaken (text name : List Char) (n : Nat) : Prop := NamesBroker text name n ∨ name = [] ∧ Nameless text n

/-! ## Ports -/

theorem port?_eq_some_iff {text : List Char} {n : Nat} : port? text = some n ↔ WritesPort text n := by
  constructor
  · intro h
    unfold port? at h
    split at h
    case h_1 ds => exact ⟨ds, Or.inr rfl, Decimal.bounded?_eq_some_iff.mp h⟩
    case h_2 => exact ⟨text, Or.inl rfl, Decimal.bounded?_eq_some_iff.mp h⟩
  · rintro ⟨ds, rfl | rfl, hwritten⟩
    · unfold port?
      split
      case h_1 => exact absurd (hwritten.2.1 '+' List.mem_cons_self) (by decide)
      case h_2 => exact Decimal.bounded?_eq_some_iff.mpr hwritten
    · exact Decimal.bounded?_eq_some_iff.mpr hwritten

/-- A text writes one port at most. -/
theorem WritesPort.unique {text : List Char} {n m : Nat} (h : WritesPort text n) (h' : WritesPort text m) : n = m :=
  Option.some.inj ((port?_eq_some_iff.mpr h).symm.trans (port?_eq_some_iff.mpr h'))

/-- A port holds no colon. -/
theorem WritesPort.colon_notMem {text : List Char} {n : Nat} (h : WritesPort text n) : ':' ∉ text := by
  obtain ⟨ds, htext, -, hdigits, -⟩ := h
  have hcolon : ':' ∉ ds := fun hmem => absurd (hdigits ':' hmem) (by decide)
  rcases htext with rfl | rfl
  · exact hcolon
  · exact List.not_mem_cons_of_ne_of_not_mem (by decide) hcolon

/-! ## The last colon -/

/-- A text without colons has none from behind. -/
theorem passes_reverse {cs : List Char} (h : ':' ∉ cs) : ∀ c ∈ cs.reverse, (c != ':') = true := by
  intro c hc
  refine bne_iff_ne.mpr ?_
  rintro rfl
  exact h (List.mem_reverse.mp hc)

theorem splitLast?_of_notMem {cs : List Char} (h : ':' ∉ cs) : splitLast? cs = none := by
  rw [splitLast?, List.dropWhile_eq_nil_iff.mpr (passes_reverse h)]

theorem splitLast?_append (name : List Char) {port : List Char} (h : ':' ∉ port) :
    splitLast? (name ++ ':' :: port) = some (name, port) := by
  have hreverse : (name ++ ':' :: port).reverse = port.reverse ++ ':' :: name.reverse := by simp
  rw [splitLast?, hreverse, List.dropWhile_append_of_pos (passes_reverse h), List.takeWhile_append_of_pos (passes_reverse h)]
  simp

/-- A text with a colon has a last one. -/
theorem exists_last_colon {cs : List Char} (h : ':' ∈ cs) : ∃ name port, cs = name ++ ':' :: port ∧ ':' ∉ port := by
  obtain ⟨back, front, hcs, hback⟩ := List.eq_append_cons_of_mem (List.mem_reverse.mpr h)
  refine ⟨front.reverse, back.reverse, ?_, fun hmem => hback (List.mem_reverse.mp hmem)⟩
  rw [← List.reverse_reverse cs, hcs]
  simp

/-! ## What is read -/

/-- A host is blank, or it has no colon, or what stands after its last colon has to be a port. -/
theorem broker_cases (host : String) :
    let text := Text.trimmed host.toList
    (text = [] ∧ broker host = .error .noHost) ∨
      (text ≠ [] ∧ ':' ∉ text ∧ broker host = .ok (String.ofList text, usualPort)) ∨
      ∃ name port, text = name ++ ':' :: port ∧ ':' ∉ port ∧
        ((∃ n, WritesPort port n ∧ broker host = .ok (String.ofList name, n)) ∨
          (∀ n, ¬WritesPort port n) ∧ broker host = .error (.badPort (String.ofList text))) := by
  unfold broker
  dsimp only
  generalize Text.trimmed host.toList = text
  by_cases hempty : text = []
  · exact Or.inl ⟨hempty, if_pos (List.isEmpty_iff.mpr hempty)⟩
  refine Or.inr ?_
  rw [if_neg (mt List.isEmpty_iff.mp hempty)]
  by_cases hcolon : ':' ∈ text
  · obtain ⟨name, port, rfl, hport⟩ := exists_last_colon hcolon
    refine Or.inr ⟨name, port, rfl, hport, ?_⟩
    rw [splitLast?_append name hport]
    dsimp only
    cases hread : port? port with
    | none =>
      refine Or.inr ⟨fun n hwritten => ?_, rfl⟩
      rw [port?_eq_some_iff.mpr hwritten] at hread
      nomatch hread
    | some n => exact Or.inl ⟨n, port?_eq_some_iff.mp hread, rfl⟩
  · rw [splitLast?_of_notMem hcolon]
    exact Or.inl ⟨hempty, hcolon, rfl⟩

theorem not_isTaken_nil (name : List Char) (n : Nat) : ¬IsTaken [] name n := by
  rintro (⟨hname, ⟨hnil, -⟩ | ⟨port, hnil, -⟩⟩ | ⟨-, port, hnil, -⟩)
  · exact hname hnil.symm
  · exact List.append_ne_nil_of_right_ne_nil name (List.cons_ne_nil ':' port) hnil.symm
  · exact List.cons_ne_nil ':' port hnil.symm

/-- A text without colons is taken for a name. -/
theorem isTaken_of_notMem {text name : List Char} {n : Nat} (hempty : text ≠ []) (hcolon : ':' ∉ text) :
    IsTaken text name n ↔ text = name ∧ usualPort = n := by
  have hnone : ∀ front port, text ≠ front ++ ':' :: port := by
    rintro front port rfl
    exact hcolon (List.mem_append_right front List.mem_cons_self)
  constructor
  · rintro (⟨-, ⟨htext, -, hn⟩ | ⟨port, htext, -⟩⟩ | ⟨-, port, htext, -⟩)
    · exact ⟨htext, hn.symm⟩
    · exact absurd htext (hnone name port)
    · exact absurd htext (hnone [] port)
  · rintro ⟨rfl, rfl⟩
    exact Or.inl ⟨hempty, Or.inl ⟨rfl, hcolon, rfl⟩⟩

/-- A text with a colon is taken for what stands before and after the last one. -/
theorem isTaken_append {front port name : List Char} {n : Nat} (hport : ':' ∉ port) :
    IsTaken (front ++ ':' :: port) name n ↔ front = name ∧ WritesPort port n := by
  -- the colon before what writes a port is the last one
  have hlast : ∀ name written, WritesPort written n → front ++ ':' :: port = name ++ ':' :: written →
      front = name ∧ WritesPort port n := by
    intro name written hwritten hsame
    have hsplit := congrArg splitLast? hsame
    rw [splitLast?_append _ hport, splitLast?_append _ hwritten.colon_notMem] at hsplit
    obtain ⟨rfl, rfl⟩ := Prod.mk.inj (Option.some.inj hsplit)
    exact ⟨rfl, hwritten⟩
  constructor
  · rintro (⟨-, ⟨rfl, hnone, -⟩ | ⟨written, hsame, hwritten⟩⟩ | ⟨rfl, written, hsame, hwritten⟩)
    · exact absurd (List.mem_append_right front List.mem_cons_self) hnone
    · exact hlast name written hwritten hsame
    · exact hlast [] written hwritten hsame
  · rintro ⟨rfl, hwritten⟩
    cases front with
    | nil => exact Or.inr ⟨rfl, port, rfl, hwritten⟩
    | cons c rest => exact Or.inl ⟨List.cons_ne_nil c rest, Or.inr ⟨port, rfl, hwritten⟩⟩

/-- The name and port of a broker are those that the host is taken for. -/
theorem broker_eq_ok_iff {host name : String} {n : Nat} :
    broker host = .ok (name, n) ↔ IsTaken (Text.trimmed host.toList) name.toList n := by
  have hname : ∀ front : List Char, String.ofList front = name ↔ front = name.toList := by
    intro front
    exact ⟨fun h => h ▸ String.toList_ofList.symm, fun h => h ▸ String.ofList_toList⟩
  rcases broker_cases host with ⟨hempty, hbroker⟩ | ⟨hempty, hcolon, hbroker⟩ | ⟨front, port, htext, hport, hread⟩
  · rw [hempty, hbroker, iff_false_right (not_isTaken_nil _ _)]
    exact nofun
  · rw [isTaken_of_notMem hempty hcolon, hbroker, Except.ok.injEq, Prod.mk.injEq, hname]
  · rw [htext, isTaken_append hport]
    rcases hread with ⟨m, hwritten, hbroker⟩ | ⟨hbad, hbroker⟩
    · have hport : m = n ↔ WritesPort port n := ⟨fun h => h ▸ hwritten, hwritten.unique⟩
      rw [hbroker, Except.ok.injEq, Prod.mk.injEq, hname, hport]
    · rw [hbroker, iff_false_right fun h => hbad n h.2]
      exact nofun

example : broker " 10.0.0.2:+08883\n" = .ok ("10.0.0.2", 8883) := by decide

/-- Why a text is refused. -/
def refusal (text : List Char) : BrokerError := if text = [] then .noHost else .badPort (String.ofList text)

/-- What is taken for nothing is refused. -/
theorem broker_eq_error_iff {host : String} {e : BrokerError} :
    broker host = .error e ↔
      refusal (Text.trimmed host.toList) = e ∧ ∀ name n, ¬IsTaken (Text.trimmed host.toList) name n := by
  have hrefused : ∀ e, broker host = .error e → refusal (Text.trimmed host.toList) = e := by
    intro e h
    rcases broker_cases host with
      ⟨hempty, hbroker⟩ | ⟨-, -, hbroker⟩ | ⟨front, port, htext, -, ⟨m, -, hbroker⟩ | ⟨-, hbroker⟩⟩
    · rw [refusal, if_pos hempty]
      exact Except.error.inj (hbroker.symm.trans h)
    · nomatch hbroker.symm.trans h
    · nomatch hbroker.symm.trans h
    · have hsome : Text.trimmed host.toList ≠ [] :=
        htext ▸ List.append_ne_nil_of_right_ne_nil front (List.cons_ne_nil ':' port)
      rw [refusal, if_neg hsome]
      exact Except.error.inj (hbroker.symm.trans h)
  constructor
  · intro h
    refine ⟨hrefused e h, fun name n htaken => ?_⟩
    rw [← String.toList_ofList (l := name), ← broker_eq_ok_iff, h] at htaken
    nomatch htaken
  · rintro ⟨rfl, hnone⟩
    cases h : broker host with
    | error e => rw [hrefused e h]
    | ok made => exact absurd (broker_eq_ok_iff.mp h) (hnone _ _)

end WeatherRelay.Mqtt

namespace WeatherRelay.Publisher

open Mqtt

theorem join_of_error {c : DestinationConfig} {e : BrokerError} (h : broker c.host = .error e) (scene : Scene Outside) :
    (join c).run scene = (.error (.config (.broker e)), scene) := by
  unfold join
  rw [h]
  rfl

/-- To do something or not, and then to return, leaves the log as it is. -/
theorem act_if_run {α : Type} (p : Prop) [Decidable p] (e : Effect) (a : α) (scene : Scene Outside) :
    let made := (do
      if p then Outside.act e
      return a : Action Outside α).run scene
    made.1 = a ∧ made.2.log = scene.log := by
  dsimp only
  split
  · exact ⟨rfl, rfl⟩
  · exact ⟨rfl, rfl⟩

/-- A host that names a broker makes a session, which is with the broker of that name at that port. -/
theorem join_of_ok {c : DestinationConfig} {name : String} {n : Nat} (h : broker c.host = .ok (name, n))
    (scene : Scene Outside) :
    ((join c).run scene).1 = .ok (.topics (some { isReached := scene.outside.network.reach name n = .accepted })) ∧
      ((join c).run scene).2.lines = scene.lines ++ [.info s!"[MQTT] connecting to {name}:{n}"] := by
  let noted := scene.noting [.info s!"[MQTT] connecting to {name}:{n}"]
  let dialed := (Outside.dial name n).run noted
  obtain ⟨hreach, hdialed⟩ : dialed.1 = scene.outside.network.reach name n ∧ dialed.2.log = noted.log :=
    act_if_run _ (.dialed name n) (scene.outside.network.reach name n) noted
  let given (s : String) : Option String := if s.isEmpty then none else some s
  have hjoin : (join c).run scene =
      (do
        if dialed.1 = .accepted then
          Outside.act (.joined (given c.name) (if c.name.isEmpty then none else given c.password))
        return .ok (.topics (some { isReached := dialed.1 = .accepted })) : Action Outside _).run dialed.2 := by
    unfold join
    rw [h]
    rfl
  obtain ⟨hmade, hlog⟩ := act_if_run (dialed.1 = .accepted)
    (.joined (given c.name) (if c.name.isEmpty then none else given c.password))
    (Except.ok (ε := PublishError) (topics (some { isReached := dialed.1 = .accepted }))) dialed.2
  rw [hjoin, ← hreach, Scene.lines, hlog.trans hdialed]
  exact ⟨hmade, List.map_append⟩

/-- Which hosts make sessions, with which name and port.

The name and port that a host is read as are those that it names, at the usual port if it writes none; a host without a
name is read too, as the empty name and the port that it writes. A publisher that is made ready has a session then,
which is with that name at that port whatever comes of connecting. Of every other host it is told what is wrong with it,
and nothing else happens. -/
theorem sessions_follow_hosts (kept : Option Session) (c : DestinationConfig) (scene : Scene Outside) :
    let text := Text.trimmed c.host.toList
    let made := (init (.topics kept) c).run scene
    (∀ name n, broker c.host = .ok (name, n) ↔ NamesBroker text name.toList n ∨ name = "" ∧ Nameless text n) ∧
      match broker c.host with
      | .ok (name, n) =>
        made.1 = .ok (.topics (some { isReached := scene.outside.network.reach name n = .accepted })) ∧
          made.2.lines = scene.lines ++ [.info s!"[MQTT] connecting to {name}:{n}"]
      | .error e =>
        (∀ name n, ¬NamesBroker text name n) ∧ (∀ n, ¬Nameless text n) ∧ e = refusal text ∧
          made = (.error (.config (.broker e)), scene) := by
  intro text made
  refine ⟨fun name n => ?_, ?_⟩
  · rw [broker_eq_ok_iff, IsTaken, String.toList_eq_nil_iff]
  · cases hread : broker c.host with
    | ok found => exact join_of_ok hread scene
    | error e =>
      obtain ⟨hwhy, hnone⟩ := broker_eq_error_iff.mp hread
      exact ⟨fun name n h => hnone name n (Or.inl h), fun n h => hnone [] n (Or.inr ⟨rfl, h⟩), hwhy.symm,
      join_of_error hread scene⟩

/-- A host that is a port alone. -/
def portAlone : DestinationConfig := { service := "MQTT", host := ":1883" }

/-- It names no broker, but makes a session with the empty name. -/
theorem port_alone_makes_session :
    let scene : Scene Outside := { now := .start1970, outside := { network := { reach := fun _ _ => .unresolved } } }
    broker portAlone.host = .ok ("", 1883) ∧ (∀ name n, ¬NamesBroker (Text.trimmed portAlone.host.toList) name n) ∧
      ((init (.topics none) portAlone).run scene).1 = .ok (.topics (some { isReached := false })) := by
  intro scene
  have hread : broker portAlone.host = .ok ("", 1883) := by decide
  refine ⟨hread, ?_, (join_of_ok hread scene).1⟩
  have htrimmed : Text.trimmed portAlone.host.toList = ':' :: "1883".toList := by decide
  rw [htrimmed]
  rintro name n ⟨hname, ⟨rfl, hcolon, -⟩ | ⟨port, htext, -⟩⟩
  · exact hcolon List.mem_cons_self
  · -- the only colon is the first letter
    obtain ⟨first, rest, rfl⟩ := List.exists_cons_of_ne_nil hname
    obtain ⟨-, hrest⟩ := List.cons.inj htext
    have hcolon : ':' ∈ "1883".toList := hrest ▸ List.mem_append_right rest List.mem_cons_self
    exact absurd hcolon (by decide)

end WeatherRelay.Publisher
