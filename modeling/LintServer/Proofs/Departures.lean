/-
  LintServer.Proofs.Departures — an exit is announced once, and performed as it was announced.

  The operations of the exit, signals, messages and the clock come in any order, and so does all
  other work of the server. The first of them that is an exit decides: the editor is told its code
  and no other; if it was requested and there is such a time, it is performed with that code once
  the clock gets there, whatever comes meanwhile; and nothing else is ever performed. A request for
  which there is no such time stays announced and is never performed.
  - `Act`, `Moment.act`: all that can happen to a server, by itself or by way of its exit.
  - `Moment.parting?`, `Parting.deeds`: which acts are exits, and all that comes of the first.
  - `exitStep_unspoken`, `exitStep_parts`, `exitStep_announced`: a step before the first exit, the
    first exit, and a step after it.
  - `acted_signals`: the signals that are heard are those that handlers were installed for.
  - `exit_is_announced_once`: every run.
-/

import LintServer.Proofs.Outcomes
import LintServer.Proofs.Partings

namespace LintServer

/-- An operation of the exit, or a move of the server. -/
inductive Act where
  | announce (code : Int) (stack : Option String)
  | request (code : Int) (stack : Option String)
  | called (code : Int)
  | install (signals : List Int)
  | move (mv : Move)

namespace Act

/-- Whether the editor asks for a shutdown. -/
def isShutdown : Act → Bool
  | .move (.message x) => x.isShutdown
  | _ => false

/-- The time by a clock after an act in which time passes, if there is such a time. -/
def clock? (now : Delay) : Act → Option Delay
  | .move (.time seconds) => (now.add seconds).toOption
  | _ => none

/-- The signals that an act installs handlers for: a server that is down installs none of its
own. -/
def installs (isDown : Bool) : Act → List Int
  | .install signals => signals
  | .move (.message .initialized) => if isDown then [] else [Exit.terminationSignal]
  | _ => []

/-- The signals that handlers are installed for in the course of some acts. -/
def installed (isDown : Bool) : List Act → List Int
  | [] => []
  | a :: later => a.installs isDown ++ installed (isDown || a.isShutdown) later

/-- Tasks are done in surroundings whose lint runs do not speak of exits. -/
def Discreet : Act → Prop
  | .move (.task env _) => env.Discreet
  | _ => True

end Act

/-- Whether a clock gets to a time in the course of some acts. -/
def Delay.isReached (due now : Delay) : List Act → Bool
  | [] => false
  | a :: later =>
    match a.clock? now with
    | some now => due.hasCome now || due.isReached now later
    | none => due.isReached now later

/-- An exit as it is announced, and whether it is to be performed after the delay. -/
structure Parting where
  code : Int
  stack : String := Exit.ownStack
  isRequest : Bool := false
  deriving DecidableEq, Repr

/-- When an exit is to be performed: if it was requested and there is such a time. -/
def Parting.due? (p : Parting) (delay now : Delay) : Option Delay :=
  if p.isRequest then (now.add delay).toOption else none

/-- All that comes of an exit that nobody announced before, with the delay, the time by the clock
and all that happens later. -/
def Parting.deeds (p : Parting) (delay now : Delay) (later : List Act) : List Effect :=
  .told (.exitCalled p.code p.stack) ::
    match p.due? delay now with
    | some due => .scheduled delay :: if due.isReached now later then [.terminated p.code] else []
    | none => []

/-! ## Steps of the exit -/

namespace Exit

/-- No exit was announced or scheduled. -/
structure Unspoken (e : Exit) : Prop where
  announced : e.announced = false
  timer : e.timer = none

/-- What is still to be done of an exit that was announced. -/
def outstanding (e : Exit) (later : List Act) : List Effect :=
  match e.timer with
  | some t => if !t.fired && t.due.isReached e.now later then [.terminated t.code] else []
  | none => []

/-- After a step all that comes of an exit is done, or still to be done. -/
structure Departs (e : Exit) (p : Parting) (r : Exit × List Effect) : Prop where
  announced : r.1.announced = true
  deeds : ∀ later, r.2.filter Effect.isParting ++ r.1.outstanding later =
    p.deeds e.delay e.now later

/-- An act takes nothing away from what is still to be done of an exit, and adds nothing. -/
structure Awaits (e : Exit) (a : Act) (r : Exit × List Effect) : Prop where
  announced : r.1.announced = true
  outstanding : ∀ later, r.2.filter Effect.isParting ++ r.1.outstanding later =
    e.outstanding (a :: later)

/-- A step that is no exit. -/
structure Stays (e : Exit) (r : Exit × List Effect) : Prop where
  unspoken : r.1.Unspoken
  delay : r.1.delay = e.delay
  partings : r.2.filter Effect.isParting = []

variable {e : Exit}

theorem outstanding_nil (e : Exit) : e.outstanding [] = [] := by
  unfold outstanding
  split <;> simp [Delay.isReached]

/-! The first exit -/

theorem announce_departs (h : e.Unspoken) (code : Int) (stack : Option String) :
    e.Departs ⟨code, stack.getD ownStack, false⟩ (e.announce code stack) := by
  rw [announce, h.announced]
  refine ⟨rfl, fun later => ?_⟩
  simp only [outstanding, h.timer]
  rfl

theorem called_departs (h : e.Unspoken) (code : Int) :
    e.Departs { code } (e.called code) := by
  rw [called, announce, h.announced]
  refine ⟨rfl, fun later => ?_⟩
  simp only [outstanding, h.timer]
  rfl

theorem request_departs (h : e.Unspoken) (code : Int) (stack : Option String) :
    e.Departs ⟨code, stack.getD ownStack, true⟩ (e.request code stack).1 := by
  cases hd : e.now.add e.delay with
  | error f =>
    -- there is no such time: the request comes to an announcement
    have hr : (e.request code stack).1 = e.announce code stack := by
      simp [request, announce, h.announced, hd]
    rw [hr]
    obtain ⟨ha, hdeeds⟩ := announce_departs h code stack
    refine ⟨ha, fun later => (hdeeds later).trans ?_⟩
    simp only [Parting.deeds, Parting.due?, hd]
    rfl
  | ok due =>
    have hr : (e.request code stack).1 =
        ({ e with announced := true, timer := some { due, code } },
          (e.announce code stack).2 ++ [.scheduled e.delay]) := by
      simp [request, announce, h.announced, hd]
    rw [hr, announce, h.announced]
    refine ⟨rfl, fun later => ?_⟩
    simp only [Parting.deeds, Parting.due?, hd]
    rfl

theorem signal_of_unheard {n : Int} (hears : e.hears n = false) :
    e.signal n = ((e, []), none) := by
  rw [signal, hears]
  rfl

theorem signal_departs (h : e.Unspoken) {n : Int} (hears : e.hears n = true) :
    e.Departs { code := 128 + n, isRequest := true } (e.signal n).1 := by
  rw [signal, if_pos hears]
  exact request_departs h (128 + n) none

/-! Before the first exit, and after it -/

theorem install_eq (signals : List Int) (e : Exit) :
    ∃ es, Exit.install signals e =
      ({ e with signals := e.signals ++ if e.canHandle then signals else [] }, es) ∧
      es.filter Effect.isParting = [] := by
  unfold install
  split
  · rename_i h
    rw [List.isEmpty_iff.mp h, ite_self, List.append_nil]
    exact ⟨_, rfl, rfl⟩
  · split
    · refine ⟨_, rfl, ?_⟩
      rw [List.filter_map, List.map_eq_nil_iff, List.filter_eq_nil_iff]
      exact fun _ _ => by simp [Effect.isParting]
    · rw [List.append_nil]
      exact ⟨_, rfl, rfl⟩

theorem install_stays (h : e.Unspoken) (signals : List Int) :
    e.Stays (Exit.install signals e) := by
  obtain ⟨es, he, hes⟩ := install_eq signals e
  rw [he]
  exact ⟨⟨h.announced, h.timer⟩, rfl, hes⟩

theorem advance_of_error {seconds : Delay} {f : Failure} (hn : e.now.add seconds = .error f) :
    e.advance seconds = ((e, []), some f) := by
  rw [advance, hn]

theorem advance_of_ok {seconds now : Delay} (hn : e.now.add seconds = .ok now) :
    e.advance seconds = (e.reach now, none) := by
  rw [advance, hn]

theorem advance_stays (h : e.Unspoken) (seconds : Delay) : e.Stays (e.advance seconds).1 := by
  cases hn : e.now.add seconds with
  | error f =>
    rw [advance_of_error hn]
    exact ⟨h, rfl, rfl⟩
  | ok now =>
    rw [advance_of_ok hn, reach, h.timer]
    exact ⟨⟨h.announced, rfl⟩, rfl, rfl⟩

/-- Nothing but time bears on what is still to be done. -/
theorem awaits_of_clock {a : Act} {heard : List Int} {es : List Effect}
    (ha : e.announced = true) (hc : a.clock? e.now = none)
    (hes : es.filter Effect.isParting = []) : e.Awaits a ({ e with signals := heard }, es) := by
  refine ⟨ha, fun later => ?_⟩
  simp only [hes, List.nil_append, outstanding, Delay.isReached, hc]

/-- Whoever comes later is not heard. -/
theorem request_of_announced (h : e.announced = true) (code : Int) (stack : Option String) :
    e.request code stack = ((e, []), none) := by
  rw [request, if_pos h]

theorem signal_of_announced (h : e.announced = true) (n : Int) :
    e.signal n = ((e, []), none) := by
  cases hears : e.hears n with
  | false => exact signal_of_unheard hears
  | true => rw [signal, if_pos hears, request_of_announced h]

theorem advance_awaits (h : e.announced = true) (seconds : Delay) :
    e.Awaits (.move (.time seconds)) (e.advance seconds).1 := by
  cases hn : e.now.add seconds with
  | error f =>
    rw [advance_of_error hn]
    exact awaits_of_clock h (by simp [Act.clock?, hn, Except.toOption]) rfl
  | ok now =>
    have hc : Act.clock? e.now (.move (.time seconds)) = some now := by
      simp [Act.clock?, hn, Except.toOption]
    rw [advance_of_ok hn, reach]
    cases ht : e.timer with
    | none => exact ⟨h, fun later => by simp [outstanding, ht]⟩
    | some t =>
      simp only
      split <;> rename_i hd <;> refine ⟨h, fun later => ?_⟩
      · obtain ⟨hf, hd⟩ : t.fired = false ∧ t.due.hasCome now = true := by
          simpa [Timer.isDue] using hd
        simp [outstanding, ht, hf, hd, Delay.isReached, hc, Effect.isParting]
      · have hsame : (!t.fired && t.due.isReached e.now (.move (.time seconds) :: later)) =
            (!t.fired && t.due.isReached now later) := by
          have hd : (!t.fired && t.due.hasCome now) = false := by simpa [Timer.isDue] using hd
          simp only [Delay.isReached, hc]
          cases hf : t.fired <;> simp_all
        simp only [outstanding, ht, hsame]
        rfl

/-! Handlers for signals -/

/-- A step that leaves them as they are. -/
structure SameHandlers (e : Exit) (r : Exit × List Effect) : Prop where
  signals : r.1.signals = e.signals
  canHandle : r.1.canHandle = e.canHandle

theorem announce_handlers (code : Int) (stack : Option String) (e : Exit) :
    e.SameHandlers (e.announce code stack) := by
  unfold announce
  split <;> exact ⟨rfl, rfl⟩

theorem called_handlers (code : Int) (e : Exit) : e.SameHandlers (e.called code) := by
  unfold called
  split
  · exact ⟨rfl, rfl⟩
  · exact ⟨(announce_handlers code none e).signals, (announce_handlers code none e).canHandle⟩

theorem request_handlers (code : Int) (stack : Option String) (e : Exit) :
    e.SameHandlers (e.request code stack).1 := by
  have ha := announce_handlers code stack e
  unfold request
  split
  · exact ⟨rfl, rfl⟩
  · simp only
    split
    · exact ⟨ha.signals, ha.canHandle⟩
    · exact ha

theorem signal_handlers (n : Int) (e : Exit) : e.SameHandlers (e.signal n).1 := by
  cases hears : e.hears n with
  | false =>
    rw [signal_of_unheard hears]
    exact ⟨rfl, rfl⟩
  | true =>
    rw [signal, if_pos hears]
    exact request_handlers (128 + n) none e

theorem advance_handlers (seconds : Delay) (e : Exit) : e.SameHandlers (e.advance seconds).1 := by
  cases hn : e.now.add seconds with
  | error f =>
    rw [advance_of_error hn]
    exact ⟨rfl, rfl⟩
  | ok now =>
    rw [advance_of_ok hn, reach]
    split
    · exact ⟨rfl, rfl⟩
    · split <;> exact ⟨rfl, rfl⟩

theorem install_signals (signals : List Int) (e : Exit) :
    (Exit.install signals e).1.signals = e.signals ++ (if e.canHandle then signals else []) ∧
      (Exit.install signals e).1.canHandle = e.canHandle := by
  obtain ⟨es, he, -⟩ := install_eq signals e
  rw [he]
  exact ⟨rfl, rfl⟩

end Exit

/-! ## Acts -/

namespace Moment

/-- All that was done to the outside by exits. -/
def partings (m : Moment) : List Effect := m.server.session.partings

/-- A step of the exit, beside the work in hand. -/
def leaving (step : Exit → Exit × List Effect) (m : Moment) : Moment :=
  { m with server := m.server.leaving step }

/-- An act. -/
def act (m : Moment) : Act → Moment
  | .announce code stack => m.leaving (Exit.announce code stack)
  | .request code stack => m.leaving fun e => (e.request code stack).1
  | .called code => m.leaving (Exit.called code)
  | .install signals => m.leaving (Exit.install signals)
  | .move mv => m.next mv

def acted (m : Moment) (acts : List Act) : Moment := acts.foldl act m

/-- The exit that an act is, if it is one. -/
def parting? (m : Moment) : Act → Option Parting
  | .announce code stack => some { code, stack := stack.getD Exit.ownStack }
  | .request code stack => some ⟨code, stack.getD Exit.ownStack, true⟩
  | .called code => some { code }
  | .install _ => none
  | .move (.signal n) =>
    if m.server.exit.hears n then some { code := 128 + n, isRequest := true } else none
  | .move (.message .exit) => some { code := m.server.exitCode }
  | .move _ => none

/-- What an act does to the exit. -/
def exitStep (m : Moment) : Act → Exit × List Effect
  | .announce code stack => m.server.exit.announce code stack
  | .request code stack => (m.server.exit.request code stack).1
  | .called code => m.server.exit.called code
  | .install signals => Exit.install signals m.server.exit
  | .move (.signal n) => (m.server.exit.signal n).1
  | .move (.time seconds) => (m.server.exit.advance seconds).1
  | .move (.message .exit) => m.server.exit.called m.server.exitCode
  | .move (.message .initialized) =>
    if m.server.isDown then (m.server.exit, [])
    else Exit.install [Exit.terminationSignal] m.server.exit
  | .move _ => (m.server.exit, [])

variable {m : Moment} {a : Act}

/-- The step of the exit is all that an act does to it and says of it, and only the editor's request
is remembered as a shutdown. -/
structure Acts (m : Moment) (a : Act) : Prop where
  exit : (m.act a).server.exit = (m.exitStep a).1
  partings : (m.act a).partings = m.partings ++ (m.exitStep a).2.filter Effect.isParting
  isDown : (m.act a).server.isDown = (m.server.isDown || a.isShutdown)

theorem Acts.of_leaving (step : Exit → Exit × List Effect) (ha : m.act a = m.leaving step)
    (hs : m.exitStep a = step m.server.exit) (hd : a.isShutdown = false) : Acts m a := by
  refine ⟨?_, ?_, ?_⟩
  · rw [ha, hs]
    rfl
  · rw [ha, hs]
    exact Session.emit_partings _ m.server.session
  · rw [ha, hd, Bool.or_false]
    rfl

/-- An act that has nothing to do with leaving. -/
theorem Acts.of_apart (hs : m.exitStep a = (m.server.exit, []))
    (h : m.server.Apart (m.act a).server) (hd : a.isShutdown = false) : Acts m a := by
  refine ⟨h.exit.trans (congrArg Prod.fst hs).symm, ?_, ?_⟩
  · rw [hs]
    exact h.partings.trans (List.append_nil _).symm
  · rw [hd, Bool.or_false]
    exact h.isDown

theorem initialized_acts (m : Moment) : Acts m (.move (.message .initialized)) := by
  cases hu : m.server.isDown with
  | true =>
    have ha : m.act (.move (.message .initialized)) = m := if_neg (by simp [Server.hears, hu])
    refine .of_apart (by simp [exitStep, hu]) ?_ rfl
    rw [ha]
    exact .refl _
  | false =>
    have ha : m.act (.move (.message .initialized)) =
        m.leaving (Exit.install [Exit.terminationSignal]) := if_pos (by simp [Server.hears, hu])
    exact .of_leaving _ ha (by simp [exitStep, hu]) rfl

theorem shutdown_acts (m : Moment) (id : Json) : Acts m (.move (.message (.shutdown id))) := by
  cases hu : m.server.isDown with
  | true =>
    have ha : m.act (.move (.message (.shutdown id))) = m := if_neg (by simp [Server.hears, hu])
    refine ⟨?_, ?_, ?_⟩ <;> rw [ha]
    · rfl
    · exact (List.append_nil _).symm
    · rw [hu]
      rfl
  | false =>
    have ha : m.act (.move (.message (.shutdown id))) = { server := m.server.shutdown id } :=
      if_pos (by simp [Server.hears, hu])
    refine ⟨?_, ?_, ?_⟩ <;> rw [ha]
    · rfl
    · exact (Session.emit_partings_of_none rfl rfl).trans (List.append_nil _).symm
    · exact (Bool.or_true _).symm

theorem exit_acts (m : Moment) : Acts m (.move (.message .exit)) := by
  refine ⟨rfl, ?_, (Bool.or_false _).symm⟩
  let left := m.server.leaving (Exit.called m.server.exitCode)
  calc (left.emit [.closed, .exited m.server.exitCode]).session.partings
    _ = left.session.partings := Session.emit_partings_of_none rfl rfl
    _ = m.partings ++ (m.server.exit.called m.server.exitCode).2.filter Effect.isParting :=
      Session.emit_partings _ m.server.session

theorem message_apart (m : Moment) {x : Incoming} (hx : x.isOfExit = false) :
    m.server.Apart (m.act (.move (.message x))).server := by
  simp only [act, next]
  split
  · exact Server.handle_apart m.server hx
  · exact .refl _

theorem message_acts (m : Moment) (x : Incoming) : Acts m (.move (.message x)) := by
  cases x with
  | initialized => exact initialized_acts m
  | shutdown id => exact shutdown_acts m id
  | exit => exact exit_acts m
  | _ => exact .of_apart rfl (message_apart m rfl) rfl

/-- What an act does, as long as no lint run speaks of exits. -/
theorem act_acts (m : Moment) (hd : a.Discreet) : Acts m a := by
  cases a with
  | announce code stack => exact .of_leaving (Exit.announce code stack) rfl rfl rfl
  | request code stack => exact .of_leaving (fun e => (e.request code stack).1) rfl rfl rfl
  | called code => exact .of_leaving (Exit.called code) rfl rfl rfl
  | install signals => exact .of_leaving (Exit.install signals) rfl rfl rfl
  | move mv =>
    cases mv with
    | message x => exact message_acts m x
    | take => exact .of_apart rfl (.of_eq rfl rfl rfl) rfl
    | task env place =>
      refine .of_apart rfl ?_ rfl
      simp only [act, next]
      split
      · exact .refl _
      · exact ⟨Session.perform_partings hd _ m.server.session, rfl, rfl⟩
    | runEnds place | found place =>
      refine .of_apart rfl ?_ rfl
      simp only [act, next]
      split
      · exact .refl _
      · exact .of_eq rfl rfl rfl
    | signal n => exact .of_leaving (fun e => (e.signal n).1) rfl rfl rfl
    | time seconds => exact .of_leaving (fun e => (e.advance seconds).1) rfl rfl rfl

/-! ## Steps before the first exit, the first exit, and after it -/

theorem exitStep_unspoken (h : m.server.exit.Unspoken) (hp : m.parting? a = none) :
    m.server.exit.Stays (m.exitStep a) := by
  have idle : m.server.exit.Stays (m.server.exit, []) := ⟨h, rfl, rfl⟩
  cases a with
  | announce code stack => cases hp
  | request code stack => cases hp
  | called code => cases hp
  | install signals => exact Exit.install_stays h signals
  | move mv =>
    cases mv with
    | signal n =>
      have unheard : m.server.exit.hears n = false := by simpa [parting?] using hp
      rw [exitStep, Exit.signal_of_unheard unheard]
      exact idle
    | time seconds => exact Exit.advance_stays h seconds
    | message x =>
      cases x with
      | initialized =>
        simp only [exitStep]
        split
        · exact idle
        · exact Exit.install_stays h _
      | exit => cases hp
      | _ => exact idle
    | _ => exact idle

theorem exitStep_parts (h : m.server.exit.Unspoken) {p : Parting} (hp : m.parting? a = some p) :
    m.server.exit.Departs p (m.exitStep a) := by
  cases a with
  | announce code stack =>
    cases hp
    exact Exit.announce_departs h code stack
  | request code stack =>
    cases hp
    exact Exit.request_departs h code stack
  | called code =>
    cases hp
    exact Exit.called_departs h code
  | install signals => cases hp
  | move mv =>
    cases mv with
    | signal n =>
      simp only [parting?] at hp
      split at hp
      · rename_i hears
        cases hp
        exact Exit.signal_departs h hears
      · cases hp
    | message x =>
      cases x with
      | exit =>
        cases hp
        exact Exit.called_departs h m.server.exitCode
      | _ => cases hp
    | _ => cases hp

theorem exitStep_announced (h : m.server.exit.announced = true) (a : Act) :
    m.server.exit.Awaits a (m.exitStep a) := by
  have idle : ∀ {a : Act}, a.clock? m.server.exit.now = none →
      m.server.exit.Awaits a (m.server.exit, []) := fun hc => Exit.awaits_of_clock h hc rfl
  have installs : ∀ {a : Act} signals, a.clock? m.server.exit.now = none →
      m.server.exit.Awaits a (Exit.install signals m.server.exit) := by
    intro a signals hc
    obtain ⟨es, he, hes⟩ := Exit.install_eq signals m.server.exit
    rw [he]
    exact Exit.awaits_of_clock h hc hes
  cases a with
  | announce code stack =>
    rw [exitStep, Exit.announce, if_pos h]
    exact idle rfl
  | request code stack =>
    rw [exitStep, Exit.request_of_announced h]
    exact idle rfl
  | called code =>
    rw [exitStep, Exit.called, if_pos h]
    exact idle rfl
  | install signals => exact installs signals rfl
  | move mv =>
    cases mv with
    | signal n =>
      rw [exitStep, Exit.signal_of_announced h]
      exact idle rfl
    | time seconds => exact Exit.advance_awaits h seconds
    | message x =>
      cases x with
      | initialized =>
        simp only [exitStep]
        split
        · exact idle rfl
        · exact installs _ rfl
      | exit =>
        rw [exitStep, Exit.called, if_pos h]
        exact idle rfl
      | _ => exact idle rfl
    | _ => exact idle rfl

/-- Handlers are added for the signals that an act installs them for, where that can be done. -/
theorem exitStep_signals (m : Moment) (a : Act) :
    (m.exitStep a).1.signals = m.server.exit.signals ++
        (if m.server.exit.canHandle then a.installs m.server.isDown else []) ∧
      (m.exitStep a).1.canHandle = m.server.exit.canHandle := by
  have same : ∀ {r : Exit × List Effect}, m.server.exit.SameHandlers r →
      r.1.signals = m.server.exit.signals ++ (if m.server.exit.canHandle then [] else []) ∧
        r.1.canHandle = m.server.exit.canHandle :=
    fun h => ⟨by rw [ite_self, List.append_nil, h.signals], h.canHandle⟩
  cases a with
  | announce code stack => exact same (Exit.announce_handlers code stack _)
  | request code stack => exact same (Exit.request_handlers code stack _)
  | called code => exact same (Exit.called_handlers code _)
  | install signals => exact Exit.install_signals signals _
  | move mv =>
    cases mv with
    | signal n => exact same (Exit.signal_handlers n _)
    | time seconds => exact same (Exit.advance_handlers seconds _)
    | message x =>
      cases x with
      | initialized =>
        simp only [exitStep, Act.installs]
        split
        · exact same ⟨rfl, rfl⟩
        · exact Exit.install_signals _ _
      | exit => exact same (Exit.called_handlers _ _)
      | _ => exact same ⟨rfl, rfl⟩
    | _ => exact same ⟨rfl, rfl⟩

/-! ## Runs -/

/-- None of some acts is an exit. -/
def Remains (m : Moment) : List Act → Prop
  | [] => True
  | a :: later => m.parting? a = none ∧ (m.act a).Remains later

/-- One of some acts is the first that is an exit. -/
structure Leaves (m : Moment) (acts before : List Act) (a : Act) (later : List Act)
    (p : Parting) : Prop where
  split : acts = before ++ a :: later
  remains : m.Remains before
  parts : (m.acted before).parting? a = some p

theorem remains_or_leaves (m : Moment) (acts : List Act) :
    m.Remains acts ∨ ∃ before a later p, m.Leaves acts before a later p := by
  induction acts generalizing m with
  | nil => exact .inl trivial
  | cons a later ih =>
    cases hp : m.parting? a with
    | some p => exact .inr ⟨[], a, later, p, rfl, trivial, hp⟩
    | none =>
      rcases ih (m.act a) with h | ⟨before, b, rest, p, rfl, h, hb⟩
      · exact .inl ⟨hp, h⟩
      · exact .inr ⟨a :: before, b, rest, p, rfl, ⟨hp, h⟩, hb⟩

/-- The server is down when it was asked to shut down. -/
theorem acted_isDown (m : Moment) {acts : List Act} (hd : ∀ a ∈ acts, a.Discreet) :
    (m.acted acts).server.isDown = (m.server.isDown || acts.any Act.isShutdown) := by
  induction acts generalizing m with
  | nil => exact (Bool.or_false _).symm
  | cons a later ih =>
    have first := (act_acts m (hd a List.mem_cons_self)).isDown
    have rest := ih (m.act a) fun b hb => hd b (List.mem_cons_of_mem a hb)
    rw [List.any_cons, ← Bool.or_assoc, ← first]
    exact rest

theorem acted_signals (m : Moment) {acts : List Act} (hd : ∀ a ∈ acts, a.Discreet) :
    (m.acted acts).server.exit.signals = m.server.exit.signals ++
      (if m.server.exit.canHandle then Act.installed m.server.isDown acts else []) := by
  induction acts generalizing m with
  | nil =>
    rw [Act.installed, ite_self, List.append_nil]
    rfl
  | cons a later ih =>
    have first := act_acts m (hd a List.mem_cons_self)
    have step := exitStep_signals m a
    have rest := ih (m.act a) fun b hb => hd b (List.mem_cons_of_mem a hb)
    rw [first.isDown, first.exit, step.1, step.2, List.append_assoc] at rest
    refine rest.trans ?_
    rw [Act.installed]
    split <;> rfl

/-- Where nothing is an exit, none is spoken of. -/
theorem acted_of_remains {acts : List Act} (hd : ∀ a ∈ acts, a.Discreet)
    (hu : m.server.exit.Unspoken) (hr : m.Remains acts) :
    (m.acted acts).server.exit.Unspoken ∧
      (m.acted acts).server.exit.delay = m.server.exit.delay ∧
      (m.acted acts).partings = m.partings := by
  induction acts generalizing m with
  | nil => exact ⟨hu, rfl, rfl⟩
  | cons a later ih =>
    have first := act_acts m (hd a List.mem_cons_self)
    have stays := exitStep_unspoken hu hr.1
    have unspoken : (m.act a).server.exit.Unspoken := by
      rw [first.exit]
      exact stays.unspoken
    obtain ⟨hu', hdelay, hparts⟩ :=
      ih (fun b hb => hd b (List.mem_cons_of_mem a hb)) unspoken hr.2
    rw [first.exit, stays.delay] at hdelay
    rw [first.partings, stays.partings, List.append_nil] at hparts
    exact ⟨hu', hdelay, hparts⟩

/-- All that is still to be done of an exit that was announced is done, and nothing else. -/
theorem acted_of_announced {acts : List Act} (hd : ∀ a ∈ acts, a.Discreet)
    (ha : m.server.exit.announced = true) :
    (m.acted acts).partings = m.partings ++ m.server.exit.outstanding acts := by
  induction acts generalizing m with
  | nil =>
    rw [Exit.outstanding_nil]
    exact (List.append_nil _).symm
  | cons a later ih =>
    have first := act_acts m (hd a List.mem_cons_self)
    have step := exitStep_announced ha a
    have rest := ih (m := m.act a) (fun b hb => hd b (List.mem_cons_of_mem a hb))
      (by rw [first.exit]; exact step.announced)
    calc (m.acted (a :: later)).partings
      _ = (m.act a).partings ++ (m.act a).server.exit.outstanding later := rest
      _ = m.partings ++ ((m.exitStep a).2.filter Effect.isParting ++
            (m.exitStep a).1.outstanding later) := by
          rw [first.partings, first.exit, List.append_assoc]
      _ = m.partings ++ m.server.exit.outstanding (a :: later) := by rw [step.outstanding later]

/-- A server that was just started, at some time by its clock. -/
def launched (config : Config) (canHandle : Bool) (now : Delay) : Moment where
  server := { Server.ofConfig config with exit := { delay := config.exitDelay, canHandle, now } }

/-- Whatever happens to a server, either nothing of it is an exit and none is spoken of, or one is
the first. Then the editor is told of that one alone. If it was requested and there is a time by
which it is due, it is scheduled, and it is performed as soon as the clock gets there; nothing that
happens later changes that. The editor's own exit has the code 0 just if a shutdown came before, and
the signals that are exits are those that handlers were installed for. -/
theorem exit_is_announced_once (config : Config) (canHandle : Bool) (now : Delay)
    (acts : List Act) (hd : ∀ a ∈ acts, a.Discreet) :
    let m := launched config canHandle now
    (m.Remains acts ∨ ∃ before a later p, m.Leaves acts before a later p) ∧
    (m.Remains acts → (m.acted acts).partings = []) ∧
    ∀ before a later p, m.Leaves acts before a later p →
      (m.acted acts).partings =
        p.deeds config.exitDelay (m.acted before).server.exit.now later ∧
      (a = .move (.message .exit) → p.code = if before.any Act.isShutdown then 0 else 1) ∧
      ∀ n, (m.acted before).server.exit.hears n = true ↔
        canHandle = true ∧ n ∈ Act.installed false before := by
  intro m
  have hu : m.server.exit.Unspoken := ⟨rfl, rfl⟩
  refine ⟨remains_or_leaves m acts, fun hr => (acted_of_remains hd hu hr).2.2, ?_⟩
  rintro before a later p ⟨rfl, hr, hp⟩
  have hbefore : ∀ b ∈ before, b.Discreet := fun b hb => hd b (List.mem_append_left _ hb)
  have hlater : ∀ b ∈ later, b.Discreet := fun b hb =>
    hd b (List.mem_append_right _ (List.mem_cons_of_mem a hb))
  have ha : a.Discreet := hd a (List.mem_append_right _ List.mem_cons_self)
  obtain ⟨hu', hdelay, hnone⟩ := acted_of_remains hbefore hu hr
  refine ⟨?_, ?_, fun n => ?_⟩
  · have first := act_acts (m.acted before) ha
    have departs := exitStep_parts hu' hp
    have rest := acted_of_announced (m := (m.acted before).act a) hlater
      (by rw [first.exit]; exact departs.announced)
    calc (m.acted (before ++ a :: later)).partings
      _ = (((m.acted before).act a).acted later).partings := by
          simp only [acted, List.foldl_append, List.foldl_cons]
      _ = (m.acted before).partings ++
            (((m.acted before).exitStep a).2.filter Effect.isParting ++
              ((m.acted before).exitStep a).1.outstanding later) := by
          rw [rest, first.partings, first.exit, List.append_assoc]
      _ = p.deeds config.exitDelay (m.acted before).server.exit.now later := by
          rw [departs.deeds later, hnone, hdelay]
          rfl
  · rintro rfl
    cases hp
    rw [Server.exitCode, acted_isDown m hbefore]
    rfl
  · have heard : (m.acted before).server.exit.signals =
        if canHandle then Act.installed false before else [] :=
      (acted_signals m hbefore).trans (List.nil_append _)
    rw [Exit.hears, heard, List.contains_iff_mem]
    split <;> simp [*]

/-- The first signal is performed, though work, a request and a shutdown follow. -/
theorem first_signal_is_performed :
    let later : List Act := [.move (.message (.didChangeWatchedFiles [])), .move .take,
      .move (.task (.ofWorld {} []) 0), .request 3 none, .move (.message (.shutdown .null)),
      .move (.time .second)]
    let acts := .move (.message .initialized) :: .move (.signal 15) :: later
    (∀ a ∈ acts, a.Discreet) ∧
    ((launched {} true .zero).acted acts).partings =
      [.told (.exitCalled 143 Exit.ownStack), .scheduled .second, .terminated 143] := by
  intro later acts
  have discreet : ∀ a ∈ acts, a.Discreet := by
    simp [acts, later, Act.Discreet, Surroundings.ofWorld_discreet]
  have departs := ((exit_is_announced_once {} true .zero acts discreet).2.2
    [.move (.message .initialized)] (.move (.signal 15)) later _
    ⟨rfl, ⟨rfl, trivial⟩, rfl⟩).1
  have due : (Delay.zero.add .second).toOption = some .second := by decide +kernel
  have reached : Delay.isReached .second .zero later = true := by decide +kernel
  refine ⟨discreet, departs.trans ?_⟩
  change Parting.deeds { code := 143, isRequest := true } .second .zero later = _
  simp only [Parting.deeds, Parting.due?, due, reached, if_true]

/-- A delay for which no clock has a time: the request that comes first is announced and never
scheduled. -/
theorem endless_delay_is_never_scheduled :
    let m := launched { exitDelay := .whole (10 ^ 400) } true .zero
    let before : List Act := [.move (.time .second)]
    m.Remains before ∧
    (m.acted before).parting? (.request 3 none) = some { code := 3, isRequest := true } ∧
    (m.acted (before ++ [.request 3 none])).partings = [.told (.exitCalled 3 Exit.ownStack)] := by
  intro m before
  have never : ((m.acted before).server.exit.now.add (.whole (10 ^ 400))).toOption = none := by
    decide +kernel
  have first := (act_acts (m.acted before) (a := .request 3 none) trivial).partings
  have departs := (exitStep_parts (m := m.acted before) (a := .request 3 none)
    ⟨rfl, rfl⟩ rfl).deeds []
  rw [Exit.outstanding_nil, List.append_nil] at departs
  change _ = Parting.deeds { code := 3, isRequest := true } (.whole (10 ^ 400)) _ [] at departs
  simp only [Parting.deeds, Parting.due?, never, if_true] at departs
  rw [departs] at first
  exact ⟨⟨rfl, trivial⟩, rfl, first⟩

end Moment

end LintServer
