/-
  LintServer.Proofs.BatchOrder — what a batch says does not depend on the order its passes end in.

  The passes of a batch begin together and end in any order, between anything else that happens.
  Each leaves its mark. When the last was counted, the batch shows each error once and then tells
  one status. Which errors, and which status, is settled by how each attempt ended; only the order
  of the errors is that of the ends.
  - `UnderWay`: what holds of a batch until its conclusion, and what each of its tasks makes of it.
  - `stage_next`, `stage_after`: a move keeps that or concludes the batch, hence every run does.
  - `drain`: when all passes have ended, there is nothing left that a batch could wait for.
  - `batch_order_independent`: what a batch says, in every run.
-/

import LintServer.Proofs.Accounts

namespace LintServer

open Session (Attempt Batch Mark Pass Task Work)

/-- Neither a status nor an error is among some messages. -/
def Message.AllQuiet (xs : List Message) : Prop :=
  ∀ x ∈ xs, x.isStatus = false ∧ x.isError = false

theorem Message.AllQuiet.append {xs ys : List Message} (h : AllQuiet xs) (h' : AllQuiet ys) :
    AllQuiet (xs ++ ys) := fun x hx => (List.mem_append.mp hx).elim (h x) (h' x)

namespace Moment

/-- A number that a call was given, under which there is no work and no batch. -/
structure Unused (call : Nat) (m : Moment) : Prop where
  work : m.workOf call = 0
  batch : m.server.session.batches.lookup call = none
  begun : call < m.server.calls

/-- The moment in which a batch over some documents has begun. -/
def batched (call : Nat) (ds : List Document) (m : Moment) : Moment :=
  { m with server := { m.server with session := m.server.session.beginBatch call ds } }

/-- That is what the task of a call over many documents does. -/
theorem next_validateMany {m : Moment} {env : Surroundings} {place call : Nat}
    {ds : List Document} (ht : m.inHand[place]? = some (.start call (.validateMany ds))) :
    m.next (.task env place) =
      { m with inHand := m.inHand.eraseIdx place }.batched call ds := next_task ht

/-- The attempt of a call that a move brings to its end. -/
def attempted (call : Nat) (m : Moment) : Move → List (Pass × Attempt)
  | .task env place =>
    if m.isOf call (.task env place) then
      ((m.inHand[place]?).bind (m.server.session.attempt env)).toList
    else []
  | _ => []

/-- The attempts of a call that end in the course of some moves, in order. -/
def attempts (call : Nat) (m : Moment) : List Move → List (Pass × Attempt)
  | [] => []
  | mv :: rest => m.attempted call mv ++ (m.next mv).attempts call rest

/-- What a move tells the editor, if it is a task of a call. -/
def spoken (call : Nat) (m : Moment) (mv : Move) : List Message :=
  if m.isOf call mv then m.server.session.toldSince (m.next mv).server.session else []

/-- What the tasks of a call tell the editor in the course of some moves. -/
def said (call : Nat) (m : Moment) : List Move → List Message
  | [] => []
  | mv :: rest => m.spoken call mv ++ (m.next mv).said call rest

/-- None of some moves makes the server forget what it told of. -/
def Undisturbed (m : Moment) : List Move → Prop
  | [] => True
  | mv :: rest => m.reconsiders mv = false ∧ (m.next mv).Undisturbed rest

/-! ## One move of a batch under way -/

/-- What holds of a batch until its conclusion, with the attempts that have ended: its accounts
add up, and it holds the marks of those attempts. -/
structure UnderWay (r : Reported) (call : Nat) (passes : List Pass) (m : Moment)
    (log : List (Pass × Attempt)) (b : Batch) : Prop where
  batch : m.server.session.batches.lookup call = some b
  accounts : Session.Accounts call passes (log.map Prod.fst) b.left (m.workOf call)
  places : ∀ p ∈ passes, ∃ place < b.escaped.length, p.owner = .member call place
  holds : b.Holds r log
  alike : r.Alike m.server.session.reported

section

variable {m : Moment} {call : Nat} {r : Reported} {passes : List Pass}
  {log : List (Pass × Attempt)} {b : Batch} {env : Surroundings} {place : Nat} {t : Task} {k : Work}
  {p : Pass}

/-- The work of a call but for that of the task in hand at a place. -/
def restOf (call place : Nat) (m : Moment) : Multiset Work :=
  (m.server.session.work + ((m.inHand.eraseIdx place).filterMap Task.work : List Work)).filter
    (·.call = call)

/-- The work of a task of a call is work of the call. -/
theorem workOf_eq (ht : m.inHand[place]? = some t) (hk : t.work = some k) (hc : k.call = call) :
    m.workOf call = k ::ₘ m.restOf call place := by
  have own : ((t.work.toList : List Work) : Multiset Work).filter (·.call = call) = {k} := by
    rw [hk]
    exact Multiset.filter_eq_self.mpr fun l hl => by rw [Multiset.mem_singleton.mp hl, hc]
  rw [workOf, work_of_inHand ht, Multiset.filter_add, own, add_comm, Multiset.singleton_add, restOf]

/-- In place of its own work, a task puts other work of the call in. -/
theorem workOf_next (ht : m.inHand[place]? = some t) {new : Multiset Work}
    (hw : (m.server.session.perform env t).work = m.server.session.work + new)
    (hn : ∀ l ∈ new, l.call = call) :
    (m.next (.task env place)).workOf call = new + m.restOf call place := by
  have own : new.filter (·.call = call) = new := Multiset.filter_eq_self.mpr hn
  have hs : (m.next (.task env place)).work = new + (m.server.session.work +
      ((m.inHand.eraseIdx place).filterMap Task.work : List Work)) := by
    simp only [next, ht, work, hw]
    abel
  rw [workOf, hs, Multiset.filter_add, own, restOf]

theorem next_session (ht : m.inHand[place]? = some t) :
    (m.next (.task env place)).server.session = m.server.session.perform env t := by
  rw [next_task ht]

/-- A task of the batch leaves it under way, if the accounts add up with the work it puts in. -/
theorem UnderWay.task (h : UnderWay r call passes m log b) (ht : m.inHand[place]? = some t)
    (hk : t.work = some k) (hc : k.call = call) {new : Multiset Work}
    (hw : (m.server.session.perform env t).work = m.server.session.work + new)
    (hn : ∀ l ∈ new, l.call = call) {b' : Batch}
    (hb : (m.server.session.perform env t).batches.lookup call = some b')
    (hr : m.server.session.reported.Alike (m.server.session.perform env t).reported)
    {log' : List (Pass × Attempt)}
    (accounts : ∀ rest, Session.Accounts call passes (log.map Prod.fst) b.left (k ::ₘ rest) →
      Session.Accounts call passes (log'.map Prod.fst) b'.left (new + rest))
    (size : b'.escaped.length = b.escaped.length) (holds : b'.Holds r log') :
    UnderWay r call passes (m.next (.task env place)) log' b' := by
  refine ⟨?_, ?_, size ▸ h.places, holds, ?_⟩
  · rw [next_session ht]
    exact hb
  · rw [workOf_next ht hw hn]
    exact accounts _ (workOf_eq ht hk hc ▸ h.accounts)
  · rw [next_session ht]
    exact h.alike.trans hr

theorem length_marked (b : Batch) (place : Nat) (x : Mark) :
    (b.marked place x).escaped.length = b.escaped.length := by
  cases x with
  | clean => rfl
  | failed status text => rfl
  | escaped f => exact List.length_set

theorem left_marked (b : Batch) (place : Nat) (x : Mark) : (b.marked place x).left = b.left := by
  cases x <;> rfl

theorem UnderWay.mem_passes (h : UnderWay r call passes m log b) (ht : m.inHand[place]? = some t)
    (hk : t.work = some k) (hc : k.call = call) (hp : k.pass? = some p) : p ∈ passes :=
  (workOf_eq ht hk hc ▸ h.accounts).mem_passes hp

/-- A pass of the batch that goes on. -/
theorem UnderWay.paused (h : UnderWay r call passes m log b) (ht : m.inHand[place]? = some t)
    (hk : t.work = some k) (hc : k.call = call) (hp : k.pass? = some p)
    (goes : Session.Pauses p m.server.session (m.server.session.perform env t)) :
    UnderWay r call passes (m.next (.task env place)) log b := by
  obtain ⟨l, hl, path, hw⟩ := goes.work
  have owned : p.owner.call = call := (Session.Work.call_of_pass? hp).symm.trans hc
  refine h.task ht hk hc hw ?_ (goes.batches ▸ h.batch) (goes.reported ▸ .refl _) ?_ rfl h.holds
  · intro x hx
    rw [Multiset.mem_singleton.mp hx, Session.Work.call_of_pass? hl, owned]
  · intro rest accounts
    rw [Multiset.singleton_add]
    exact accounts.paused hp hl path

/-- A pass of the batch that ends. -/
theorem UnderWay.ended (h : UnderWay r call passes m log b) (ht : m.inHand[place]? = some t)
    (hk : t.work = some k) (hc : k.call = call) (hp : k.pass? = some p) {a : Attempt}
    (fits : a.Fits p.document) (hu : a ≠ .cancelled) {es : List Effect}
    (quiet : Effect.messages es = [])
    (ends : m.server.session.perform env t = (m.server.session.emit es).endedAs p a) :
    (∃ b', UnderWay r call passes (m.next (.task env place)) (log ++ [(p, a)]) b') ∧
      Message.AllQuiet (m.server.session.toldSince (m.server.session.perform env t)) := by
  obtain ⟨place', hplace, owner⟩ := h.places p (h.mem_passes ht hk hc hp)
  obtain ⟨d, o⟩ := p
  subst owner
  obtain ⟨s, aside, he⟩ := Session.endedAs_member d call place' a (m.server.session.emit es)
  have mute : ∀ x ∈ Effect.messages es, x.isStatus = false ∧ x.isError = false := by
    rw [quiet]
    exact fun x hx => by cases hx
  -- to judge a failure may tell of it and remember that, but nothing the batch counts is changed
  have aside := (Session.emit_aside m.server.session mute).trans aside
  obtain ⟨hw, hb, hr, hh⟩ := Session.memberEnded_spec (aside.batches ▸ h.batch) place'
    (a.mark m.server.session.documents m.server.session.reported d)
  have he : m.server.session.perform env t = s.memberEnded call place'
      (a.mark m.server.session.documents m.server.session.reported d) := ends.trans he
  rw [aside.work, ← he] at hw
  refine ⟨⟨_, h.task ht hk hc hw ?_ (he ▸ hb) ?_ ?_ ?_ ?_⟩, ?_⟩
  · exact fun l hl => by rw [Multiset.mem_singleton.mp hl]; rfl
  · rw [he]
    exact hr ▸ aside.reported
  · intro rest accounts
    rw [left_marked, Multiset.singleton_add, List.map_append]
    exact accounts.ended hp
  · exact length_marked _ _ _
  · exact h.holds.marked h.alike m.server.session.documents hplace fits hu
  · obtain ⟨fs, hfs, hquiet⟩ := aside.told
    rw [he, Session.toldSince_eq (hh.trans hfs)]
    exact hquiet

/-- A task for a pass of the batch leaves it under way, with its attempt if that has ended, and
tells neither a status nor an error. -/
theorem UnderWay.pass (h : UnderWay r call passes m log b) (mute : env.Mute)
    (ht : m.inHand[place]? = some t) (hk : t.work = some k) (hp : k.pass? = some p)
    (hc : k.call = call)
    (hu : ∀ x ∈ (m.server.session.attempt env t).toList, x.2 ≠ .cancelled) :
    (∃ b', UnderWay r call passes (m.next (.task env place))
      (log ++ (m.server.session.attempt env t).toList) b') ∧
      Message.AllQuiet (m.server.session.toldSince (m.server.session.perform env t)) := by
  obtain ⟨a, ha, goes⟩ := Session.perform_attempt mute hk hp m.server.session
  cases a with
  | none =>
    obtain ⟨es, told, quiet⟩ := goes.told
    rw [ha, Option.map_none, Option.toList_none, List.append_nil, Session.toldSince_eq told, quiet]
    exact ⟨⟨b, h.paused ht hk hc hp goes⟩, fun x hx => by cases hx⟩
  | some a =>
    obtain ⟨es, quiet, ends⟩ := goes
    have path : ∀ q, t.work = some (.linting q) → q.document.path.isOk = true := by
      intro q hq
      refine h.accounts.linting q ?_
      rw [workOf_eq ht hk hc, Option.some.inj (hk.symm.trans hq)]
      exact Multiset.mem_cons_self _ _
    rw [ha] at hu ⊢
    exact h.ended ht hk hc hp (Session.attempt_fits ha path) (hu (p, a) List.mem_cons_self) quiet
      ends

/-- A pass of the batch is counted. -/
theorem UnderWay.tally (h : UnderWay r call passes m log b) (env : Surroundings)
    (ht : m.inHand[place]? = some (.tally call)) :
    UnderWay r call passes (m.next (.task env place)) log { b with left := b.left - 1 } ∧
      m.server.session.toldSince (m.server.session.perform env (.tally call)) = [] := by
  obtain ⟨hw, hb, hr, hh⟩ := Session.tally_spec h.batch
  refine ⟨h.task ht rfl rfl hw ?_ hb (hr ▸ .refl _) (fun rest => Session.Accounts.counted) rfl
    ⟨h.holds.statuses, h.holds.messages, h.holds.escaped, h.holds.uncancelled⟩, ?_⟩
  · intro l hl
    split at hl
    · rw [Multiset.mem_singleton.mp hl]
      rfl
    · exact absurd hl (Multiset.notMem_zero l)
  · exact Session.toldSince_eq (hh.trans (List.append_nil _).symm)

/-- The batch is concluded. -/
theorem UnderWay.conclude (h : UnderWay r call passes m log b) (env : Surroundings)
    (ht : m.inHand[place]? = some (.conclude call)) :
    (m.next (.task env place)).workOf call = 0 ∧ (log.map Prod.fst).Perm passes ∧
      m.server.session.toldSince (m.server.session.perform env (.conclude call)) =
        Session.conclusion r log := by
  obtain ⟨hw, -, -, es, hh, told⟩ := Session.conclude_spec h.batch
  have here : m.workOf call = .conclude call ::ₘ m.restOf call place := workOf_eq ht rfl rfl
  obtain ⟨none, all⟩ := (here ▸ h.accounts).concluded
  have hw : (m.server.session.perform env (.conclude call)).work = m.server.session.work + 0 :=
    hw.trans (add_zero _).symm
  refine ⟨?_, all, ?_⟩
  · rw [workOf_next ht hw fun l hl => absurd hl (Multiset.notMem_zero l), none, zero_add]
  · exact (Session.toldSince_eq hh).trans (told.trans (Session.conclusion_of_holds h.holds))

/-- A batch under way has work. -/
theorem UnderWay.work_ne_zero (h : UnderWay r call passes m log b) : m.workOf call ≠ 0 := by
  intro none
  have accounts := none ▸ h.accounts
  have left : b.left = 0 := accounts.uncounted
  have concludes := accounts.concludes
  rw [if_pos left] at concludes
  cases concludes

/-- A move that is no task of the batch leaves it as it is. -/
theorem UnderWay.other (h : UnderWay r call passes m log b) {mv : Move} (carries : Carries m mv)
    (begun : call < m.server.calls) (ho : m.isOf call mv = false)
    (calm : m.reconsiders mv = false ∨ Reported.Alike {} m.server.session.reported) :
    UnderWay r call passes (m.next mv) log b := by
  obtain ⟨hw, hb⟩ := carries.others call begun ho
  exact ⟨hb ▸ h.batch, hw ▸ h.accounts, h.places, h.holds, h.alike.trans (carries.reported calm)⟩

theorem UnderWay.take (h : UnderWay r call passes m log b) (begun : call < m.server.calls) :
    UnderWay r call passes (m.next .take) log b :=
  h.other (take_carries m) begun rfl (.inl rfl)

end

/-! ## Every run -/

/-- How far a batch has come, with the attempts that have ended and what was said: it is under way
and has told neither a status nor an error, or all its passes have ended and its conclusion was
the last it said. -/
inductive Stage (r : Reported) (call : Nat) (passes : List Pass) (m : Moment)
    (log : List (Pass × Attempt)) (said : List Message) : Prop
  | underWay (b : Batch) (h : UnderWay r call passes m log b) (quiet : Message.AllQuiet said)
  | concluded (none : m.workOf call = 0) (all : (log.map Prod.fst).Perm passes)
      (notices : List Message) (quiet : Message.AllQuiet notices)
      (told : said = notices ++ Session.conclusion r log)

section

variable {m : Moment} {call : Nat} {r : Reported} {passes : List Pass}
  {log : List (Pass × Attempt)} {said : List Message}

theorem isOf_task {mv : Move} (h : m.isOf call mv = true) :
    ∃ env place t k, mv = .task env place ∧ m.inHand[place]? = some t ∧ t.work = some k ∧
      k.call = call := by
  cases mv with
  | task env place =>
    simp only [isOf, Option.any_eq_true, beq_iff_eq] at h
    obtain ⟨t, ht, k, hk, hc⟩ := h
    exact ⟨env, place, t, k, rfl, ht, hk, hc⟩
  | _ => cases h

theorem tally_of_work {t : Task} (h : t.work = some (.tally call)) : t = .tally call := by
  cases t with
  | tally c =>
    cases h
    rfl
  | relay n w | wake n w => cases w <;> cases h
  | ended r =>
    obtain ⟨name, purpose, outcome⟩ := r
    cases purpose <;> cases h
  | _ => cases h

theorem conclude_of_work {t : Task} (h : t.work = some (.conclude call)) : t = .conclude call := by
  cases t with
  | conclude c =>
    cases h
    rfl
  | relay n w | wake n w => cases w <;> cases h
  | ended r =>
    obtain ⟨name, purpose, outcome⟩ := r
    cases purpose <;> cases h
  | _ => cases h

/-- A task of a batch under way leaves it so, or is its conclusion. -/
theorem own_stage {env : Surroundings} {place : Nat} {t : Task} {k : Work} (mute : env.Mute)
    (ht : m.inHand[place]? = some t) (hk : t.work = some k) (hc : k.call = call)
    (hu : ∀ x ∈ (m.server.session.attempt env t).toList, x.2 ≠ .cancelled) {b : Batch}
    (h : UnderWay r call passes m log b) (quiet : Message.AllQuiet said) :
    Stage r call passes (m.next (.task env place))
      (log ++ (m.server.session.attempt env t).toList)
      (said ++ m.server.session.toldSince (m.server.session.perform env t)) := by
  have hm : k ∈ m.workOf call := by
    rw [workOf_eq ht hk hc]
    exact Multiset.mem_cons_self _ _
  rcases h.accounts.kinds k hm with ⟨p, hp⟩ | rfl | rfl
  · obtain ⟨⟨b', h'⟩, quiet'⟩ := h.pass mute ht hk hp hc hu
    exact .underWay b' h' (quiet.append quiet')
  · obtain rfl := tally_of_work hk
    obtain ⟨h', told⟩ := h.tally env ht
    rw [told, List.append_nil, show m.server.session.attempt env (.tally call) = none from rfl,
      Option.toList_none, List.append_nil]
    exact .underWay _ h' quiet
  · obtain rfl := conclude_of_work hk
    obtain ⟨none, all, told⟩ := h.conclude env ht
    rw [show m.server.session.attempt env (.conclude call) = .none from rfl,
      Option.toList_none, List.append_nil, told]
    exact .concluded none all said quiet rfl

/-- A move leaves a batch under way, concludes it, or finds it concluded. -/
theorem stage_next {mv : Move} (allowed : m.Allowed Surroundings.Mute Server.StaysUp mv)
    (begun : call < m.server.calls)
    (calm : m.reconsiders mv = false ∨ Reported.Alike {} m.server.session.reported)
    (hu : ∀ x ∈ m.attempted call mv, x.2 ≠ .cancelled) (h : Stage r call passes m log said) :
    Stage r call passes (m.next mv) (log ++ m.attempted call mv) (said ++ m.spoken call mv) := by
  have carries := next_carries allowed
  cases ho : m.isOf call mv with
  | true =>
    obtain ⟨env, place, t, k, rfl, ht, hk, hc⟩ := isOf_task ho
    have attempted : m.attempted call (.task env place) =
        (m.server.session.attempt env t).toList := by
      simp only [Moment.attempted, ho, if_true, ht, Option.bind_some]
    have spoken : m.spoken call (.task env place) =
        m.server.session.toldSince (m.server.session.perform env t) := by
      rw [Moment.spoken, if_pos ho, next_session ht]
    rw [attempted] at hu ⊢
    rw [spoken]
    cases h with
    | underWay b h quiet => exact own_stage allowed ht hk hc hu h quiet
    | concluded none all notices quiet told =>
      rw [workOf_eq ht hk hc] at none
      exact absurd none Multiset.cons_ne_zero
  | false =>
    have attempted : m.attempted call mv = [] := by
      cases mv with
      | task env place => simp only [Moment.attempted, ho, Bool.false_eq_true, if_false]
      | _ => rfl
    rw [attempted, List.append_nil, Moment.spoken, ho, if_neg Bool.false_ne_true, List.append_nil]
    cases h with
    | underWay b h quiet => exact .underWay b (h.other carries begun ho calm) quiet
    | concluded none all notices quiet told =>
      exact .concluded ((carries.others call begun ho).1.trans none) all notices quiet told

theorem stage_after {moves : List Move}
    (allowed : m.AllAllowed Surroundings.Mute Server.StaysUp moves) (begun : call < m.server.calls)
    (calm : m.Undisturbed moves ∨ Reported.Alike {} m.server.session.reported)
    (hu : ∀ x ∈ m.attempts call moves, x.2 ≠ .cancelled) (h : Stage r call passes m log said) :
    Stage r call passes (m.after moves) (log ++ m.attempts call moves)
      (said ++ m.said call moves) := by
  induction moves generalizing m log said with
  | nil =>
    rw [attempts, Moment.said, List.append_nil, List.append_nil]
    exact h
  | cons mv rest ih =>
    have carries := next_carries allowed.1
    have now : m.reconsiders mv = false ∨ Reported.Alike {} m.server.session.reported :=
      calm.imp_left And.left
    have later : (m.next mv).Undisturbed rest ∨
        Reported.Alike {} (m.next mv).server.session.reported := by
      rcases calm with calm | alike
      · exact .inl calm.2
      · exact .inr (alike.trans (carries.reported (.inr alike)))
    rw [attempts] at hu
    rw [attempts, Moment.said, ← List.append_assoc, ← List.append_assoc]
    refine ih allowed.2 (Nat.lt_of_lt_of_le begun carries.calls) later ?_ ?_
    · exact fun x hx => hu x (List.mem_append_right _ hx)
    · exact stage_next allowed.1 begun now (fun x hx => hu x (List.mem_append_left _ hx)) h

end

theorem calls_after {m : Moment} {moves : List Move}
    (allowed : m.AllAllowed Surroundings.Mute Server.StaysUp moves) :
    m.server.calls ≤ (m.after moves).server.calls := by
  induction moves generalizing m with
  | nil => exact Nat.le_refl _
  | cons mv rest ih => exact Nat.le_trans (next_carries allowed.1).calls (ih allowed.2)

/-- A server that has told only of what has an address keeps to that, and so does every run from
its start. -/
theorem addressed_after {m : Moment} {moves : List Move}
    (allowed : m.AllAllowed Surroundings.Mute Server.StaysUp moves)
    (h : Reported.Alike {} m.server.session.reported) :
    Reported.Alike {} (m.after moves).server.session.reported := by
  induction moves generalizing m with
  | nil => exact h
  | cons mv rest ih => exact ih allowed.2 (h.trans ((next_carries allowed.1).reported (.inr h)))

/-! ## The whole of a batch -/

section

variable {m : Moment} {call : Nat}

theorem batched_work {ds : List Document} {new : Multiset Work} (unused : m.Unused call)
    (hw : (m.server.session.beginBatch call ds).work = m.server.session.work + new)
    (hn : ∀ k ∈ new, k.call = call) : (m.batched call ds).workOf call = new := by
  have own : new.filter (·.call = call) = new := Multiset.filter_eq_self.mpr hn
  have hm : (m.batched call ds).work = m.work + new := by
    simp only [batched, work, hw]
    abel
  have none := unused.work
  rw [workOf] at none
  rw [workOf, hm, Multiset.filter_add, none, own, zero_add]

/-- A batch begins with all its passes to come, or is concluded at once if it has none. -/
theorem batched_stage (unused : m.Unused call) (ds : List Document) :
    Stage m.server.session.reported call (m.server.session.members call ds) (m.batched call ds) []
      (m.server.session.toldSince (m.batched call ds).server.session) := by
  by_cases hm : m.server.session.members call ds = []
  · obtain ⟨hw, -, told⟩ := Session.beginBatch_nil hm
    refine .concluded ?_ ?_ [] (fun x hx => by cases hx) told
    · exact batched_work unused (hw.trans (add_zero _).symm)
        fun k hk => absurd hk (Multiset.notMem_zero k)
    · rw [hm]
      exact .nil
  · obtain ⟨hw, hb, hr, told⟩ := Session.beginBatch_cons hm
    refine .underWay (.ofMembers (m.server.session.members call ds)) ⟨?_, ?_, ?_, ?_, ?_⟩ ?_
    · rw [show (m.batched call ds).server.session.batches = _ from hb, List.lookup_append,
        unused.batch]
      simp
    · rw [batched_work unused hw]
      · exact .start call hm
      · intro k hk
        obtain ⟨p, hp, rfl⟩ := List.mem_map.mp hk
        obtain ⟨place, -, owner⟩ := Session.place_of_members hp
        exact congrArg Session.Owner.call owner
    · intro p hp
      obtain ⟨place, hplace, owner⟩ := Session.place_of_members hp
      exact ⟨place, by simpa [Batch.ofMembers] using hplace, owner⟩
    · exact ⟨rfl, rfl, by simp [Batch.ofMembers], by simp [Batch.ofMembers]⟩
    · rw [show (m.batched call ds).server.session.reported = _ from hr]
      exact .refl _
    · rw [show m.server.session.toldSince (m.batched call ds).server.session = [] from told]
      exact fun x hx => by cases hx

/-- Work that is to count or to conclude is with a task, in hand or ready. -/
theorem inHand_of_counting {k : Work} (h : k ∈ m.workOf call)
    (hk : k = .tally call ∨ k = .conclude call) :
    ∃ (place : Nat) (t : Task), (m.next .take).inHand[place]? = some t ∧ t.work = some k := by
  have waiter : ∀ w : Session.Waiter, w.work ≠ k := by
    rintro w rfl
    cases w <;> rcases hk with hk | hk <;> cases hk
  have purpose : ∀ u : Session.Purpose, u.work ≠ k := by
    rintro u rfl
    cases u <;> rcases hk with hk | hk <;> cases hk
  have hm := (Multiset.mem_filter.mp h).1
  simp only [work, Session.work, Multiset.mem_add, Multiset.mem_coe, List.mem_map,
    List.mem_filterMap] at hm
  have task : ∃ t ∈ (m.next .take).inHand, t.work = some k := by
    rcases hm with ((⟨w, -, hw⟩ | ⟨u, -, hu⟩) | ⟨t, ht, he⟩) | ⟨t, ht, he⟩
    · exact absurd hw (waiter w.2)
    · exact absurd hu (purpose u.purpose)
    · exact ⟨t, List.mem_append_right _ ht, he⟩
    · exact ⟨t, List.mem_append_left _ ht, he⟩
  obtain ⟨t, ht, he⟩ := task
  obtain ⟨place, hp⟩ := List.mem_iff_getElem?.mp ht
  exact ⟨place, t, hp, he⟩

/-- When all passes of a batch have ended, the tasks that are left bring it to its conclusion. -/
theorem drain {env : Surroundings} (mute : env.Mute) {r : Reported} {passes : List Pass}
    {log : List (Pass × Attempt)} {b : Batch} (begun : call < m.server.calls)
    (all : (log.map Prod.fst).Perm passes) (h : UnderWay r call passes m log b) :
    ∃ more, (∀ mv ∈ more, mv = .take ∨ ∃ place, mv = .task env place) ∧
      (m.after more).workOf call = 0 := by
  -- by what is left to count; each turn takes what is ready and does one task of the batch
  generalize hl : b.left = left
  induction left generalizing m b with
  | zero =>
    obtain ⟨place, t, ht, hk⟩ := inHand_of_counting (hl ▸ h.accounts).conclude_mem (.inr rfl)
    obtain rfl := conclude_of_work hk
    refine ⟨[.take, .task env place], ?_, ((h.take begun).conclude env ht).1⟩
    simp
  | succ left ih =>
    obtain ⟨place, t, ht, hk⟩ := inHand_of_counting ((hl ▸ h.accounts).tally_mem all) (.inl rfl)
    obtain rfl := tally_of_work hk
    have counted := ((h.take begun).tally env ht).1
    have begun' : call < ((m.next .take).next (.task env place)).server.calls :=
      Nat.lt_of_lt_of_le begun (task_carries mute (m.next .take) place).calls
    obtain ⟨more, hmore, none⟩ := ih begun' counted (by rw [hl]; rfl)
    refine ⟨.take :: .task env place :: more, ?_, none⟩
    simpa using hmore

/-- What a batch has said when its passes have ended as assigned, in some order: the errors, each
once and by the first attempt with it, a warning if judging failed, and the status, which with all
the errors is the same for every order. -/
structure Settled (r : Reported) (assigned : Pass → Attempt) (passes order : List Pass)
    (said : List Message) : Prop where
  all : order.Perm passes
  told : ∃ notices, Message.AllQuiet notices ∧ said = notices ++
    ((Session.errors (Session.outcomes assigned order)).map .showError ++
      (if (Session.outcomes assigned passes).any fun x => x.2.raises r x.1.document then
        [.logWarning (Session.allFailed ++ ".")] else []) ++
      [.status (Session.verdict r (Session.outcomes assigned passes))])
  once : (Session.errors (Session.outcomes assigned order)).Nodup
  texts : ∀ text, text ∈ Session.errors (Session.outcomes assigned order) ↔
    ∃ p ∈ passes, (assigned p).text? p.document = some text

theorem settled_of_conclusion {r : Reported} {assigned : Pass → Attempt} {passes : List Pass}
    {log : List (Pass × Attempt)} {said notices : List Message}
    (ends : ∀ x ∈ log, x.2 = assigned x.1) (all : (log.map Prod.fst).Perm passes)
    (quiet : Message.AllQuiet notices) (told : said = notices ++ Session.conclusion r log) :
    Settled r assigned passes (log.map Prod.fst) said := by
  have hlog : Session.outcomes assigned (log.map Prod.fst) = log := by
    rw [Session.outcomes, List.map_map]
    conv_rhs => rw [← List.map_id log]
    exact List.map_congr_left fun x hx => Prod.ext rfl (ends x hx).symm
  have hp : log.Perm (Session.outcomes assigned passes) := by
    rw [← hlog]
    exact all.map _
  refine ⟨all, ⟨notices, quiet, ?_⟩, Session.nodup_errors _, fun text => ?_⟩
  · rw [told, Session.conclusion_perm hp, hlog]
  · rw [Session.mem_errors, hlog]
    constructor
    · rintro ⟨x, hx, ht⟩
      exact ⟨x.1, all.subset (List.mem_map_of_mem hx), ends x hx ▸ ht⟩
    · rintro ⟨p, hp, ht⟩
      obtain ⟨x, hx, rfl⟩ := List.mem_map.mp (all.symm.subset hp)
      exact ⟨x, hx, (ends x hx).symm ▸ ht⟩

/-- In every run without a shutdown, with whatever else happens in it, a batch says no status and
no error until all its attempts have ended, in whatever order; then the tasks that are left bring
it to its conclusion; and when it is concluded, it has said one status, after everything else and
the same for every order of the ends. Meanwhile the server forgets nothing it told of, unless all
of that has an address, as in every run from its start. -/
theorem batch_order_independent {ds : List Document} {moves : List Move} (unused : m.Unused call)
    (allowed : (m.batched call ds).AllAllowed Surroundings.Mute Server.StaysUp moves)
    (remembers : (m.batched call ds).Undisturbed moves ∨
      Reported.Alike {} m.server.session.reported)
    {assigned : Pass → Attempt} (uncancelled : ∀ p, assigned p ≠ .cancelled)
    (ends : ∀ x ∈ (m.batched call ds).attempts call moves, x.2 = assigned x.1) :
    let passes := m.server.session.members call ds
    let order := ((m.batched call ds).attempts call moves).map Prod.fst
    let said := m.server.session.toldSince (m.batched call ds).server.session ++
      (m.batched call ds).said call moves
    let last := (m.batched call ds).after moves
    (last.workOf call ≠ 0 → Message.AllQuiet said) ∧
      (last.workOf call = 0 →
        Settled m.server.session.reported assigned passes order said) ∧
      (order.Perm passes → ∀ env : Surroundings, env.Mute →
        ∃ more, (∀ mv ∈ more, mv = .take ∨ ∃ place, mv = .task env place) ∧
          (last.after more).workOf call = 0) := by
  intro passes order said last
  have begun : call < (m.batched call ds).server.calls := unused.begun
  have calm : (m.batched call ds).Undisturbed moves ∨
      Reported.Alike {} (m.batched call ds).server.session.reported := by
    refine remembers.imp_right fun alike => ?_
    rwa [show (m.batched call ds).server.session.reported = _ from
      Session.reported_beginBatch call ds m.server.session]
  have hu : ∀ x ∈ (m.batched call ds).attempts call moves, x.2 ≠ .cancelled :=
    fun x hx => ends x hx ▸ uncancelled x.1
  have stage := stage_after allowed begun calm hu (batched_stage unused ds)
  rw [List.nil_append] at stage
  cases stage with
  | underWay b h quiet =>
    refine ⟨fun _ => quiet, fun none => absurd none h.work_ne_zero, fun all env mute => ?_⟩
    exact drain mute (Nat.lt_of_lt_of_le begun (calls_after allowed)) all h
  | concluded none all notices quiet told =>
    refine ⟨fun some => absurd none some, fun _ => settled_of_conclusion ends all quiet told, ?_⟩
    exact fun _ _ _ => ⟨[], fun mv hm => (by cases hm), none⟩

end

/-- An engine whose runs are slow and fail, each with the text it was to lint as its message. -/
def failingEngine : Surroundings :=
  { slowEngine with
    run := fun _ text _ _ =>
      { effects := [], held := some text.string, outcome := .error (.lint text.string) } }

def otherDraft (text : String) : Document := { uri := "file:///b.js", version := 1, text }

/-- A moment in which the linters of two documents are known and a call has begun. -/
def twoReady : Moment :=
  { server :=
      { Server.ofConfig {} with
        session :=
          { library :=
              { entries := [("file:///a.js", 0), ("file:///b.js", 1)]
                made :=
                  [{ document := draft 1 "x", state := .resolved
                     future := .set (some ⟨1, "eslint"⟩) },
                    { document := otherDraft "y", state := .resolved
                      future := .set (some ⟨2, "eslint"⟩) }] } }
        calls := 1 } }

def bothBegun : Moment := twoReady.batched 0 [draft 1 "x", otherDraft "y"]

def failsWithText (p : Pass) : Attempt := .ran "eslint" (.error (.lint p.document.text.string))

/-- The run over the second of two documents ends before that over the first. -/
def secondFirst : List Move :=
  [.take, .task failingEngine 0, .task failingEngine 0, .runEnds 1, .runEnds 0, .take,
    .task failingEngine 0, .task failingEngine 0, .take, .task failingEngine 0,
    .task failingEngine 0, .take, .task failingEngine 0]

theorem secondFirst_attempts : bothBegun.attempts 0 secondFirst = Session.outcomes failsWithText
    [⟨otherDraft "y", .member 0 1⟩, ⟨draft 1 "x", .member 0 0⟩] := rfl

theorem secondFirst_allowed :
    bothBegun.AllAllowed Surroundings.Mute Server.StaysUp secondFirst := by
  have mute : failingEngine.Mute := fun _ _ _ _ => rfl
  exact ⟨trivial, mute, mute, trivial, trivial, trivial, mute, mute, trivial, mute, mute, trivial,
    mute, trivial⟩

theorem secondFirst_concludes :
    (bothBegun.after secondFirst).workOf 0 = 0 ∧ ∃ notices, Message.AllQuiet notices ∧
      twoReady.server.session.toldSince bothBegun.server.session ++ bothBegun.said 0 secondFirst =
        notices ++ [.showError "y", .showError "x", .status .error] := by
  have ends : ∀ x ∈ bothBegun.attempts 0 secondFirst, x.2 = failsWithText x.1 := by
    intro x hx
    rw [secondFirst_attempts] at hx
    obtain ⟨p, -, rfl⟩ := List.mem_map.mp hx
    rfl
  have none : (bothBegun.after secondFirst).workOf 0 = 0 := rfl
  have settled : Settled twoReady.server.session.reported failsWithText
      (twoReady.server.session.members 0 [draft 1 "x", otherDraft "y"])
      ((bothBegun.attempts 0 secondFirst).map Prod.fst)
      (twoReady.server.session.toldSince bothBegun.server.session ++
        bothBegun.said 0 secondFirst) :=
    (batch_order_independent ⟨rfl, rfl, Nat.one_pos⟩ secondFirst_allowed (.inr (.refl _))
      (fun p h => by cases h) ends).2.1 none
  obtain ⟨notices, quiet, told⟩ := settled.told
  have errors : Session.errors (Session.outcomes failsWithText
      ((bothBegun.attempts 0 secondFirst).map Prod.fst)) = ["y", "x"] := by
    rw [secondFirst_attempts]
    decide +kernel
  have judged : ((Session.outcomes failsWithText
      (twoReady.server.session.members 0 [draft 1 "x", otherDraft "y"])).any
        fun x => x.2.raises twoReady.server.session.reported x.1.document) = false := by
    decide +kernel
  have verdict : Session.verdict twoReady.server.session.reported
      (Session.outcomes failsWithText
        (twoReady.server.session.members 0 [draft 1 "x", otherDraft "y"])) = .error := by
    decide +kernel
  rw [errors, judged, verdict] at told
  exact ⟨none, notices, quiet, told⟩

end Moment

end LintServer
