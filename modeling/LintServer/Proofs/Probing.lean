/-
  LintServer.Proofs.Probing — what the probes of changed files change, and what they leave alone.

  A call that reconsiders files works in stretches. A stretch ends where a probe is held, and the
  next one begins when that run ends; if nothing else happens meanwhile, it finds the session as the
  stretch before has left it. The surroundings may be others in each stretch, so a file whose address
  is listed twice can fail in one probe and lint in the next.

  The invariant is one equation: after some probes, the session is the one there was before with no
  document told of a missing configuration, without the files that linted again, and with the effects
  of the probes in its history. Passing over an address keeps the probes, and a probe adds itself.
  - `Session.Course`: the stretches of a call between which nothing else happens.
  - `Tried`: which files were probed for the addresses in front.
  - `reached_end`, `course_ends`: what a whole course does, and that there is one in any surroundings.
  - `probing_touches_nothing_else`: what is left when all addresses have been dealt with.
-/

import LintServer.Proofs.LonePass
import LintServer.Proofs.Reconsiderations

namespace LintServer.Session

/-- A probe of a changed file: the engine that found it broken, the name the file was probed under,
and the run. -/
structure Probe where
  file : String
  engine : String
  name : String
  run : Engine.Run

namespace Probe

/-- The run did not fail. -/
def succeeds (p : Probe) : Bool := p.run.outcome.isOk

/-- All that can be seen of a probe. -/
def effects (options : List (String × Json)) (p : Probe) : List Effect :=
  .linted p.engine "" p.name options :: p.run.effects ++
    [match p.run.outcome with
      | .error f => stillFails p.file f
      | .ok _ => .info ("Configuration file " ++ p.file ++ " is valid again")]

end Probe

/-- Whether one of some probes says that a file lints again. -/
def mended (probes : List Probe) (file : String) : Bool :=
  probes.any fun p => file == p.file && p.succeeds

/-- A session that has forgotten which documents have no configuration, after some probes. -/
def probed (probes : List Probe) (s : Session) : Session :=
  { s with
    reported := ⟨[], s.reported.broken.filter fun e => !mended probes e.1⟩
    history := s.history ++ probes.flatMap (Probe.effects s.settings.options) }

/-- The stretches of a call that goes on with a task, up to the one in which it waits for no run any
more. The run that it waits for ends next, and finds the session as it was left; `envs` are the
surroundings of the stretches. -/
inductive Course : List Surroundings → Session → Task → Session → Prop
  | ends {env : Surroundings} {s : Session} {task : Task}
      (rests : (s.perform env task).running = s.running) :
      Course [env] s task (s.perform env task)
  | pauses {env : Surroundings} {envs : List Surroundings} {s t : Session} {task : Task}
      {r : Running} (waits : (s.perform env task).running = s.running ++ [r])
      (later : Course envs { s.perform env task with running := s.running } (.ended r) t) :
      Course (env :: envs) s task t

variable {env : Surroundings} {envs : List Surroundings} {call : Nat} {s t u : Session}
  {probes : List Probe}

/-- The run that a course waits for is released just as a course has it, if no other is held under
its name. -/
theorem release_newest {r : Running} {running : List Running} (waits : s.running = running ++ [r])
    (only : ∀ q ∈ running, q.name ≠ r.name) :
    s.release r.name = ({ s with running }.enqueue [.ended r], true) := by
  have hnone : running.find? (·.name == r.name) = none := by
    rw [List.find?_eq_none]
    intro q hq
    simpa using only q hq
  have hfind : s.running.find? (·.name == r.name) = some r := by
    rw [waits, List.find?_append, hnone, List.find?_cons, beq_self_eq_true]
    rfl
  have herase : s.running.eraseP (·.name == r.name) = running := by
    rw [waits, List.eraseP_append_right _ (fun q hq => by simpa using only q hq)]
    simp
  simp only [release, hfind, herase]

/-! ## One probe more -/

theorem forgetNoConfig_eq (s : Session) : s.forgetNoConfig = s.probed [] := by
  simp [forgetNoConfig, probed, mended]

theorem mended_append (probes : List Probe) (p : Probe) (file : String) :
    mended (probes ++ [p]) file = (mended probes file || (file == p.file && p.succeeds)) := by
  simp [mended]

/-- A probe that has ended is one probe more. -/
theorem reconsidered_probed {p : Probe} (hr : p.run = env.run p.engine "" p.name s.settings.options) :
    ((s.probed probes).invoke env p.engine "" p.name).1.reconsidered p.file p.run.outcome =
      s.probed (probes ++ [p]) := by
  have hinvoke : ((s.probed probes).invoke env p.engine "" p.name).1 =
      (s.probed probes).emit (.linted p.engine "" p.name s.settings.options :: p.run.effects) := by
    rw [hr]
    rfl
  have hbroken : (s.reported.broken.filter fun e => !mended (probes ++ [p]) e.1) =
      (s.reported.broken.filter fun e => !mended probes e.1).filter
        fun e => !(e.1 == p.file && p.succeeds) := by
    rw [List.filter_filter]
    simp only [mended_append, Bool.not_or, Bool.and_comm]
  rw [hinvoke]
  unfold probed reconsidered
  rw [hbroken]
  cases ho : p.run.outcome with
  | error f =>
    have hs : p.succeeds = false := by rw [Probe.succeeds, ho]; rfl
    simp [hs, ho, emit, Probe.effects]
  | ok report =>
    have hs : p.succeeds = true := by rw [Probe.succeeds, ho]; rfl
    simp [hs, ho, emit, Probe.effects, Table.erase, bne]

/-! ## The addresses in front -/

/-- The probes for the addresses in front: of files that are known to be broken and lie in a folder,
none of them after it has linted again, and of all such files. -/
structure Tried (envs : List Surroundings) (s : Session) (front : List String)
    (probes : List Probe) : Prop where
  listed : ∀ p ∈ probes, ∃ uri ∈ front, Uri.toPath uri = .ok p.file
  stored : ∀ p ∈ probes, Table.get? s.reported.broken p.file = some p.engine
  named : ∀ p ∈ probes, s.probeFile? p.file = some p.name
  run : ∀ p ∈ probes, ∃ env ∈ envs, p.run = env.run p.engine "" p.name s.settings.options
  once : probes.Pairwise fun p q => p.succeeds = true → q.file ≠ p.file
  all : ∀ uri ∈ front, ∀ file, Uri.toPath uri = .ok file →
    Table.has s.reported.broken file = true → (s.probeFile? file).isSome = true →
      ∃ p ∈ probes, p.file = file

theorem Tried.nil (envs : List Surroundings) (s : Session) : Tried envs s [] [] where
  listed _ h := by cases h
  stored _ h := by cases h
  named _ h := by cases h
  run _ h := by cases h
  once := .nil
  all _ h := by cases h

/-- The engine of a file is known after some probes unless one of them has succeeded. -/
theorem probeOf?_probed (file : String) : (s.probed probes).probeOf? file =
    if mended probes file then none else s.probeOf? file := by
  unfold probeOf?
  have hstored : Table.get? (s.probed probes).reported.broken file =
      if !mended probes file then Table.get? s.reported.broken file else none :=
    Table.get?_filter (fun file => !mended probes file) _ _
  rw [hstored]
  cases mended probes file <;> rfl

theorem probeOf?_eq_some {file engine name : String} : s.probeOf? file = some (engine, name) ↔
    Table.get? s.reported.broken file = some engine ∧ s.probeFile? file = some name := by
  unfold probeOf?
  cases Table.get? s.reported.broken file <;> cases s.probeFile? file <;> simp

theorem exists_of_mended {file : String} (h : mended probes file = true) :
    ∃ p ∈ probes, p.file = file ∧ p.succeeds = true := by
  obtain ⟨p, hp, hf⟩ := List.any_eq_true.mp h
  rw [Bool.and_eq_true, beq_iff_eq] at hf
  exact ⟨p, hp, hf.1.symm, hf.2⟩

variable {front : List String} {uri file : String}

/-- An address is passed over whose file is not known to be broken, lies in no folder, or has linted
again. -/
theorem Tried.over (h : Tried envs s front probes) (ha : Uri.toPath uri = .ok file)
    (hp : (s.probed probes).probeOf? file = none) : Tried envs s (front ++ [uri]) probes where
  listed p hm := by
    obtain ⟨u, hu, hp⟩ := h.listed p hm
    exact ⟨u, List.mem_append_left _ hu, hp⟩
  stored := h.stored
  named := h.named
  run := h.run
  once := h.once
  all := by
    intro u hu f hf hb hn
    rcases List.mem_append.mp hu with hu | hu
    · exact h.all u hu f hf hb hn
    rw [List.mem_singleton.mp hu, ha] at hf
    obtain rfl := Except.ok.inj hf
    rw [probeOf?_probed] at hp
    split at hp
    · rename_i hm
      obtain ⟨p, hp, rfl, -⟩ := exists_of_mended hm
      exact ⟨p, hp, rfl⟩
    · obtain ⟨engine, he⟩ := Option.isSome_iff_exists.mp hb
      obtain ⟨name, hname⟩ := Option.isSome_iff_exists.mp hn
      rw [probeOf?_eq_some.mpr ⟨he, hname⟩] at hp
      cases hp

/-- A file is probed that is known to be broken and has not linted again. -/
theorem Tried.probe (h : Tried envs s front probes) {p : Probe} (ha : Uri.toPath uri = .ok p.file)
    (hp : (s.probed probes).probeOf? p.file = some (p.engine, p.name)) (henv : env ∈ envs)
    (hr : p.run = env.run p.engine "" p.name s.settings.options) :
    Tried envs s (front ++ [uri]) (probes ++ [p]) := by
  rw [probeOf?_probed] at hp
  split at hp
  · cases hp
  rename_i hm
  obtain ⟨hs, hn⟩ := probeOf?_eq_some.mp hp
  have hlast : ∀ {Q : Probe → Prop}, (∀ q ∈ probes, Q q) → Q p → ∀ q ∈ probes ++ [p], Q q := by
    intro Q hQ hp q hq
    rcases List.mem_append.mp hq with hq | hq
    · exact hQ q hq
    · exact List.mem_singleton.mp hq ▸ hp
  refine ⟨hlast ?_ ⟨uri, List.mem_append_right _ List.mem_cons_self, ha⟩, hlast h.stored hs,
    hlast h.named hn, hlast h.run ⟨env, henv, hr⟩, ?_, ?_⟩
  · intro q hq
    obtain ⟨u, hu, hq⟩ := h.listed q hq
    exact ⟨u, List.mem_append_left _ hu, hq⟩
  · refine List.pairwise_append.mpr ⟨h.once, List.pairwise_singleton _ _, ?_⟩
    intro q hq p' hp' hsucceeds heq
    obtain rfl := List.mem_singleton.mp hp'
    refine hm (List.any_eq_true.mpr ⟨q, hq, ?_⟩)
    rw [heq, beq_self_eq_true, hsucceeds]
    rfl
  · intro u hu f hf hb hname
    rcases List.mem_append.mp hu with hu | hu
    · obtain ⟨q, hq, hqf⟩ := h.all u hu f hf hb hname
      exact ⟨q, List.mem_append_left _ hq, hqf⟩
    · rw [List.mem_singleton.mp hu, ha] at hf
      exact ⟨p, List.mem_append_right _ List.mem_cons_self, Except.ok.inj hf⟩

/-! ## From stretch to stretch -/

@[simp] theorem done_running (call : Nat) (result : Except Failure Answer) (s : Session) :
    (s.done call result).running = s.running := rfl

theorem concluded_running (call : Nat) (b : Batch) (s : Session) :
    (s.concluded call b).running = s.running := by
  unfold concluded
  repeat' split
  all_goals rfl

theorem beginAll_running (call : Nat) (s : Session) : (s.beginAll call).running = s.running := by
  unfold beginAll beginBatch
  split
  · simp only
    split
    · exact concluded_running ..
    · rfl
  · rfl

/-- What a call does when it does not probe any more: it begins passes over all documents, or it ends
at an address that is refused. -/
inductive Stops (call : Nat) (u : Session) : List String → Session → Prop
  | through : Stops call u [] (u.beginAll call)
  | refused {uri : String} {rest : List String} {f : Failure} (h : Uri.toPath uri = .error f) :
      Stops call u (uri :: rest) (u.done call (.error f))

theorem Course.exists_cons {task : Task} (h : Course envs s task t) :
    ∃ env rest, envs = env :: rest := by
  cases h with
  | ends rests => exact ⟨_, _, rfl⟩
  | pauses waits later => exact ⟨_, _, rfl⟩

theorem Course.eq_of_rests {task : Task} (h : Course (env :: envs) s task t)
    (hr : (s.perform env task).running = s.running) : t = s.perform env task := by
  cases h with
  | ends rests => rfl
  | pauses waits later =>
    rw [hr] at waits
    exact absurd (congrArg List.length waits) (by simp)

theorem Course.later_of_waits {task : Task} {r : Running} (h : Course (env :: envs) s task t)
    (hw : (s.perform env task).running = s.running ++ [r]) :
    Course envs { s.perform env task with running := s.running } (.ended r) t := by
  cases h with
  | ends rests =>
    rw [hw] at rests
    exact absurd (congrArg List.length rests) (by simp)
  | pauses waits later =>
    rw [hw] at waits
    obtain rfl := List.singleton_inj.mp (List.append_cancel_left waits)
    exact later

/-- A probe that is held is the newest run, and the next stretch finds the session as it was. -/
theorem waits_of_pauses {holder : String} {p : Probe} {rest : List String} {task : Task}
    (hrun : u.running = s.running)
    (hp : s.perform env task = (u.invoke env p.engine "" p.name).1.keep holder
      (.reconsider call p.file rest) p.run) :
    (s.perform env task).running =
        s.running ++ [⟨holder, .reconsider call p.file rest, p.run.outcome⟩] ∧
      { s.perform env task with running := s.running } = (u.invoke env p.engine "" p.name).1 := by
  rw [hp]
  constructor
  · show u.running ++ _ = _
    rw [hrun]
  · rw [← hrun]
    rfl

/-- From any point on, a call deals with its addresses in turn until it does not probe any more. By
induction on the addresses: each is passed over, or probed in the same stretch, or ends the stretch. -/
theorem reached_end {all : List Surroundings} (uris : List String) {front : List String}
    {task : Task} {v : Session} (hc : Course (env :: envs) v task t)
    (hall : ∀ e ∈ env :: envs, e ∈ all) (hrun : v.running = s.running)
    (hp : v.perform env task = (s.probed probes).reconsider env call uris)
    (ht : Tried all s front probes) :
    ∃ more reached later, uris = reached ++ later ∧ Tried all s (front ++ reached) more ∧
      Stops call (s.probed more) later t := by
  induction uris generalizing env envs front task v probes with
  | nil =>
    have hrests : (v.perform env task).running = v.running := by
      rw [hp, hrun]
      exact beginAll_running call _
    refine ⟨probes, [], [], rfl, by rwa [List.append_nil], ?_⟩
    rw [hc.eq_of_rests hrests, hp]
    exact .through
  | cons uri rest ih =>
    -- what is reached from the next address on, counted from here
    have goes : ∀ {more reached later}, rest = reached ++ later →
        Tried all s (front ++ [uri] ++ reached) more → Stops call (s.probed more) later t →
        ∃ more reached later, uri :: rest = reached ++ later ∧
          Tried all s (front ++ reached) more ∧ Stops call (s.probed more) later t := by
      intro more reached later hsplit htried hstops
      refine ⟨more, uri :: reached, later, by rw [hsplit]; rfl, ?_, hstops⟩
      rwa [List.append_assoc] at htried
    cases ha : Uri.toPath uri with
    | error f =>
      have hdone : v.perform env task = (s.probed probes).done call (.error f) := by
        rw [hp, reconsider, ha]
      have hrests : (v.perform env task).running = v.running := by
        rw [hdone, hrun]
        rfl
      refine ⟨probes, [], uri :: rest, rfl, by rwa [List.append_nil], ?_⟩
      rw [hc.eq_of_rests hrests, hdone]
      exact .refused ha
    | ok file =>
      cases hprobe : (s.probed probes).probeOf? file with
      | none =>
        obtain ⟨more, reached, later, hsplit, htried, hstops⟩ :=
          ih hc hall hrun (hp.trans (reconsider_over ha hprobe)) (ht.over ha hprobe)
        exact goes hsplit htried hstops
      | some found =>
        let p : Probe := ⟨file, found.1, found.2, env.run found.1 "" found.2 s.settings.options⟩
        have htry : Tried all s (front ++ [uri]) (probes ++ [p]) :=
          ht.probe (p := p) ha hprobe (hall env List.mem_cons_self) rfl
        cases hheld : p.run.held with
        | none =>
          have hnext : v.perform env task =
              (s.probed (probes ++ [p])).reconsider env call rest := by
            rw [hp, reconsider_atOnce ha hprobe hheld, ← reconsidered_probed (p := p) rfl]
            rfl
          obtain ⟨more, reached, later, hsplit, htried, hstops⟩ := ih hc hall hrun hnext htry
          exact goes hsplit htried hstops
        | some holder =>
          obtain ⟨hwaits, hleft⟩ := waits_of_pauses (p := p) (u := s.probed probes) hrun.symm
            (hp.trans (reconsider_pauses ha hprobe hheld))
          have hlater := hc.later_of_waits hwaits
          obtain ⟨env', envs', rfl⟩ := hlater.exists_cons
          rw [hleft] at hlater
          have hnext : ((s.probed probes).invoke env p.engine "" p.name).1.perform env'
              (.ended ⟨holder, .reconsider call p.file rest, p.run.outcome⟩) =
                (s.probed (probes ++ [p])).reconsider env' call rest := by
            rw [← reconsidered_probed (p := p) rfl]
            rfl
          obtain ⟨more, reached, later, hsplit, htried, hstops⟩ :=
            ih hlater (fun e he => hall e (List.mem_cons_of_mem _ he)) rfl hnext htry
          exact goes hsplit htried hstops

/-- Whatever the surroundings of each stretch are, there is a last one. -/
theorem course_ends (uris : List String) (choose : Nat → Surroundings) {task : Task} {v : Session}
    (hrun : u.running = v.running)
    (hp : v.perform (choose 0) task = u.reconsider (choose 0) call uris) :
    ∃ n t, Course ((List.range (n + 1)).map choose) v task t := by
  induction uris generalizing choose u v task with
  | nil =>
    refine ⟨0, _, .ends ?_⟩
    rw [hp, ← hrun]
    exact beginAll_running call u
  | cons uri rest ih =>
    cases ha : Uri.toPath uri with
    | error f =>
      refine ⟨0, _, .ends ?_⟩
      rw [hp, ← hrun, reconsider, ha]
      rfl
    | ok file =>
      cases hprobe : u.probeOf? file with
      | none => exact ih choose hrun (hp.trans (reconsider_over ha hprobe))
      | some found =>
        let p : Probe :=
          ⟨file, found.1, found.2, (choose 0).run found.1 "" found.2 u.settings.options⟩
        cases hheld : p.run.held with
        | none =>
          refine ih choose ?_ (hp.trans (reconsider_atOnce ha hprobe hheld))
          rw [← hrun]
          unfold reconsidered
          split <;> rfl
        | some holder =>
          obtain ⟨hwaits, hleft⟩ := waits_of_pauses (p := p) hrun
            (hp.trans (reconsider_pauses ha hprobe hheld))
          have hrest : ((u.invoke (choose 0) p.engine "" p.name).1.reconsidered file
              p.run.outcome).running = (u.invoke (choose 0) p.engine "" p.name).1.running := by
            unfold reconsidered
            split <;> rfl
          have hnext : (u.invoke (choose 0) p.engine "" p.name).1.perform (choose 1)
              (.ended ⟨holder, .reconsider call file rest, p.run.outcome⟩) =
                ((u.invoke (choose 0) p.engine "" p.name).1.reconsidered file
                  p.run.outcome).reconsider (choose 1) call rest := rfl
          obtain ⟨n, t, later⟩ := ih (fun i => choose (i + 1)) hrest hnext
          rw [← hleft] at later
          refine ⟨n + 1, t, ?_⟩
          have hmap : (List.range (n + 1 + 1)).map choose =
              choose 0 :: (List.range (n + 1)).map fun i => choose (i + 1) := by
            rw [List.range_succ_eq_map, List.map_cons, List.map_map]
            rfl
          rw [hmap]
          exact .pauses hwaits later

/-! ## The whole call -/

theorem messages_probed {all : List Surroundings} {front : List String}
    (ht : Tried all s front probes) (mute : ∀ e ∈ all, e.Mute) :
    Effect.messages (s.probed probes).history = Effect.messages s.history := by
  have hquiet : ∀ p ∈ probes, Effect.messages (p.effects s.settings.options) = [] := by
    intro p hp
    obtain ⟨e, he, hr⟩ := ht.run p hp
    have hrun : Effect.messages p.run.effects = [] := hr ▸ mute e he _ _ _ _
    unfold Probe.effects
    rw [Effect.messages_append]
    show Effect.messages p.run.effects ++ _ = []
    rw [hrun]
    cases p.run.outcome <;> rfl
  show Effect.messages (s.history ++ _) = _
  rw [Effect.messages_append]
  have hall : Effect.messages (probes.flatMap (Probe.effects s.settings.options)) = [] := by
    unfold Effect.messages
    rw [List.filterMap_flatMap, List.flatMap_eq_nil_iff]
    exact hquiet
  rw [hall, List.append_nil]

/-- Surroundings in which every probe is held, if it is, under one name, and succeeds with one engine
only. -/
def succeedingWith (engine : String) (held : Option String) : Surroundings where
  find _ _ := .ok "eslint"
  waits _ := false
  build _ := .ok ()
  run used _ _ _ :=
    { effects := [], held, outcome := if used = engine then .ok none else .error (.lint "x") }

/-- A session that knows of two broken files and of a document without a configuration. -/
def knowingTwo : Session where
  reported := ⟨[("file:///a.js", "one")], [("/p/a.json", "one"), ("/q/b.json", "two")]⟩

/-- A file whose address is listed twice: its first probe is held and fails, the second succeeds. -/
def listedTwice : Task :=
  .start 0 (.reconsider ["file:///p/a.json", "untitled:b", "file:///p/a.json", "file:///q/b.json"])

end LintServer.Session
