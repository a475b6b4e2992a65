/-
  LintServer.Proofs.Reconsiderations — what becomes of a broken file whose address is among those of
  changed files.

  A call that reconsiders files goes from address to address, and pauses where a probe is held.
  Until the turn of a file comes it does nothing but probe other files, and no probe of one file
  makes another forgotten. So the file is probed with the engine that found it broken, unless it was
  forgotten while the call paused, or an address in front of it is refused, which ends the call.
  - `Session.Probes`: the turn of a file.
  - `Session.Meets`: the turn comes, whatever else is done while the call pauses.
  - `repaired_file_is_recognised`: paths and addresses, and the call that gets the address of a
    file.
-/

import LintServer.Session.Step
import LintServer.Proofs.RoundTrips

namespace LintServer

/-! ## Folders of paths -/

namespace Path

/-- A path with a slash in it has a folder. -/
theorem folderOf_ne_empty {path : String} (h : '/' ∈ path.toList) :
    (folderOf path).isEmpty = false := by
  have hne : path.toList.reverse.dropWhile (· != '/') ≠ [] := by
    intro he
    have hall := List.dropWhile_eq_nil_iff.mp he '/' (List.mem_reverse.mpr h)
    exact absurd hall (by decide)
  have hcs : ∀ cs : List Char, cs ≠ [] → (String.ofList cs.reverse).isEmpty = false := by
    intro cs hcs
    simpa [String.isEmpty_iff] using hcs
  unfold folderOf
  simp only
  split
  · exact hcs _ hne
  · rename_i hb
    exact hcs _ (by simpa using hb)

end Path

namespace Session

variable {env : Surroundings} {call : Nat} {path : String} {s t u : Session}

/-! ## Until the turn of a file comes -/

/-- Nothing happened but probes of other files, and documents that were told of may be forgotten. -/
structure Spares (path : String) (s t : Session) : Prop where
  only : ∃ reported es, t = { s with reported, history := s.history ++ es }
  stored : Table.get? t.reported.broken path = Table.get? s.reported.broken path

theorem Spares.refl (s : Session) : Spares path s s :=
  ⟨⟨s.reported, [], by rw [List.append_nil]⟩, rfl⟩

theorem Spares.trans (h : Spares path s t) (h' : Spares path t u) : Spares path s u := by
  obtain ⟨⟨_, es, rfl⟩, hs⟩ := h
  obtain ⟨⟨reported, fs, rfl⟩, hs'⟩ := h'
  exact ⟨⟨reported, es ++ fs, by rw [List.append_assoc]⟩, hs'.trans hs⟩

theorem forgetNoConfig_spares (s : Session) : Spares path s s.forgetNoConfig :=
  ⟨⟨_, [], by rw [List.append_nil]; rfl⟩, rfl⟩

theorem invoke_spares (engine : String) (content : Text) (file : String) (s : Session) :
    Spares path s (s.invoke env engine content file).1 := ⟨⟨s.reported, _, rfl⟩, rfl⟩

theorem reconsidered_spares {other : String} (h : other ≠ path)
    (outcome : Except Failure (Option Report)) (s : Session) :
    Spares path s (s.reconsidered other outcome) := by
  unfold reconsidered
  split
  · exact ⟨⟨s.reported, _, rfl⟩, rfl⟩
  · exact ⟨⟨_, _, rfl⟩, Table.get?_erase_of_ne h.symm _⟩

/-- A file that lints again is forgotten. -/
theorem has_reconsidered (path : String) (report : Option Report) (s : Session) :
    Table.has (s.reconsidered path (.ok report)).reported.broken path = false := by
  show Table.has (Table.erase s.reported.broken path) path = false
  rw [Table.has, Table.get?_erase_self]
  rfl

/-! ## One address after another -/

section

variable {first other engine name : String} {rest : List String}

/-- An address whose file is not probed is passed over. -/
theorem reconsider_over (ho : Uri.toPath first = .ok other) (hp : s.probeOf? other = none) :
    s.reconsider env call (first :: rest) = s.reconsider env call rest := by
  simp only [reconsider, ho, hp]

/-- After a probe that is not held the call goes on. -/
theorem reconsider_atOnce (ho : Uri.toPath first = .ok other)
    (hp : s.probeOf? other = some (engine, name))
    (hh : (env.run engine "" name s.settings.options).held = none) :
    s.reconsider env call (first :: rest) =
      ((s.invoke env engine "" name).1.reconsidered other
        (env.run engine "" name s.settings.options).outcome).reconsider env call rest := by
  simp only [reconsider, ho, hp, invoke, hh]

/-- Where a probe is held, the call pauses. -/
theorem reconsider_pauses {holder : String} (ho : Uri.toPath first = .ok other)
    (hp : s.probeOf? other = some (engine, name))
    (hh : (env.run engine "" name s.settings.options).held = some holder) :
    s.reconsider env call (first :: rest) =
      (s.invoke env engine "" name).1.keep holder (.reconsider call other rest)
        (env.run engine "" name s.settings.options) := by
  simp only [reconsider, ho, hp, invoke, hh]

end

/-! ## The turn of a file -/

/-- The turn of a file in a session, and how the call goes on: the file is probed with the engine
that found it broken; when the probe has ended, at once or after a pause, a file that lints again is
forgotten before the call goes on to the other addresses. -/
structure Probes (env : Surroundings) (call : Nat) (path : String) (rest : List String)
    (engine name : String) (s t : Session) : Prop where
  stored : Table.get? s.reported.broken path = some engine
  named : s.probeFile? path = some name
  atOnce : (env.run engine "" name s.settings.options).held = none →
    t = ((s.invoke env engine "" name).1.reconsidered path
      (env.run engine "" name s.settings.options).outcome).reconsider env call rest
  pauses : ∀ holder, (env.run engine "" name s.settings.options).held = some holder →
    t = (s.invoke env engine "" name).1.keep holder (.reconsider call path rest)
      (env.run engine "" name s.settings.options)
  resumes : ∀ (env' : Surroundings) (u : Session) (holder : String)
      (outcome : Except Failure (Option Report)),
    u.perform env' (.ended ⟨holder, .reconsider call path rest, outcome⟩) =
      (u.reconsidered path outcome).reconsider env' call rest
  forgets : ∀ (u : Session) (report : Option Report),
    Table.has (u.reconsidered path (.ok report)).reported.broken path = false

/-- The turn of a file comes in the course of a call that goes on with a task: in the same stretch,
or after a pause, whatever the surroundings and the session are by then, as long as the file is
known to be broken. -/
inductive Meets (call : Nat) (path : String) : Surroundings → Session → Task → Prop where
  | turn {env : Surroundings} {s t : Session} {task : Task} {uri engine name : String}
      {rest : List String} (before : Spares path s t) (address : Uri.toPath uri = .ok path)
      (probe : Probes env call path rest engine name t (s.perform env task)) :
      Meets call path env s task
  | pause {env : Surroundings} {s t : Session} {task : Task} {other holder : String}
      {rest : List String} {run : Engine.Run} (before : Spares path s t) (ne : other ≠ path)
      (held : s.perform env task = t.keep holder (.reconsider call other rest) run)
      (later : ∀ env' u, Table.has u.reported.broken path = true →
        Meets call path env' u (.ended ⟨holder, .reconsider call other rest, run.outcome⟩)) :
      Meets call path env s task

/-- A file in a folder is probed when its turn comes. -/
theorem probes_of_stored {uri engine : String} {rest : List String}
    (hs : Table.get? s.reported.broken path = some engine)
    (hf : (Path.folderOf path).isEmpty = false) (ha : Uri.toPath uri = .ok path) :
    ∃ name, Probes env call path rest engine name s (s.reconsider env call (uri :: rest)) := by
  have hn : s.probeFile? path = some (Path.inFolder (Path.folderOf path) s.config.probeName) := by
    simp only [probeFile?, hf, Bool.false_eq_true, if_false]
  have hp : s.probeOf? path =
      some (engine, Path.inFolder (Path.folderOf path) s.config.probeName) := by
    unfold probeOf?
    rw [hs, hn]
    rfl
  exact ⟨_, hs, hn, reconsider_atOnce ha hp, fun holder => reconsider_pauses ha hp,
    fun env' u holder outcome => rfl, fun u report => has_reconsidered path report u⟩

theorem Spares.has (h : Spares path s t) :
    Table.has t.reported.broken path = Table.has s.reported.broken path := by
  rw [Table.has, Table.has, h.stored]

/-- The turn of a file comes if its address is in a list and no address in front of it is refused.
By induction on the addresses in front: each is passed over, or its file is probed, and there the
call may pause. -/
theorem meets_of_reconsider {front rest : List String} {uri : String}
    (hf : (Path.folderOf path).isEmpty = false) (ha : Uri.toPath uri = .ok path)
    (hfront : ∀ u ∈ front, (Uri.toPath u).isOk = true) {env : Surroundings} {s t : Session}
    {task : Task} (before : Spares path s t) (hs : Table.has t.reported.broken path = true)
    (hp : s.perform env task = t.reconsider env call (front ++ uri :: rest)) :
    Meets call path env s task := by
  induction front generalizing env s t task with
  | nil =>
    obtain ⟨engine, stored⟩ := Option.isSome_iff_exists.mp hs
    obtain ⟨name, probe⟩ := probes_of_stored stored hf ha
    exact .turn before ha (hp ▸ probe)
  | cons first front ih =>
    rw [List.forall_mem_cons] at hfront
    rw [List.cons_append] at hp
    obtain ⟨other, ho⟩ : ∃ other, Uri.toPath first = .ok other := by
      cases ho : Uri.toPath first with
      | error f =>
        rw [ho] at hfront
        cases hfront.1
      | ok other => exact ⟨other, rfl⟩
    by_cases hne : other = path
    · -- another spelling of the same address
      subst hne
      obtain ⟨engine, stored⟩ := Option.isSome_iff_exists.mp hs
      obtain ⟨name, probe⟩ := probes_of_stored stored hf ho
      exact .turn before ho (hp ▸ probe)
    cases hprobe : t.probeOf? other with
    | none => exact ih hfront.2 before hs (hp.trans (reconsider_over ho hprobe))
    | some found =>
      obtain ⟨engine, name⟩ := found
      have invoked : Spares path t (t.invoke env engine "" name).1 := invoke_spares engine "" name t
      cases hheld : (env.run engine "" name t.settings.options).held with
      | none =>
        have probed := invoked.trans (reconsidered_spares hne
          (env.run engine "" name t.settings.options).outcome _)
        exact ih hfront.2 (before.trans probed) (probed.has.trans hs)
          (hp.trans (reconsider_atOnce ho hprobe hheld))
      | some holder =>
        have held := hp.trans (reconsider_pauses ho hprobe hheld)
        refine .pause (before.trans invoked) hne held fun env' u hu => ?_
        have resumed :=
          reconsidered_spares hne (env.run engine "" name t.settings.options).outcome u
        exact ih hfront.2 resumed (resumed.has.trans hu) rfl

/-- An address that is refused ends the call, if no file in front of it is known to be broken. -/
theorem reconsider_refused {bad : String} {f : Failure} (front rest : List String)
    (hfront : ∀ u ∈ front, ∃ other, Uri.toPath u = .ok other ∧
      Table.has s.reported.broken other = false) (hb : Uri.toPath bad = .error f) :
    s.reconsider env call (front ++ bad :: rest) = s.done call (.error f) := by
  induction front with
  | nil => rw [List.nil_append, reconsider, hb]
  | cons first front ih =>
    rw [List.forall_mem_cons] at hfront
    obtain ⟨⟨other, ho, hn⟩, hfront⟩ := hfront
    have hget : Table.get? s.reported.broken other = none := by simpa [Table.has] using hn
    have hprobe : s.probeOf? other = none := by
      rw [probeOf?, hget]
      rfl
    rw [List.cons_append, reconsider_over ho hprobe]
    exact ih hfront

/-! ## The address of a broken file -/

open Uri in
/-- A path of characters that begins with one slash and has no drive letter has an address, comes
back from it, and shares it with no other such path. So if a call that reconsiders files gets the
address of a file that is known to be broken, and no address in front of it is refused, the turn of
the file comes. -/
theorem repaired_file_is_recognised {path : String} (hp : Rooted path) :
    (∃ uri, ofPath path = .ok uri ∧ toPath uri = .ok path) ∧
    (∀ other uri, Rooted other → ofPath path = .ok uri → ofPath other = .ok uri → path = other) ∧
    ∀ (env : Surroundings) (call : Nat) (s : Session) (uri : String) (front rest : List String),
      ofPath path = .ok uri → Table.has s.reported.broken path = true →
        (∀ u ∈ front, (toPath u).isOk = true) →
          Meets call path env s (.start call (.reconsider (front ++ uri :: rest))) := by
  refine ⟨ofPath_succeeds hp, fun other uri ho h h' => ofPath_injective hp ho h h', ?_⟩
  intro env call s uri front rest ha hs hfront
  have hf : (Path.folderOf path).isEmpty = false := by
    obtain ⟨rest, rfl, -⟩ := hp.slash
    refine Path.folderOf_ne_empty ?_
    rw [Text.toList_ofChars, coded_slash]
    exact List.mem_cons_self
  exact meets_of_reconsider hf (toPath_ofPath hp ha) hfront (forgetNoConfig_spares s) hs rfl

/-- Surroundings in which every lint run has an empty report. -/
def lintsAgain : Surroundings where
  find _ _ := .ok "eslint"
  waits _ := false
  build _ := .ok ()
  run _ _ _ _ := { effects := [], outcome := .ok (some {}) }

/-- A session in which a pass has failed with a broken file. -/
def knowing (file : String) : Session :=
  (judged Classifier.single
    { document := { uri := "file:///a.js", text := "" }, engine := "eslint",
      failure := .lint ("Cannot read config file: " ++ file ++ "\nError: x") } {}).1

/-- The turn of a file comes whose path holds characters that are escaped. -/
theorem escaped_file_is_recognised :
    Uri.Rooted "/proj/ü #1?%2F;.json" ∧
    Uri.toPath "file:///proj/%C3%BC%20%231%3F%252F%3B.json" = .ok "/proj/ü #1?%2F;.json" ∧
    Meets 0 "/proj/ü #1?%2F;.json" lintsAgain (knowing "/proj/ü #1?%2F;.json")
      (.start 0 (.reconsider (["untitled:a", "file:///b"] ++
        "file:///proj/%C3%BC%20%231%3F%252F%3B.json" :: ["file:///c"]))) := by
  have rooted : Uri.Rooted "/proj/ü #1?%2F;.json" :=
    ⟨⟨"proj/ü #1?%2F;.json".toList, by decide, by decide⟩, rfl⟩
  have address : Uri.ofPath "/proj/ü #1?%2F;.json" =
      .ok "file:///proj/%C3%BC%20%231%3F%252F%3B.json" := by rfl
  obtain ⟨⟨uri, ha, back⟩, -, turn⟩ := repaired_file_is_recognised rooted
  obtain rfl := Except.ok.inj (ha.symm.trans address)
  exact ⟨rooted, back, turn _ _ _ _ _ _ address (by rfl) (by decide)⟩

/-- A call with two addresses, the first of which is refused. -/
def refusedFirst : Task :=
  .start 0 (.reconsider ["http://[V1.x]/", "file:///proj/.eslintrc.json"])

/-- The call ends at the address that is refused: the file behind it is not probed, and it is still
known to be broken. -/
theorem refused_address_ends_the_call :
    Table.get? (knowing "/proj/.eslintrc.json").reported.broken "/proj/.eslintrc.json" =
      some "eslint" ∧
    Uri.ofPath "/proj/.eslintrc.json" = .ok "file:///proj/.eslintrc.json" ∧
    ∀ env, ∃ f, ((knowing "/proj/.eslintrc.json").perform env refusedFirst).finished =
        [(0, .error f)] ∧
      ((knowing "/proj/.eslintrc.json").perform env refusedFirst).history =
        (knowing "/proj/.eslintrc.json").history ∧
      Table.get? ((knowing "/proj/.eslintrc.json").perform env refusedFirst).reported.broken
        "/proj/.eslintrc.json" = some "eslint" := by
  refine ⟨by rfl, by rfl, fun env => ?_⟩
  obtain ⟨f, refused⟩ : ∃ f, Uri.toPath "http://[V1.x]/" = .error f := ⟨_, rfl⟩
  have ends : ∀ s : Session,
      s.perform env refusedFirst = s.forgetNoConfig.done 0 (.error f) := by
    intro s
    have starts : s.perform env refusedFirst = s.forgetNoConfig.reconsider env 0
        ([] ++ "http://[V1.x]/" :: ["file:///proj/.eslintrc.json"]) := rfl
    rw [starts, reconsider_refused [] _ (fun _ h => by cases h) refused]
  rw [ends]
  exact ⟨f, by rfl, by rfl, by rfl⟩

end Session

end LintServer
