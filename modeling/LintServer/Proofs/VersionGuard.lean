/-
  LintServer.Proofs.VersionGuard — what the version of a document says about its fixes.

  Passes are never cancelled, so a report can come in when its text is long gone. The version it
  was made for goes with its fixes, and the client compares it with the version it has. That
  tells texts apart as long as the client raises the version with each new text; but a document
  that is closed and opened again may start over, and a pass that was under way at the close
  ends all the same.
  - `Known`: of a snapshot, that the open document follows it by version, or that the pass over
    it, or the fixes it left, outlived the last close.
  - `step_inv`, `guard_inv`: snapshots under way and latest reports are known, move by move and
    in every run.
  - `version_guard`: fixes offered for the version of the open document are of its text, unless
    they outlived its last close.
  - `reopened_guard_fails`: that they can.
-/

import LintServer.Proofs.LastPass
import LintServer.Proofs.Outcomes
import LintServer.Proofs.Selection

namespace LintServer

open Happening (latest)
open Session (Ending)

/-- A version and a text can come after a document: the version is no lower, and it is higher
if the text is another. -/
def Document.Precedes (d : Document) (version : Int) (text : Text) : Prop :=
  d.version ≤ version ∧ (text ≠ d.text → d.version < version)

theorem Document.Precedes.refl (d : Document) : d.Precedes d.version d.text :=
  ⟨Int.le_refl _, fun h => absurd rfl h⟩

theorem Document.Precedes.trans {a b : Document} {version : Int} {text : Text}
    (h : a.Precedes b.version b.text) (h' : b.Precedes version text) :
    a.Precedes version text := by
  refine ⟨Int.le_trans h.1 h'.1, fun hne => ?_⟩
  by_cases e : b.text = a.text
  · exact Int.lt_of_le_of_lt h.1 (h'.2 fun ht => hne (ht.trans e))
  · exact Int.lt_of_lt_of_le (h.2 e) h'.1

theorem Document.Precedes.text_eq {a b : Document} (h : a.Precedes b.version b.text)
    (hv : a.version = b.version) : a.text = b.text := by
  by_cases e : b.text = a.text
  · exact e.symm
  · have := h.2 e
    omega

namespace Server

/-- The client keeps its side: as long as a document is open, each new text of it has a higher
version. -/
def Versioned (s : Server) : Incoming → Prop
  | .didOpen d => ∀ old, s.document? (keyOf d.uri) = some old → old.Precedes d.version d.text
  | .didChange uri version texts => ∀ old, s.document? (keyOf uri) = some old →
      ∀ text, texts.getLast? = some text → old.Precedes version text
  | _ => True

/-- The handlers of code actions or of all fixes give out an edit for a version. -/
def Offers (s : Server) (uri : String) (version : Int) (edit : TextEdit) : Prop :=
  (∃ a, s.fixesAt (.str uri) = .ok (some a) ∧ a.version = version ∧ edit ∈ a.edits) ∨
    ∃ keys commands, s.commandsAt uri keys = .ok commands ∧
      ∃ c ∈ commands, c.version = version ∧ edit ∈ c.edits

end Server

/-- How a lint run over a text can come out in a world. -/
def Said (world : Surroundings → Prop) (text : Text) (outcome : Except Failure (Option Report)) :
    Prop :=
  ∃ env, world env ∧ ∃ engine file options, (env.run engine text file options).outcome = outcome

/-- When the document was last closed, a pass over the snapshot was under way, or the fixes that
it left stayed. -/
def Outlived (log : List Happening) (d : Document) : Prop :=
  ∃ before under rest, log = before ++ .shut (Server.keyOf d.uri) under :: rest ∧
    (∀ u, .shut (Server.keyOf d.uri) u ∉ rest) ∧
    (d ∈ under ∨ ∃ outcome, latest d.uri before = some (.passed ⟨d, outcome⟩))

/-- What is known of a snapshot: that the open document comes after it, or that it is stale. -/
def Known (m : Moment) (log : List Happening) (d : Document) : Prop :=
  Outlived log d ∨ ∃ now, m.server.document? (Server.keyOf d.uri) = some now ∧
    d.Precedes now.version now.text

/-! ## What happened last -/

namespace Happening

theorem latest_append (uri : String) (a b : List Happening) :
    latest uri (a ++ b) = (latest uri b).or (latest uri a) := by
  rw [latest, List.filter_append, List.getLast?_append]
  rfl

theorem mem_of_latest {uri : String} {log : List Happening} {x : Happening}
    (h : latest uri log = some x) : x ∈ log ∧ x.touches uri = true :=
  List.mem_filter.mp (List.mem_of_getLast? h)

theorem uri_of_latest {uri : String} {log : List Happening} {e : Ending}
    (h : latest uri log = some (.passed e)) : e.document.uri = uri :=
  eq_of_beq (mem_of_latest h).2

/-- A pass that is latest before some happenings in which no pass ends is so throughout them. -/
theorem latest_of_no_pass {uri : String} {log more : List Happening} {e : Ending}
    (hn : ∀ e, .passed e ∉ more) (h : latest uri (log ++ more) = some (.passed e)) :
    ∀ before rest, more = before ++ rest → latest uri (log ++ before) = some (.passed e) := by
  rw [latest_append] at h
  cases hm : latest uri more with
  | some x =>
    rw [hm] at h
    injection h with h
    subst h
    exact absurd (mem_of_latest hm).1 (hn e)
  | none =>
    rw [hm, Option.none_or] at h
    rintro before rest rfl
    rw [latest_append] at hm ⊢
    cases hb : latest uri before with
    | none => exact h
    | some x =>
      rw [hb] at hm
      cases hr : latest uri rest <;> rw [hr] at hm <;> cases hm

end Happening

theorem Outlived.append {log more : List Happening} {d : Document} (h : Outlived log d)
    (hn : ∀ u, .shut (Server.keyOf d.uri) u ∉ more) : Outlived (log ++ more) d := by
  obtain ⟨before, under, rest, rfl, hr, h⟩ := h
  refine ⟨before, under, rest ++ more, by simp, ?_, h⟩
  intro u hu
  rcases List.mem_append.mp hu with hu | hu
  · exact hr u hu
  · exact hn u hu

/-! ## Documents and their keys -/

/-- Every document is there once, under the key of its address. -/
structure Documents.Filed (ds : Documents) : Prop where
  once : (Table.keys ds).Nodup
  keyed : ∀ e ∈ ds, e.1 = Server.keyOf e.2.uri

theorem Documents.Filed.get? {ds : Documents} (h : ds.Filed) {d : Document} (hd : d ∈ ds.all) :
    Table.get? ds (Server.keyOf d.uri) = some d := by
  obtain ⟨e, he, rfl⟩ := List.mem_map.mp hd
  rw [← h.keyed e he]
  exact Table.get?_of_mem h.once he

theorem Documents.Filed.put {ds : Documents} (h : ds.Filed) {key : String} {d : Document}
    (hk : key = Server.keyOf d.uri) : Documents.Filed (Table.put key d ds) := by
  refine ⟨Table.nodup_put h.once key d, ?_⟩
  intro e he
  rcases Table.mem_put he with rfl | he
  · exact hk
  · exact h.keyed e he

theorem Documents.Filed.closed {ds : Documents} (h : ds.Filed) (key : String) :
    (ds.closed key).Filed :=
  ⟨Table.nodup_erase h.once key, fun e he => h.keyed e (List.mem_filter.mp he).1⟩

theorem Documents.filed_nil : Documents.Filed [] := by
  refine ⟨List.nodup_nil, ?_⟩
  intro e he
  cases he

namespace Server

/-- Of several full changes the last one counts. -/
theorem changed_eq (version : Int) {texts : List Text} {text : Text} (d : Document)
    (h : texts.getLast? = some text) : changed version texts d = { d with version, text } := by
  induction texts generalizing d with
  | nil => cases h
  | cons first rest ih =>
    rw [List.getLast?_cons] at h
    show changed version rest { d with version, text := first } = _
    cases hr : rest.getLast? with
    | none =>
      rw [hr] at h
      injection h with h
      rw [List.getLast?_eq_none_iff.mp hr, ← h]
      rfl
    | some last =>
      rw [hr] at h
      injection h with h
      exact ih _ (hr.trans (congrArg some h))

/-- A message puts a document under a key. -/
inductive Put (s : Server) : Incoming → String → Document → Prop
  | opened (d : Document) : Put s (.didOpen d) (keyOf d.uri) d
  | changed {uri : String} {version : Int} {texts : List Text} {old : Document} {text : Text}
      (h : s.document? (keyOf uri) = some old) (ht : texts.getLast? = some text) :
      Put s (.didChange uri version texts) (keyOf uri) { old with version, text }

/-- What a message can do to the documents. -/
theorem documentsAfter_cases (s : Server) (x : Incoming) :
    s.documentsAfter x = s.session.documents ∨ s.documentsAfter x = [] ∨
      (∃ key, s.documentsAfter x = s.session.documents.closed key) ∨
      ∃ key d, Put s x key d ∧ s.documentsAfter x = Table.put key d s.session.documents := by
  cases x with
  | setUp id options rootPath rootUri =>
    simp only [documentsAfter]
    split
    · exact .inl rfl
    · exact .inr (.inl rfl)
  | didOpen d =>
    simp only [documentsAfter]
    split
    · exact .inr (.inr (.inr ⟨_, _, .opened d, rfl⟩))
    · exact .inl rfl
  | didChange uri version texts =>
    simp only [documentsAfter]
    split
    · rename_i d _ hd
      cases ht : texts.getLast? with
      | none =>
        rw [List.getLast?_eq_none_iff.mp ht]
        exact .inl rfl
      | some text =>
        have hne : texts.isEmpty = false := by
          cases texts with
          | nil => cases ht
          | cons first rest => rfl
        refine .inr (.inr (.inr ⟨_, _, .changed hd ht, ?_⟩))
        rw [hne, changed_eq version d ht]
        rfl
    · exact .inl rfl
  | didClose uri =>
    simp only [documentsAfter]
    split
    · exact .inr (.inr (.inl ⟨_, rfl⟩))
    · exact .inl rfl
  | _ => exact .inl rfl

theorem Put.key_eq {s : Server} {x : Incoming} {key : String} {d : Document}
    (h : Put s x key d) (hs : s.session.documents.Filed) : key = keyOf d.uri := by
  cases h with
  | opened d => rfl
  | changed h ht => exact hs.keyed _ (Table.mem_of_get? h)

theorem Put.precedes {s : Server} {x : Incoming} {key : String} {d old : Document}
    (h : Put s x key d) (hv : s.Versioned x) (ho : s.document? key = some old) :
    old.Precedes d.version d.text := by
  cases h with
  | opened d => exact hv old ho
  | changed h ht => exact hv old ho _ ht

theorem documentsAfter_filed {s : Server} (h : s.session.documents.Filed) (x : Incoming) :
    (s.documentsAfter x).Filed := by
  rcases documentsAfter_cases s x with e | e | ⟨key, e⟩ | ⟨key, d, hp, e⟩
  · rw [e]
    exact h
  · rw [e]
    exact Documents.filed_nil
  · rw [e]
    exact h.closed key
  · rw [e]
    exact h.put (hp.key_eq h)

/-- An open document stays open with a version and a text that come after, or it is open no
more. -/
theorem documentsAfter_precedes {s : Server} {x : Incoming} (hv : s.Versioned x) {key : String}
    {old : Document} (h : s.document? key = some old) :
    Table.get? (s.documentsAfter x) key = none ∨
      ∃ now, Table.get? (s.documentsAfter x) key = some now ∧
        old.Precedes now.version now.text := by
  rcases documentsAfter_cases s x with e | e | ⟨k, e⟩ | ⟨k, d, hp, e⟩
  · exact .inr ⟨old, e ▸ h, .refl old⟩
  · exact .inl (by rw [e]; rfl)
  · by_cases hk : key = k
    · left
      rw [e, hk]
      exact Table.get?_erase_self _ k
    · right
      refine ⟨old, ?_, .refl old⟩
      rw [e]
      exact (Table.get?_erase_of_ne hk _).trans h
  · right
    by_cases hk : key = k
    · subst hk
      refine ⟨d, ?_, hp.precedes hv h⟩
      rw [e]
      exact Table.get?_put_self key d _
    · refine ⟨old, ?_, .refl old⟩
      rw [e]
      exact (Table.get?_put_of_ne hk d _).trans h

theorem mem_shutBy {s : Server} {x : Incoming} {key : String} {old : Document}
    (h : s.document? key = some old) (hn : Table.get? (s.documentsAfter x) key = none) :
    key ∈ s.shutBy x := by
  have hd : (s.handle x).session.documents = s.documentsAfter x :=
    (handle_leads (Q := fun _ => True) (G := fun _ _ => True) s x fun _ _ => trivial).documents
  refine List.mem_filter.mpr ⟨List.mem_map.mpr ⟨_, Table.mem_of_get? h, rfl⟩, ?_⟩
  rw [hd, Table.has, hn]
  rfl

end Server

/-! ## Every run -/

variable {world : Surroundings → Prop} {m : Moment} {log : List Happening}

structure GuardInv (world : Surroundings → Prop) (m : Moment) (log : List Happening) : Prop where
  filed : m.server.session.documents.Filed
  under : ∀ d ∈ m.snapshots, Known m log d
  latest : ∀ uri e, latest uri log = some (.passed e) → Known m log e.document
  runs : ∀ r ∈ m.runs, r.Says (Said world)
  said : ∀ e, .passed e ∈ log → ∀ report, e.outcome = .ok report →
    Said world e.document.text (.ok report)

theorem init_inv (config : Config) (exit : Exit) :
    GuardInv world { server := { Server.ofConfig config with exit } } [] where
  filed := Documents.filed_nil
  under d hd := by cases hd
  latest uri e h := by cases h
  runs r hr := by cases hr
  said e h := by cases h

theorem Moment.documentsAfter_filed (h : m.server.session.documents.Filed) (mv : Move) :
    (m.documentsAfter mv).Filed := by
  cases mv with
  | message x =>
    simp only [documentsAfter]
    split
    · exact Server.documentsAfter_filed h x
    · exact h
  | _ => exact h

/-- Only messages close documents. -/
theorem shut_of_noted {mv : Move} {key : String} {u : List Document}
    (h : .shut key u ∈ m.noted mv) :
    ∃ x, mv = .message x ∧ m.server.hears x = true ∧ key ∈ m.server.shutBy x := by
  cases mv with
  | message x =>
    simp only [Moment.noted] at h
    split at h
    · rename_i hh
      refine ⟨x, rfl, hh, ?_⟩
      rcases List.mem_append.mp h with h | h
      · exact absurd h Moment.not_shut_of_forgets
      · obtain ⟨k, hk, he⟩ := List.mem_map.mp h
        injection he with he
        exact he ▸ hk
    · cases h
  | task env place =>
    simp only [Moment.noted] at h
    split at h
    · cases h
    · rw [Option.mem_toList, Option.map_eq_some_iff] at h
      obtain ⟨e, -, he⟩ := h
      cases he
  | _ => cases h

/-- A message that closes the document leaves a pass that is under way, or fixes that it does not
take away, behind. -/
theorem outlived_of_shut {x : Incoming} {d : Document} (hh : m.server.hears x = true)
    (once : (Table.keys m.server.session.documents).Nodup)
    (hk : Server.keyOf d.uri ∈ m.server.shutBy x) (live : d ∈ m.snapshots ∨
      ∃ outcome, latest d.uri (log ++ m.noted (.message x)) = some (.passed ⟨d, outcome⟩)) :
    Outlived (log ++ m.noted (.message x)) d := by
  obtain ⟨k1, k2, hk⟩ := List.append_of_mem hk
  -- no key comes twice, so after this close of the document there is no other
  have hk2 : Server.keyOf d.uri ∉ k2 := by
    have hnodup : (m.server.shutBy x).Nodup := once.sublist List.filter_sublist
    rw [hk] at hnodup
    exact (List.nodup_cons.mp (List.nodup_append.mp hnodup).2.1).1
  let before := m.server.forgets x ++ k1.map (Happening.shut · m.snapshots)
  let rest := k2.map (Happening.shut · m.snapshots)
  have hn : m.noted (.message x) =
      before ++ .shut (Server.keyOf d.uri) m.snapshots :: rest := by
    simp only [Moment.noted, hh, if_true, hk, List.map_append, List.map_cons, before, rest,
      List.append_assoc]
  refine ⟨log ++ before, m.snapshots, rest, by rw [hn, ← List.append_assoc log before], ?_, ?_⟩
  · intro u hu
    obtain ⟨k, hm, he⟩ := List.mem_map.mp hu
    injection he with he
    exact hk2 (he ▸ hm)
  · rcases live with live | ⟨outcome, hl⟩
    · exact .inl live
    · exact .inr ⟨outcome, Happening.latest_of_no_pass
        (fun _ => Moment.not_passed_of_message) hl before _ hn⟩

/-- A document that no move closes stays open, with a version and a text that come after. -/
theorem precedes_next {mv : Move} (allowed : m.Allowed world Server.Versioned mv) {key : String}
    {old : Document} (h : m.server.document? key = some old)
    (stays : ∀ u, .shut key u ∉ m.noted mv) :
    ∃ now, Table.get? (m.documentsAfter mv) key = some now ∧
      old.Precedes now.version now.text := by
  cases mv with
  | message x =>
    cases hh : m.server.hears x with
    | false =>
      refine ⟨old, ?_, .refl old⟩
      simp only [Moment.documentsAfter, hh, Bool.false_eq_true, if_false]
      exact h
    | true =>
      simp only [Moment.documentsAfter, hh, if_true]
      rcases Server.documentsAfter_precedes allowed h with gone | now
      · refine absurd ?_ (stays m.snapshots)
        simp only [Moment.noted, hh, if_true]
        exact List.mem_append_right _ (List.mem_map_of_mem (Server.mem_shutBy h gone))
      · exact now
  | _ => exact ⟨old, h, .refl old⟩

/-- What is known of a snapshot stays known through a move, as long as the pass over it is under
way or its fixes are there. -/
theorem known_next {mv : Move} (allowed : m.Allowed world Server.Versioned mv)
    (hf : m.server.session.documents.Filed)
    (hd : (m.next mv).server.session.documents = m.documentsAfter mv) {d : Document}
    (h : Known m log d) (live : d ∈ m.snapshots ∨
      ∃ outcome, latest d.uri (log ++ m.noted mv) = some (.passed ⟨d, outcome⟩)) :
    Known (m.next mv) (log ++ m.noted mv) d := by
  -- a close makes whatever is live stale; without one, what was known carries over
  by_cases shut : ∃ u, .shut (Server.keyOf d.uri) u ∈ m.noted mv
  · obtain ⟨u, hu⟩ := shut
    obtain ⟨x, rfl, hh, hk⟩ := shut_of_noted hu
    exact .inl (outlived_of_shut hh hf.once hk live)
  · have stays : ∀ u, .shut (Server.keyOf d.uri) u ∉ m.noted mv := fun u hu => shut ⟨u, hu⟩
    rcases h with h | ⟨old, ho, hp⟩
    · exact .inl (h.append stays)
    · obtain ⟨now, hn, hp'⟩ := precedes_next allowed ho stays
      refine .inr ⟨now, ?_, hp.trans hp'⟩
      rw [Server.document?, hd]
      exact hn

theorem said_of_run {env : Surroundings} (h : world env) (engine : String) (text : Text) (file : String)
    (options : List (String × Json)) :
    Said world text (env.run engine text file options).outcome :=
  ⟨env, h, engine, file, options, rfl⟩

theorem step_inv (h : GuardInv world m log) {mv : Move}
    (allowed : m.Allowed world Server.Versioned mv) :
    GuardInv world (m.next mv) (log ++ m.noted mv) := by
  have moves : m.Moves (Said world) mv :=
    Moment.next_moves (fun _ => said_of_run) allowed h.runs
  have filed : (m.documentsAfter mv).Filed := Moment.documentsAfter_filed h.filed mv
  refine ⟨?_, ?_, ?_, ?_, ?_⟩
  · rw [moves.documents]
    exact filed
  · intro d hd
    rcases moves.snapshots d hd with hd | hd
    · exact known_next allowed h.filed moves.documents (h.under d hd) (.inl hd)
    · refine .inr ⟨d, ?_, .refl d⟩
      rw [Server.document?, moves.documents]
      exact filed.get? hd
  · intro uri e he
    have hu : e.document.uri = uri := Happening.uri_of_latest he
    rw [Happening.latest_append] at he
    -- the latest pass ends in this move, or it was the latest and nothing touched the address
    cases hl : latest uri (m.noted mv) with
    | some x =>
      rw [hl] at he
      injection he with he
      have hs := (moves.passed e (he ▸ (Happening.mem_of_latest hl).1)).1
      exact known_next allowed h.filed moves.documents (h.under _ hs) (.inl hs)
    | none =>
      rw [hl, Option.none_or] at he
      refine known_next allowed h.filed moves.documents (h.latest uri e he) (.inr ⟨e.outcome, ?_⟩)
      rw [hu, Happening.latest_append, hl]
      exact he
  · intro r hr
    rcases moves.runs r hr with hr | hr
    · exact h.runs r hr
    · exact hr
  · intro e he
    rcases List.mem_append.mp he with he | he
    · exact h.said e he
    · exact (moves.passed e he).2

theorem guard_inv (h : Reach world Server.Versioned m log) : GuardInv world m log := by
  induction h with
  | init config exit => exact init_inv config exit
  | step h mv allowed ih => exact step_inv ih allowed

/-! ## What the handlers give out -/

/-- A version is that of a fix of the table, and an edit is made of a fix of it. -/
def FixTable.Yields (t : FixTable) (d : Document) (version : Int) (edit : TextEdit) : Prop :=
  (∃ fix ∈ Table.values t, fix.version = version) ∧
    ∃ fix ∈ Table.values t, Command.editOf d fix = .ok edit

namespace Command

variable {d : Document} {t : FixTable} {c : Command} {edit : TextEdit}

theorem yields_of_single {fix : Fix} (hf : fix ∈ Table.values t) (h : single d fix = .ok c)
    (he : edit ∈ c.edits) : t.Yields d c.version edit := by
  obtain ⟨made, hm, h⟩ := bind_eq_ok h
  injection h with h
  subst h
  rw [List.mem_singleton.mp he]
  exact ⟨⟨fix, hf, rfl⟩, fix, hf, hm⟩

theorem yields_of_several {title command : String} {last : Fix} (hl : last ∈ Table.values t)
    {fixes : List Fix} (hf : ∀ fix ∈ fixes, fix ∈ Table.values t) {commands : List Command}
    (h : several d title command last.version fixes = .ok commands) (hc : c ∈ commands)
    (he : edit ∈ c.edits) : t.Yields d c.version edit := by
  unfold several at h
  split at h
  · injection h with h
    rw [← h] at hc
    cases hc
  · obtain ⟨edits, hm, h⟩ := bind_eq_ok h
    injection h with h
    rw [← h] at hc
    rw [List.mem_singleton.mp hc] at he ⊢
    obtain ⟨fix, hfix, hmade⟩ := mem_of_mapM hm edit he
    exact ⟨⟨last, hl, rfl⟩, fix, hf fix hfix, hmade⟩

theorem yields_of_offered {keys : List String} {commands : List Command}
    (h : offered d t keys = .ok commands) (hc : c ∈ commands) (he : edit ∈ c.edits) :
    t.Yields d c.version edit := by
  obtain ⟨singles, hs, h⟩ := bind_eq_ok h
  have alone : c ∈ singles → t.Yields d c.version edit := by
    intro hm
    obtain ⟨fix, hf, hfix⟩ := mem_of_mapM hs c hm
    exact yields_of_single (FixTable.mem_values_of_inScope hf) hfix he
  cases hlast : (FixTable.inScope t keys).getLast? with
  | none =>
    simp only [hlast] at h
    injection h with h
    exact alone (h ▸ hc)
  | some last =>
    have hl : last ∈ Table.values t :=
      FixTable.mem_values_of_inScope (List.mem_of_getLast? hlast)
    simp only [hlast] at h
    split at h
    · injection h with h
      exact alone (h ▸ hc)
    · obtain ⟨same, hsame, h⟩ := bind_eq_ok h
      obtain ⟨all, hall, h⟩ := bind_eq_ok h
      injection h with h
      rw [← h] at hc
      rcases List.mem_append.mp hc with hc | hc
      · rcases List.mem_append.mp hc with hc | hc
        · exact alone hc
        · exact yields_of_several hl (fun _ => FixTable.mem_values_of_sameRule) hsame hc he
      · exact yields_of_several hl (fun _ => FixTable.mem_values_of_overlapFree) hall hc he

end Command

theorem AllFixes.yields_of_ofTable {d : Document} {t : FixTable} {a : AllFixes}
    (h : AllFixes.ofTable (some d) (some t) = .ok (some a)) {edit : TextEdit}
    (he : edit ∈ a.edits) : t.Yields d a.version edit := by
  cases t with
  | nil => cases h
  | cons first rest =>
    obtain ⟨version, hv, h⟩ := bind_eq_ok h
    obtain ⟨edits, hm, h⟩ := bind_eq_ok h
    injection h with h
    injection h with h
    subst h
    injection hv with hv
    obtain ⟨fix, hf, hfix⟩ := mem_of_mapM hm edit he
    exact ⟨⟨first.2, List.mem_cons_self, hv⟩, fix, FixTable.mem_values_of_overlapFree hf, hfix⟩

/-- What a handler gives out is made of the fixes on file, for the document it finds. -/
theorem Server.Offers.yields {s : Server} {uri : String} {version : Int} {edit : TextEdit}
    (h : s.Offers uri version edit) : ∃ shown t, s.document? uri = some shown ∧
      s.session.registry.lookup uri = some t ∧ t.Yields shown version edit := by
  rcases h with ⟨a, ha, rfl, he⟩ | ⟨keys, commands, hk, c, hc, rfl, he⟩
  · unfold Server.fixesAt at ha
    split at ha
    · cases ha
    · split at ha
      · cases ha
      · simp only at ha
        cases hd : s.document? uri with
        | none =>
          rw [hd] at ha
          cases ha
        | some shown =>
          rw [hd] at ha
          cases ht : s.session.registry.lookup uri with
          | none =>
            rw [ht] at ha
            cases ha
          | some t =>
            rw [ht] at ha
            exact ⟨shown, t, rfl, rfl, AllFixes.yields_of_ofTable ha he⟩
  · unfold Server.commandsAt at hk
    split at hk
    · cases hk
    · cases hd : s.document? uri with
      | none =>
        rw [hd] at hk
        injection hk with hk
        rw [← hk] at hc
        cases hc
      | some shown =>
        rw [hd] at hk
        cases ht : s.session.registry.lookup uri with
        | none =>
          rw [ht] at hk
          injection hk with hk
          rw [← hk] at hc
          cases hc
        | some t =>
          rw [ht] at hk
          refine ⟨shown, t, rfl, rfl, ?_⟩
          cases t with
          | nil =>
            injection hk with hk
            rw [← hk] at hc
            cases hc
          | cons first rest => exact Command.yields_of_offered hk hc he

/-! ## The guard -/

/-- An edit in a document is for a problem that an engine reported when it linted a snapshot. -/
def FromLinting (world : Surroundings → Prop) (linted shown : Document) (edit : TextEdit) : Prop :=
  ∃ report, Said world linted.text (.ok report) ∧ ∃ p ∈ (report.map Report.problems).getD [],
    ∃ fix, Fix.ofProblem? linted p = some fix ∧ Command.editOf shown fix = .ok edit

/-- With a client that keeps its side, an edit that is offered for the version of the open
document comes from linting a snapshot of that version, and the text of the snapshot is the text
now open, unless the pass over it or its fixes outlived the last close of the document. -/
theorem version_guard (h : Reach world Server.Versioned m log) {uri : String} {d : Document}
    (hd : m.server.document? (Server.keyOf uri) = some d) {edit : TextEdit}
    (ho : m.server.Offers uri d.version edit) :
    ∃ linted shown, linted.uri = uri ∧ linted.version = d.version ∧
      m.server.document? uri = some shown ∧ FromLinting world linted shown edit ∧
      (linted.text = d.text ∨ Outlived log linted) := by
  have inv : GuardInv world m log := guard_inv h
  obtain ⟨shown, t, hs, ht, ⟨first, hf, hv⟩, fix, hfix, hedit⟩ := ho.yields
  obtain ⟨linted, report, hl, hp⟩ := passed_of_lookup h ht
  have hu : linted.uri = uri := Happening.uri_of_latest hl
  have origin : ∀ f ∈ Table.values t, ∃ p ∈ (report.map Report.problems).getD [],
      Fix.ofProblem? linted p = some f := by
    intro f hf
    obtain ⟨entry, he, rfl⟩ := List.mem_map.mp hf
    exact hp entry he
  obtain ⟨_, -, hfirst⟩ := origin first hf
  obtain ⟨p, hpm, hpf⟩ := origin fix hfix
  have hversion : linted.version = d.version := (Fix.ofProblem?_version hfirst).symm.trans hv
  refine ⟨linted, shown, hu, hversion, hs, ?_, ?_⟩
  · exact ⟨report, inv.said _ (Happening.mem_of_latest hl).1 report rfl, p, hpm, fix, hpf, hedit⟩
  · rcases inv.latest uri _ hl with out | ⟨now, hn, hprec⟩
    · exact .inr out
    · have hnow : now = d := by
        rw [show (Ending.mk linted (.ok report)).document.uri = uri from hu, hd] at hn
        injection hn with hn
        exact hn.symm
      rw [hnow] at hprec
      exact .inl (hprec.text_eq hversion)

/-- The one fix on file is offered. -/
theorem offers_verdict {s : Server} {now : Document} {version : Int} {text : String}
    {edit : TextEdit}
    (hf : s.fixesAt (.str "file:///a.js") =
      AllFixes.ofTable (some now) (some (verdictTable version text)))
    (he : (Table.values (verdictTable version text)).mapM (Command.editOf now) = .ok [edit]) :
    s.Offers "file:///a.js" version edit := by
  have hfree : FixTable.overlapFree (verdictTable version text) =
      Table.values (verdictTable version text) := by
    simp [verdictTable, FixTable.overlapFree, FixTable.sorted, FixTable.ordered, Table.values,
      FixTable.select, FixTable.overlaps]
  refine .inl ⟨⟨version, [edit]⟩, ?_, rfl, List.mem_cons_self⟩
  rw [hf]
  show (do
    let edits ← Command.editsOf now (FixTable.overlapFree (verdictTable version text))
    return some (AllFixes.mk version edits)) = _
  rw [Command.editsOf, hfree, he]
  rfl

/-- A document is changed while its first pass is under way, and both passes end in order. -/
def changedInTime : List Move :=
  [.message (.setUp .null .null none none), .message (.didOpen (draft 1 "a")), .take,
    .task slowEngine 0, .task slowEngine 0, .message (.didChange "file:///a.js" 2 ["b"]), .take,
    .task slowEngine 0, .runEnds 0, .take, .task slowEngine 0, .runEnds 0, .take,
    .task slowEngine 0]

theorem changedInTime_version_guard :
    Reach (· = slowEngine) Server.Versioned (started.after changedInTime)
        (started.story changedInTime) ∧
      (started.after changedInTime).server.document? (Server.keyOf "file:///a.js") =
        some (draft 2 "b") ∧
      (started.after changedInTime).server.Offers "file:///a.js" 2 ⟨⟨⟨0, 0⟩, ⟨0, 0⟩⟩, "b"⟩ ∧
      ∃ linted shown, linted.version = 2 ∧ linted.text = Text.ofString "b" ∧
        FromLinting (· = slowEngine) linted shown ⟨⟨⟨0, 0⟩, ⟨0, 0⟩⟩, "b"⟩ := by
  have h : Reach (· = slowEngine) Server.Versioned (started.after changedInTime)
      (started.story changedInTime) := by
    refine (Reach.init {} {}).after ⟨trivial, ?_, trivial, rfl, rfl, ?_, trivial, rfl, trivial,
      trivial, rfl, trivial, trivial, rfl, trivial⟩
    · intro old ho
      cases (ho : none = some old)
    · intro old ho text ht
      cases (ho : some (draft 1 "a") = some old)
      cases ht
      exact ⟨by decide, fun _ => by decide⟩
  have hd : (started.after changedInTime).server.document? (Server.keyOf "file:///a.js") =
      some (draft 2 "b") := rfl
  have ho : (started.after changedInTime).server.Offers "file:///a.js" 2
      ⟨⟨⟨0, 0⟩, ⟨0, 0⟩⟩, "b"⟩ := by
    have hf : (started.after changedInTime).server.fixesAt (.str "file:///a.js") =
        AllFixes.ofTable (some (draft 2 "b")) (some (verdictTable 2 "b")) := rfl
    exact offers_verdict hf rfl
  obtain ⟨linted, shown, -, hv, -, hfrom, htext⟩ := version_guard h hd ho
  refine ⟨h, hd, ho, linted, shown, hv, ?_, hfrom⟩
  rcases htext with htext | ⟨before, under, rest, hlog, -, -⟩
  · exact htext
  · have hs : started.story changedInTime =
        [.passed ⟨draft 1 "a", .ok (some (verdictOn "a"))⟩,
          .passed ⟨draft 2 "b", .ok (some (verdictOn "b"))⟩] := rfl
    have hm : Happening.shut (Server.keyOf linted.uri) under ∈ started.story changedInTime := by
      rw [hlog]
      simp
    rw [hs] at hm
    simp at hm

/-- A document is closed and opened again with another text while a pass is under way. -/
def reopenedEarly : List Move :=
  [.message (.setUp .null .null none none), .message (.didOpen (draft 1 "a")), .take,
    .task slowEngine 0, .task slowEngine 0, .message (.didClose "file:///a.js"),
    .message (.didOpen (draft 1 "b")), .take, .task slowEngine 0, .task slowEngine 0, .runEnds 0,
    .take, .task slowEngine 0]

/-- What the slow engine proposes shows which text it linted. -/
theorem newText_of_fromLinting {linted shown : Document} {edit : TextEdit}
    (h : FromLinting (· = slowEngine) linted shown edit) : edit.newText = linted.text.string := by
  obtain ⟨report, ⟨env, rfl, engine, file, options, hr⟩, p, hp, fix, hf, he⟩ := h
  injection hr with hr
  subst hr
  rw [List.mem_singleton.mp hp] at hf
  injection hf with hf
  subst hf
  have htext : (Json.str linted.text.string).orElse (.str "") = .str linted.text.string := by
    show (if !linted.text.string.isEmpty then Json.str linted.text.string else .str "") = _
    cases hempty : linted.text.string.isEmpty with
    | false => rfl
    | true =>
      rw [String.isEmpty_iff.mp hempty]
      rfl
  obtain ⟨start, -, he⟩ := bind_eq_ok he
  obtain ⟨stop, -, he⟩ := bind_eq_ok he
  simp only [htext] at he
  injection he with he
  rw [← he]

/-- The version alone does not tell the texts of two openings apart: an edit is offered for the
version of the open document that comes from linting the text it had before it was closed. -/
theorem reopened_guard_fails :
    ∃ m log d edit, Reach (· = slowEngine) Server.Versioned m log ∧
      m.server.document? (Server.keyOf "file:///a.js") = some d ∧
      m.server.Offers "file:///a.js" d.version edit ∧
      ¬ ∃ linted shown, linted.text = d.text ∧
        FromLinting (· = slowEngine) linted shown edit := by
  refine ⟨started.after reopenedEarly, started.story reopenedEarly, draft 1 "b",
    ⟨⟨⟨0, 0⟩, ⟨0, 0⟩⟩, "a"⟩, ?_, rfl, ?_, ?_⟩
  · refine (Reach.init {} {}).after ⟨trivial, ?_, trivial, rfl, rfl, trivial, ?_, trivial, rfl, rfl,
      trivial, trivial, rfl, trivial⟩
    · intro old ho
      cases (ho : none = some old)
    · intro old ho
      cases (ho : none = some old)
  · have hf : (started.after reopenedEarly).server.fixesAt (.str "file:///a.js") =
        AllFixes.ofTable (some (draft 1 "b")) (some (verdictTable 1 "a")) := rfl
    exact offers_verdict hf rfl
  · rintro ⟨linted, shown, htext, hfrom⟩
    -- the edit would have to put in the text that is open now, and it puts in the first one
    have hne := newText_of_fromLinting hfrom
    rw [htext] at hne
    exact absurd hne (by decide)

end LintServer
