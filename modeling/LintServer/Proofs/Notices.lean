/-
  LintServer.Proofs.Notices — how often the editor is told of a configuration.

  Whatever else happens, from one reset to the next the editor is told once that a document has no
  configuration, if a pass over it fails for that, and from one successful probe to the next it is
  warned once of a broken file, if a pass fails for that. With the warning an information is shown
  if no document is kept under the address of the file. That is not the same as that the file is not
  open: documents are kept under decoded addresses, and the address of a path is escaped.
  - `Moment.requests`, `Moment.warnings`: what is told in a move.
  - `Moment.Period`: the moves from one cut to the next.
  - `next_informs`, `total_of_period`: one move, and all moves of a period.
  - `configurations_are_told_once`: how often in every run.
  - `open_file_is_shown`: an information on a file that is open.
-/

import LintServer.Proofs.BatchOrder
import LintServer.Proofs.Closing
import LintServer.Proofs.Tidings

namespace LintServer

def Happening.ending? : Happening → Option Session.Ending
  | .passed e => some e
  | _ => none

/-- Whether a pass ended for want of a configuration for an address. -/
def Happening.lacksFor (uri : String) (h : Happening) : Bool := h.ending?.any (·.lacksFor uri)

/-- Whether a pass ended with a failure that calls a configuration file broken. -/
def Happening.names (file : String) (h : Happening) : Bool := h.ending?.any (·.names file)

def Message.isWarning : Message → Bool
  | .logWarning _ => true
  | _ => false

namespace Moment

/-- What a move tells the editor. -/
def told (m : Moment) (mv : Move) : List Message :=
  m.server.session.toldSince (m.next mv).server.session

/-- How often a move tells that there is no configuration for an address. -/
def requests (uri : String) (m : Moment) (mv : Move) : Nat := (m.told mv).countP (·.lacks uri)

/-- How often a move warns of a file: what the end of a pass tells that calls it broken. -/
def warnings (file : String) (m : Moment) (mv : Move) : Nat :=
  if (m.noted mv).any (·.names file) then (m.told mv).countP Message.isWarning else 0

/-- A count over some moves. -/
def total (count : Moment → Move → Nat) (m : Moment) : List Move → Nat
  | [] => 0
  | mv :: rest => count m mv + (m.next mv).total count rest

/-- The documents that were told of are forgotten. -/
def resets (m : Moment) : Move → Bool
  | .task _ place => (m.inHand[place]?).any Session.Task.resets
  | _ => false

/-- A broken file that was told of is forgotten. -/
def mends (file : String) (m : Moment) (mv : Move) : Bool :=
  Table.has m.server.session.reported.broken file &&
    !Table.has (m.next mv).server.session.reported.broken file

/-- Whether there is no cut among some moves. -/
def uncut (cuts : Moment → Move → Bool) (m : Moment) : List Move → Bool
  | [] => true
  | mv :: rest => !cuts m mv && (m.next mv).uncut cuts rest

/-- Some moves of a run, from its start or from a cut on, without another cut. -/
structure Period (cuts : Moment → Move → Bool) (m : Moment) (before during : List Move) : Prop where
  begins : before = [] ∨
    ∃ first last, before = first ++ [last] ∧ cuts (m.after first) last = true
  uncut : (m.after before).uncut cuts during = true

/-! ## Documents have paths -/

/-- The documents that are open have paths, and so have those that passes are under way over. -/
structure Pathed (m : Moment) : Prop where
  documents : ∀ d ∈ m.server.session.documents.all, d.path.isOk = true
  snapshots : ∀ d ∈ m.snapshots, d.path.isOk = true

theorem pathed_put {ds : Documents} (h : ∀ d ∈ ds.all, d.path.isOk = true) (key : String)
    {d : Document} (hd : d.path.isOk = true) :
    ∀ e ∈ Documents.all (Table.put key d ds), e.path.isOk = true := by
  intro e he
  obtain ⟨entry, hm, rfl⟩ := List.mem_map.mp he
  rcases Table.mem_put hm with rfl | hm
  · exact hd
  · exact h _ (List.mem_map_of_mem hm)

/-- A document is opened only if it has a path, and keeps its address. -/
theorem documentsAfter_pathed {s : Server} (h : ∀ d ∈ s.session.documents.all, d.path.isOk = true)
    (x : Incoming) : ∀ d ∈ (s.documentsAfter x).all, d.path.isOk = true := by
  rcases s.documentsAfter_cases x with e | e | ⟨key, e⟩ | ⟨key, d, hp, e⟩
  · rwa [e]
  · rw [e]
    exact fun d hd => by cases hd
  · rw [e]
    intro d hd
    obtain ⟨entry, hm, rfl⟩ := List.mem_map.mp hd
    exact h _ (List.mem_map_of_mem (List.mem_of_mem_filter hm))
  · cases hp with
    | opened d =>
      simp only [Server.documentsAfter]
      split
      · rename_i path _ hd
        exact pathed_put h _ (by rw [hd]; rfl)
      · exact h
    | changed hold ht =>
      rw [e]
      exact pathed_put h _ (h _ (Server.mem_all_of_document? hold) : _)

variable {m : Moment}

theorem next_pathed {mv : Move} (allowed : m.Allowed Surroundings.Mute Server.StaysUp mv)
    (h : Pathed m) : Pathed (m.next mv) := by
  have moves : Moves anyOutcome m mv :=
    next_moves (fun _ _ _ _ _ _ => trivial) allowed fun _ _ _ _ _ => trivial
  have documents : ∀ d ∈ (m.documentsAfter mv).all, d.path.isOk = true := by
    cases mv with
    | message x =>
      simp only [documentsAfter]
      split
      · exact documentsAfter_pathed h.documents x
      · exact h.documents
    | _ => exact h.documents
  refine ⟨moves.documents ▸ documents, fun d hd => ?_⟩
  rcases moves.snapshots d hd with hd | hd
  · exact h.snapshots d hd
  · exact documents d hd

theorem pathed_after {moves : List Move}
    (allowed : m.AllAllowed Surroundings.Mute Server.StaysUp moves) (h : Pathed m) :
    Pathed (m.after moves) := by
  induction moves generalizing m with
  | nil => exact h
  | cons mv rest ih => exact ih allowed.2 (next_pathed allowed.1 h)

theorem pathed_fresh (config : Config) (exit : Exit) : Pathed (fresh config exit) :=
  ⟨fun d hd => (by cases hd), fun d hd => (by cases hd)⟩

/-! ## One move -/

/-- What a move tells of configurations, and what it remembers of that or forgets. -/
structure Informs (m : Moment) (mv : Move) : Prop where
  missing : m.resets mv = false → ∀ uri,
    Table.has (m.next mv).server.session.reported.noConfig uri =
      (Table.has m.server.session.reported.noConfig uri || (m.noted mv).any (·.lacksFor uri))
  reset : m.resets mv = true → ∀ uri,
    Table.has (m.next mv).server.session.reported.noConfig uri = false
  requests : ∀ uri, m.requests uri mv =
    if !Table.has m.server.session.reported.noConfig uri && (m.noted mv).any (·.lacksFor uri)
    then 1 else 0
  broken : ∀ file, (Uri.ofPath file).isOk = true → m.mends file mv = false →
    Table.has (m.next mv).server.session.reported.broken file =
      (Table.has m.server.session.reported.broken file || (m.noted mv).any (·.names file))
  warnings : ∀ file address, Uri.ofPath file = .ok address →
    (m.noted mv).any (·.names file) = true → ∃ text, (m.told mv).filter Message.isTiding =
      if Table.has m.server.session.reported.broken file then []
      else .logWarning text ::
        if (m.server.session.documents.get? address).isNone then [.showInfo text] else []
  still : (∀ uri, (m.noted mv).any (·.lacksFor uri) = false) →
    (∀ file, (m.noted mv).any (·.names file) = false) → (m.told mv).all Message.isStill = true

/-- A move that reports what is new of what it notes. -/
theorem Informs.of_reports {mv : Move} (hr : m.resets mv = false)
    (h : Session.Reports (fun uri => (m.noted mv).any (·.lacksFor uri))
      (fun file => (m.noted mv).any (·.names file)) m.server.session (m.next mv).server.session) :
    Informs m mv := by
  obtain ⟨es, hh, tidings⟩ := h
  have told : m.told mv = Effect.messages es := Session.toldSince_eq hh
  refine ⟨fun _ => tidings.missing, fun h => ?_, fun uri => ?_,
    fun file hf _ => tidings.broken file hf, ?_, ?_⟩
  · cases hr.symm.trans h
  · rw [Moment.requests, told]
    exact tidings.requests uri
  · rw [told]
    exact tidings.warnings
  · rw [told]
    exact tidings.still

/-- A move that notes nothing and only forgets. -/
theorem Informs.of_loosens {mv : Move} (hn : m.noted mv = [])
    (h : Session.Loosens
      (if m.resets mv then m.server.session.forgetNoConfig else m.server.session)
      (m.next mv).server.session) : Informs m mv := by
  obtain ⟨noConfig, broken, es, hh, still⟩ := h
  have told : m.told mv = Effect.messages es := by
    refine Session.toldSince_eq (hh.trans ?_)
    split <;> rfl
  refine ⟨fun hr uri => ?_, fun hr uri => ?_, fun uri => ?_, fun file _ hm => ?_,
    fun file _ _ hb => ?_, fun _ _ => told ▸ still⟩
  · rw [hn, List.any_nil, Bool.or_false, noConfig, hr]
    rfl
  · rw [noConfig, hr]
    rfl
  · rw [Moment.requests, told, Message.lacks_of_still still, hn, List.any_nil, Bool.and_false]
    rfl
  · rw [hn, List.any_nil, Bool.or_false]
    cases hb : Table.has m.server.session.reported.broken file with
    | true => simpa [mends, hb] using hm
    | false =>
      refine broken file ?_
      split <;> exact hb
  · rw [hn] at hb
    cases hb

theorem any_of_ending (f : Session.Ending → Bool) (e : Option Session.Ending) :
    ((e.map Happening.passed).toList).any (·.ending?.any f) = e.any f := by
  cases e with
  | none => rfl
  | some e => exact Bool.or_false _

theorem task_informs {env : Surroundings} (mute : env.Mute) (h : Pathed m) (place : Nat) :
    Informs m (.task env place) := by
  cases ht : m.inHand[place]? with
  | none =>
    have hs : m.next (.task env place) = m := by simp only [next, ht]
    have hn : m.noted (.task env place) = [] := by simp only [noted, ht]
    refine .of_reports (by simp [resets, ht]) ?_
    rw [hs, hn]
    exact (Session.Still.refl _).reports
  | some t =>
    have hs : m.next (.task env place) = _ := next_task ht
    have hn : m.noted (.task env place) =
        ((m.server.session.ending env t).map Happening.passed).toList := by
      simp only [noted, ht]
    have hreset : m.resets (.task env place) = t.resets := by simp [resets, ht]
    cases hr : t.reconsiders with
    | false =>
      refine .of_reports (hreset.trans (Session.Task.not_resets hr)) ?_
      rw [hs, hn]
      simp only [Happening.lacksFor, Happening.names, any_of_ending]
      refine Session.perform_reports mute hr (fun d hd => ?_) _
      exact h.snapshots d (mem_snapshots.mpr (.inr ⟨t, List.mem_of_getElem? ht, hd⟩))
    | true =>
      obtain ⟨none, loosens⟩ := Session.perform_loosens mute hr m.server.session
      refine .of_loosens (by rw [hn, none]; rfl) ?_
      rw [hreset, hs]
      exact loosens

/-- No pass ends with a message. -/
theorem any_of_message (f : Session.Ending → Bool) (x : Incoming) (m : Moment) :
    (m.noted (.message x)).any (·.ending?.any f) = false := by
  refine List.any_eq_false.mpr fun h hm hf => ?_
  cases h with
  | passed e => exact not_passed_of_message hm
  | _ => cases hf

theorem message_informs {x : Incoming} (hx : x.isShutdown = false) (m : Moment) :
    Informs m (.message x) := by
  refine .of_reports rfl ?_
  simp only [Happening.lacksFor, Happening.names, any_of_message]
  refine (next_still rfl fun y hy => ?_).reports
  injection hy with hy
  rwa [← hy]

/-- All that any move tells of configurations. -/
theorem next_informs {mv : Move} (allowed : m.Allowed Surroundings.Mute Server.StaysUp mv)
    (h : Pathed m) : Informs m mv := by
  cases mv with
  | task env place => exact task_informs allowed h place
  | message x => exact message_informs allowed m
  | take | runEnds place | found place | signal n | time seconds =>
    exact .of_reports rfl (next_still rfl fun y hy => by cases hy).reports

/-! ## All moves of a period -/

/-- What is remembered of a failure keeps it from being told twice. -/
theorem total_of_period (cuts : Moment → Move → Bool) (knows : Moment → Bool)
    (count : Moment → Move → Nat) (fails : Happening → Bool)
    (step : ∀ (m : Moment) (mv : Move), Informs m mv →
      (cuts m mv = false → knows (m.next mv) = (knows m || (m.noted mv).any fails)) ∧
        count m mv = if !knows m && (m.noted mv).any fails then 1 else 0)
    {during : List Move} (allowed : m.AllAllowed Surroundings.Mute Server.StaysUp during)
    (pathed : Pathed m) (uncut : m.uncut cuts during = true) :
    m.total count during = if !knows m && (m.story during).any fails then 1 else 0 := by
  induction during generalizing m with
  | nil => simp [total, story]
  | cons mv rest ih =>
    rw [Moment.uncut, Bool.and_eq_true, Bool.not_eq_true'] at uncut
    obtain ⟨keeps, counts⟩ := step m mv (next_informs allowed.1 pathed)
    have later := ih allowed.2 (next_pathed allowed.1 pathed) uncut.2
    rw [keeps uncut.1] at later
    rw [total, story, counts, later, List.any_append]
    cases knows m <;> cases (m.noted mv).any fails <;> simp

theorem requests_of_period {during : List Move} (uri : String)
    (allowed : m.AllAllowed Surroundings.Mute Server.StaysUp during) (pathed : Pathed m)
    (uncut : m.uncut resets during = true)
    (unknown : Table.has m.server.session.reported.noConfig uri = false) :
    m.total (requests uri) during =
      if (m.story during).any (·.lacksFor uri) then 1 else 0 := by
  have once := total_of_period resets
    (fun m => Table.has m.server.session.reported.noConfig uri) (requests uri) (·.lacksFor uri)
    (fun m mv informs => ⟨fun hc => informs.missing hc uri, informs.requests uri⟩)
    allowed pathed uncut
  rwa [unknown] at once

theorem countP_isWarning (told : List Message) : told.countP Message.isWarning =
    (told.filter Message.isTiding).countP Message.isWarning := by
  rw [List.countP_filter]
  refine List.countP_congr fun x _ => ?_
  cases x <;> simp [Message.isWarning, Message.isTiding]

theorem warnings_of_informs {mv : Move} {file address : String}
    (ha : Uri.ofPath file = .ok address) (informs : Informs m mv) : m.warnings file mv =
      if !Table.has m.server.session.reported.broken file && (m.noted mv).any (·.names file)
      then 1 else 0 := by
  unfold warnings
  cases hb : (m.noted mv).any (·.names file) with
  | false => simp
  | true =>
    obtain ⟨text, told⟩ := informs.warnings file address ha hb
    rw [countP_isWarning, told]
    cases Table.has m.server.session.reported.broken file <;>
      cases (m.server.session.documents.get? address).isNone <;> rfl

theorem warnings_of_period {during : List Move} {file address : String}
    (ha : Uri.ofPath file = .ok address)
    (allowed : m.AllAllowed Surroundings.Mute Server.StaysUp during) (pathed : Pathed m)
    (uncut : m.uncut (mends file) during = true)
    (unknown : Table.has m.server.session.reported.broken file = false) :
    m.total (warnings file) during = if (m.story during).any (·.names file) then 1 else 0 := by
  have once := total_of_period (mends file)
    (fun m => Table.has m.server.session.reported.broken file) (warnings file) (·.names file)
    (fun m mv informs => ⟨informs.broken file (by rw [ha]; rfl), warnings_of_informs ha informs⟩)
    allowed pathed uncut
  rwa [unknown] at once

/-! ## Every run -/

/-- How often the editor is told of configurations in some moves, which come after others. -/
structure Notified (m : Moment) (before during : List Move) : Prop where
  missing : m.Period resets before during → ∀ uri,
    (m.after before).total (requests uri) during =
      if ((m.after before).story during).any (·.lacksFor uri) then 1 else 0
  broken : ∀ file, (Uri.ofPath file).isOk = true → m.Period (mends file) before during →
    (m.after before).total (warnings file) during =
      if ((m.after before).story during).any (·.names file) then 1 else 0
  /-- With the warning of a file an information of the same text is shown, if no document is kept
  under its address. -/
  shown : ∀ mv rest, during = mv :: rest → ∀ file address, Uri.ofPath file = .ok address →
    ((m.after before).noted mv).any (·.names file) = true →
      ((m.after before).told mv).filter Message.isTiding = [] ∨
        ∃ text, ((m.after before).told mv).filter Message.isTiding = .logWarning text ::
          if ((m.after before).server.session.documents.get? address).isNone
          then [.showInfo text] else []
  /-- Nothing else tells of configurations. -/
  sources : ∀ mv rest, during = mv :: rest →
    ∀ x ∈ (m.after before).told mv, x.isStill = false →
      (∃ uri, ((m.after before).noted mv).any (·.lacksFor uri) = true) ∨
        ∃ file, ((m.after before).noted mv).any (·.names file) = true

variable {config : Config} {exit : Exit} {before during : List Move}

/-- Nothing is remembered when a server starts, nor after a cut. -/
theorem Period.unknown {cuts : Moment → Move → Bool}
    (h : (fresh config exit).Period cuts before during) (knows : Moment → Bool)
    (allowed : (fresh config exit).AllAllowed Surroundings.Mute Server.StaysUp before)
    (start : knows (fresh config exit) = false)
    (cut : ∀ (m : Moment) (mv : Move), Informs m mv → cuts m mv = true →
      knows (m.next mv) = false) :
    knows ((fresh config exit).after before) = false := by
  rcases h.begins with rfl | ⟨first, last, rfl, hc⟩
  · exact start
  · obtain ⟨earlier, here⟩ := allAllowed_append allowed
    rw [after_append]
    exact cut _ last (next_informs here.1 (pathed_after earlier (pathed_fresh config exit))) hc

/-- In every run without a shutdown, from one reset to the next the editor is told once that there
is no configuration for an address, if a pass fails for that, and never otherwise; and from one time
that a broken file is forgotten to the next it is warned once of the file, if a pass fails for that,
and never otherwise. -/
theorem configurations_are_told_once
    (allowed : (fresh config exit).AllAllowed Surroundings.Mute Server.StaysUp
      (before ++ during)) : Notified (fresh config exit) before during := by
  obtain ⟨earlier, now⟩ := allAllowed_append allowed
  have pathed := pathed_after earlier (pathed_fresh config exit)
  refine ⟨fun period uri => ?_, fun file hf period => ?_, ?_, ?_⟩
  · refine requests_of_period uri now pathed period.uncut ?_
    exact period.unknown (fun m => Table.has m.server.session.reported.noConfig uri) earlier rfl
      fun m mv informs hc => informs.reset hc uri
  · obtain ⟨address, ha⟩ : ∃ address, Uri.ofPath file = .ok address := by
      cases ha : Uri.ofPath file with
      | error f =>
        rw [ha] at hf
        cases hf
      | ok address => exact ⟨address, rfl⟩
    refine warnings_of_period ha now pathed period.uncut ?_
    refine period.unknown (fun m => Table.has m.server.session.reported.broken file) earlier rfl
      fun m mv _ hc => ?_
    rw [mends, Bool.and_eq_true, Bool.not_eq_true'] at hc
    exact hc.2
  · rintro mv rest rfl file address ha hb
    obtain ⟨text, told⟩ := (next_informs now.1 pathed).warnings file address ha hb
    rw [told]
    split
    · exact .inl rfl
    · exact .inr ⟨text, rfl⟩
  · rintro mv rest rfl x hx loud
    by_contra h
    rw [not_or, not_exists, not_exists] at h
    have still := (next_informs now.1 pathed).still (fun uri => by simpa using h.1 uri)
      fun file => by simpa using h.2 file
    rw [List.all_eq_true.mp still x hx] at loud
    cases loud

/-- A document whose runs fail with a broken file. -/
def breaking : Document := draft 1 "Cannot read config file: /@a\nError: x"

/-- A document whose runs fail for want of a configuration. -/
def unconfigured : Document := otherDraft "No ESLint configuration found."

/-- Two documents are opened and changed, and all four passes fail. -/
def failsTwice : List Move :=
  [.message (.setUp .null .null none none), .message (.didOpen breaking),
    .message (.didOpen unconfigured), .message (.didChange breaking.uri 2 [breaking.text]),
    .message (.didChange unconfigured.uri 2 [unconfigured.text]), .take, .task failingEngine 0, .task failingEngine 0,
    .task failingEngine 0, .task failingEngine 0, .task failingEngine 0, .task failingEngine 0,
    .runEnds 0, .runEnds 0, .runEnds 0, .runEnds 0, .take, .task failingEngine 0,
    .task failingEngine 0, .task failingEngine 0, .task failingEngine 0]

theorem failsTwice_allowed :
    (fresh {} {}).AllAllowed Surroundings.Mute Server.StaysUp failsTwice := by
  have mute : failingEngine.Mute := fun _ _ _ _ => rfl
  exact ⟨rfl, rfl, rfl, rfl, rfl, trivial, mute, mute, mute, mute, mute, mute, trivial, trivial,
    trivial, trivial, trivial, mute, mute, mute, mute, trivial⟩

theorem two_failures_are_told_once :
    ((fresh {} {}).story failsTwice).countP (·.lacksFor "file:///b.js") = 2 ∧
      (fresh {} {}).total (requests "file:///b.js") failsTwice = 1 ∧
      ((fresh {} {}).story failsTwice).countP (·.names "/@a") = 2 ∧
      (fresh {} {}).total (warnings "/@a") failsTwice = 1 := by
  have notified : Notified (fresh {} {}) [] failsTwice :=
    configurations_are_told_once failsTwice_allowed
  have failed : ∀ f : Happening → Bool, ((fresh {} {}).story failsTwice).countP f = 2 →
      ((fresh {} {}).story failsTwice).any f = true := by
    intro f hf
    exact List.any_eq_true.mpr (List.countP_pos_iff.mp (by omega))
  have lacking : ((fresh {} {}).story failsTwice).countP (·.lacksFor "file:///b.js") = 2 := by
    decide +kernel
  have naming : ((fresh {} {}).story failsTwice).countP (·.names "/@a") = 2 := by decide +kernel
  have missing := notified.missing ⟨.inl rfl, by decide +kernel⟩ "file:///b.js"
  have broken := notified.broken "/@a" (by decide +kernel) ⟨.inl rfl, by decide +kernel⟩
  exact ⟨lacking, missing.trans (if_pos (failed _ lacking)), naming,
    broken.trans (if_pos (failed _ naming))⟩

/-- The broken file is opened, and then a document whose run fails with it. -/
def opensBroken : List Move :=
  [.message (.setUp .null .null none none),
    .message (.didOpen { uri := "file:///%40a", language := "json" }),
    .message (.didOpen breaking), .take, .task failingEngine 0, .task failingEngine 0, .runEnds 0,
    .take]

/-- An information is not shown just if the broken file is not open: the address of its path is
escaped, and documents are kept under decoded addresses. -/
theorem open_file_is_shown :
    ¬ ∀ (config : Config) (exit : Exit) (before : List Move) (mv : Move) (file text : String),
      (fresh config exit).AllAllowed Surroundings.Mute Server.StaysUp (before ++ [mv]) →
        (((fresh config exit).after before).noted mv).any (·.names file) = true →
          .logWarning text ∈ ((fresh config exit).after before).told mv →
            (.showInfo text ∈ ((fresh config exit).after before).told mv ↔
              ¬ ∃ d ∈ ((fresh config exit).after before).server.session.documents.all,
                d.path = .ok file) := by
  intro h
  have mute : failingEngine.Mute := fun _ _ _ _ => rfl
  have told : ((fresh {} {}).after opensBroken).told (.task failingEngine 0) =
      [.logWarning "Cannot read config file: /@a Error: x",
        .showInfo "Cannot read config file: /@a Error: x", .status .warn] := rfl
  have shown := (h {} {} opensBroken (.task failingEngine 0) "/@a"
    "Cannot read config file: /@a Error: x"
    ⟨rfl, rfl, rfl, trivial, mute, mute, trivial, trivial, mute, trivial⟩ (by decide +kernel)
    (by rw [told]; simp)).mp (by rw [told]; simp)
  exact shown ⟨{ uri := "file:///%40a", language := "json" }, by decide +kernel, rfl⟩

end Moment

end LintServer
