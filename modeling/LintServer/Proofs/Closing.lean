/-
  LintServer.Proofs.Closing — what is left of a document that was closed.

  A document that is closed loses its entry and its fixes, and the editor is told that it has no
  diagnostics. From then on no pass over it can begin. But the passes that had begun are not
  cancelled: one that ends with a report brings fixes and diagnostics back.
  - `Clean`, `LateReport`: a document without either, and a report that came after the close.
  - `clean_next`, `begun_next`, `unlisted_next`: what a move does for a document without an entry.
  - `closed_stays_clean`: in every run, a document without an entry is clean unless a report on
    it came late.
  - `late_report_unclean`: that one can.
-/

import LintServer.Proofs.Moments
import LintServer.Proofs.VersionGuard
import Mathlib.Data.List.Induction

namespace LintServer

open Happening (latest)
open Session (Ending Work)

/-! ## What was published last -/

/-- The diagnostics that a message gives an address. -/
def Message.foundFor? (uri : String) : Message → Option (List Diagnostic)
  | .diagnostics other found => if other = uri then some found else none
  | _ => none

/-- The diagnostics that were last told for an address. -/
def Effect.published? (uri : String) (es : List Effect) : Option (List Diagnostic) :=
  ((Effect.messages es).filterMap (Message.foundFor? uri)).getLast?

theorem Effect.published?_append (uri : String) (es fs : List Effect) :
    published? uri (es ++ fs) = (published? uri fs).or (published? uri es) := by
  rw [published?, Effect.messages_append, List.filterMap_append, List.getLast?_append]
  rfl

theorem Effect.mem_of_published? {uri : String} {es : List Effect} {found : List Diagnostic}
    (h : published? uri es = some found) : .diagnostics uri found ∈ messages es := by
  obtain ⟨m, hm, hf⟩ := List.mem_filterMap.mp (List.mem_of_getLast? h)
  cases m with
  | diagnostics other f =>
    simp only [Message.foundFor?] at hf
    split at hf
    · rename_i hu
      injection hf with hf
      rw [← hu, ← hf]
      exact hm
    · cases hf
  | _ => cases hf

theorem Effect.published?_ne_none {uri : String} {es : List Effect} {found : List Diagnostic}
    (h : .diagnostics uri found ∈ messages es) : published? uri es ≠ none := by
  intro hn
  have hm : found ∈ (messages es).filterMap (Message.foundFor? uri) :=
    List.mem_filterMap.mpr ⟨_, h, by simp [Message.foundFor?]⟩
  rw [List.getLast?_eq_none_iff.mp hn] at hm
  cases hm

namespace Moment

/-- A document has no fixes, and the editor was last told that it has no diagnostics, or was
never told of any. -/
structure Clean (uri : String) (m : Moment) : Prop where
  fixes : m.registry.lookup uri = none
  published : ∀ found, Effect.published? uri m.server.session.history = some found → found = []

/-- A report on a document ended a pass in the course of some happenings. -/
def ReportedOn (uri : String) (log : List Happening) (d : Document) : Prop :=
  d.uri = uri ∧ ∃ report, .passed ⟨d, .ok report⟩ ∈ log

/-- The moment after some moves and then the close of a document. -/
def closedAfter (uri : String) (m : Moment) (before : List Move) : Moment :=
  (m.after before).next (.message (.didClose uri))

/-- The entry of a document went with its close, after some moves, and since then it was not
taken away again. -/
structure Dropped (uri : String) (m : Moment) (moves before since : List Move) : Prop where
  run : moves = before ++ .message (.didClose uri) :: since
  gone : .forgotten uri ∈ (m.after before).noted (.message (.didClose uri))
  last : .forgotten uri ∉ (m.closedAfter uri before).story since

/-- When the entry of a document was last taken away, a pass over it was under way that has ended
since, with a report. -/
def LateReport (uri : String) (m : Moment) (moves : List Move) : Prop :=
  ∃ before since, Dropped uri m moves before since ∧
    ∃ d ∈ (m.closedAfter uri before).snapshots,
      ReportedOn uri ((m.closedAfter uri before).story since) d

variable {m : Moment} {uri : String}

theorem after_append (m : Moment) (before since : List Move) :
    m.after (before ++ since) = (m.after before).after since := List.foldl_append

theorem story_append (m : Moment) (before since : List Move) :
    m.story (before ++ since) = m.story before ++ (m.after before).story since := by
  induction before generalizing m with
  | nil => rfl
  | cons mv rest ih =>
    rw [List.cons_append, story, ih, story, List.append_assoc]
    rfl

theorem allAllowed_append {world : Surroundings → Prop} {client : Server → Incoming → Prop}
    {before since : List Move} (h : m.AllAllowed world client (before ++ since)) :
    m.AllAllowed world client before ∧ (m.after before).AllAllowed world client since := by
  induction before generalizing m with
  | nil => exact ⟨trivial, h⟩
  | cons mv rest ih =>
    obtain ⟨h1, h2⟩ := ih h.2
    exact ⟨⟨h.1, h1⟩, h2⟩

/-- A pass that has begun is over one of the snapshots under way. -/
theorem mem_snapshots_of_begun {p : Session.Pass} (h : m.HasBegun p) :
    p.document ∈ m.snapshots := by
  have waiter : ∀ w : Session.Waiter, w.work.begun? = some p → p.document ∈ w.snapshots := by
    intro w hw
    cases w with
    | lookUp call => cases hw
    | pass q =>
      cases hw
      exact List.mem_cons_self
  have purpose : ∀ u : Session.Purpose, u.work.begun? = some p → p.document ∈ u.snapshots := by
    intro u hu
    cases u with
    | pass q engine =>
      cases hu
      exact List.mem_cons_self
    | probe call file => cases hu
    | reconsider call file rest => cases hu
  have task : ∀ t : Session.Task, ∀ k, t.work = some k → k.begun? = some p →
      p.document ∈ t.snapshots := by
    intro t k ht hk
    cases t with
    | relay n w | wake n w =>
      injection ht with ht
      exact waiter w (ht ▸ hk)
    | ended r =>
      injection ht with ht
      exact purpose r.purpose (ht ▸ hk)
    | _ => cases ht <;> cases hk
  obtain ⟨k, h, hk⟩ := h
  simp only [work, Session.work, Multiset.mem_add, Multiset.mem_coe, List.mem_map,
    List.mem_filterMap] at h
  rcases h with ((⟨w, hw, rfl⟩ | ⟨r, hr, rfl⟩) | ⟨t, ht, he⟩) | ⟨t, ht, he⟩
  · exact mem_snapshots.mpr (.inl (Session.mem_snapshots.mpr (.inl ⟨w, hw, waiter w.2 hk⟩)))
  · exact mem_snapshots.mpr
      (.inl (Session.mem_snapshots.mpr (.inr (.inl ⟨r, hr, purpose r.purpose hk⟩))))
  · exact mem_snapshots.mpr
      (.inl (Session.mem_snapshots.mpr (.inr (.inr ⟨t, ht, task t k he hk⟩))))
  · exact mem_snapshots.mpr (.inr ⟨t, ht, task t k he hk⟩)

/-! ## One move -/

/-- Passes over a document that have begun are over snapshots in `U`. -/
def Begun (uri : String) (U : Document → Prop) (m : Moment) : Prop :=
  ∀ p, m.HasBegun p → p.document.uri = uri → U p.document

/-- A move that ends no pass over a document with a report leaves it clean, if it was so or loses
its entry now. -/
theorem clean_next {mv : Move} (allowed : m.Allowed Surroundings.Mute Server.StaysUp mv)
    (h : Clean uri m ∨ .forgotten uri ∈ m.noted mv)
    (hn : ∀ d, ¬ ReportedOn uri (m.noted mv) d) : Clean uri (m.next mv) := by
  refine ⟨?_, fun found hp => ?_⟩
  · rw [registry_next allowed, Happening.lookup_replay]
    cases hl : latest uri (m.noted mv) with
    | none =>
      refine (h.resolve_right fun hf => ?_).fixes
      have hm : .forgotten uri ∈ (m.noted mv).filter (Happening.touches uri) :=
        List.mem_filter.mpr ⟨hf, by simp [Happening.touches]⟩
      rw [List.getLast?_eq_none_iff.mp hl] at hm
      cases hm
    | some x =>
      obtain ⟨hx, ht⟩ := Happening.mem_of_latest hl
      cases x with
      | passed e =>
        obtain ⟨d, outcome⟩ := e
        cases outcome with
        | error f => rfl
        | ok report => exact absurd ⟨eq_of_beq ht, report, hx⟩ (hn d)
      | forgotten closed => rfl
      | down => rfl
      | shut key under => rfl
  · obtain ⟨es, he, hes, hf⟩ := (next_carries allowed).told
    rw [he, Effect.published?_append] at hp
    cases hl : Effect.published? uri es with
    | none =>
      rw [hl, Option.none_or] at hp
      exact (h.resolve_right fun hm => Effect.published?_ne_none (hf uri hm) hl).published found hp
    | some last =>
      rw [hl] at hp
      injection hp with hp
      subst hp
      rcases hes uri last (Effect.mem_of_published? hl) with h | ⟨d, report, hm, hd⟩
      · exact h
      · exact absurd ⟨hd, report, hm⟩ (hn d)

/-- Over a document that has no entry no pass begins, and a report on it ends one that had
begun. -/
theorem begun_next {mv : Move} (allowed : m.Allowed Surroundings.Mute Server.StaysUp mv)
    (hl : m.server.session.library.has uri = false) {U : Document → Prop} (hU : Begun uri U m) :
    Begun uri U (m.next mv) ∧ ∀ d, ReportedOn uri (m.noted mv) d → U d := by
  have carries := next_carries allowed
  refine ⟨fun p hp hd => ?_, ?_⟩
  · rcases carries.begun p hp with hp | hp
    · exact hU p hp hd
    · rw [hd, hl] at hp
      cases hp
  · rintro d ⟨hd, report, hm⟩
    rcases carries.passed _ hm with ⟨p, hp, he⟩ | hh
    · have hpd : p.document = d := he
      exact hpd ▸ hU p hp (hpd ▸ hd)
    · rw [show (Ending.mk d (.ok report)).document.uri = uri from hd, hl] at hh
      cases hh

/-- An entry goes only with the close of its document. -/
theorem close_of_forgotten {mv : Move} (hf : .forgotten uri ∈ m.noted mv) :
    mv = .message (.didClose uri) := by
  cases mv with
  | message x =>
    simp only [noted] at hf
    split at hf
    · rcases List.mem_append.mp hf with hf | hf
      · cases x with
        | didClose closed =>
          simp only [Server.forgets] at hf
          split at hf
          · injection List.mem_singleton.mp hf with hf
            rw [hf]
          · cases hf
        | shutdown id => cases List.mem_singleton.mp hf
        | _ => cases hf
      · obtain ⟨key, -, hk⟩ := List.mem_map.mp hf
        cases hk
    · cases hf
  | task env place =>
    simp only [noted] at hf
    split at hf
    · cases hf
    · rw [Option.mem_toList, Option.map_eq_some_iff] at hf
      obtain ⟨e, -, he⟩ := hf
      cases he
  | _ => cases hf

/-! ## Every run -/

/-- What is known of a document without an entry: that no pass over it has begun and it is clean,
or that those under way are over snapshots that were so when it was last closed, and it is clean
unless one of them has ended with a report. -/
inductive Unlisted (uri : String) (m : Moment) (moves : List Move) : Prop
  | untracked (begun : Begun uri (fun _ => False) (m.after moves))
      (clean : Clean uri (m.after moves))
  | dropped (before since : List Move) (drop : Dropped uri m moves before since)
      (begun : Begun uri (· ∈ (m.closedAfter uri before).snapshots) (m.after moves))
      (clean : Clean uri (m.after moves) ∨ ∃ d ∈ (m.closedAfter uri before).snapshots,
        ReportedOn uri ((m.closedAfter uri before).story since) d)

theorem ReportedOn.append {log : List Happening} {d : Document} (h : ReportedOn uri log d)
    (more : List Happening) : ReportedOn uri (log ++ more) d :=
  ⟨h.1, h.2.imp fun _ hm => List.mem_append_left more hm⟩

theorem Dropped.after_eq {moves before since : List Move} (h : Dropped uri m moves before since) :
    (m.closedAfter uri before).after since = m.after moves := by
  rw [h.run, after_append]
  rfl

theorem Dropped.story_next {moves before since : List Move} (h : Dropped uri m moves before since)
    (mv : Move) : (m.closedAfter uri before).story (since ++ [mv]) =
      (m.closedAfter uri before).story since ++ (m.after moves).noted mv := by
  rw [story_append, h.after_eq]
  simp only [story, List.append_nil]

theorem Dropped.next {moves before since : List Move} (h : Dropped uri m moves before since)
    {mv : Move} (hf : .forgotten uri ∉ (m.after moves).noted mv) :
    Dropped uri m (moves ++ [mv]) before (since ++ [mv]) := by
  refine ⟨by rw [h.run]; simp, h.gone, ?_⟩
  rw [h.story_next]
  intro hm
  rcases List.mem_append.mp hm with hm | hm
  · exact h.last hm
  · exact hf hm

/-- A move keeps what is known of a document that has no entry after it. -/
theorem unlisted_next {moves : List Move} {mv : Move}
    (allowed : (m.after moves).Allowed Surroundings.Mute Server.StaysUp mv)
    (hu : ((m.after moves).next mv).server.session.library.has uri = false)
    (h : (m.after moves).server.session.library.has uri = false → Unlisted uri m moves) :
    Unlisted uri m (moves ++ [mv]) := by
  have ha : m.after (moves ++ [mv]) = (m.after moves).next mv := after_append m moves [mv]
  by_cases hf : .forgotten uri ∈ (m.after moves).noted mv
  · -- the entry goes now, and whatever has begun is under way at this close
    have hmv := close_of_forgotten hf
    subst hmv
    refine .dropped moves [] ⟨rfl, hf, fun h => by cases h⟩ ?_ (.inl ?_) <;> rw [ha]
    · exact fun p hp _ => mem_snapshots_of_begun hp
    · refine clean_next allowed (.inr hf) ?_
      rintro d ⟨-, report, hm⟩
      exact not_passed_of_message hm
  · have hl := ((next_carries allowed).listed uri hu).resolve_right hf
    cases h hl with
    | untracked begun clean =>
      obtain ⟨begun', reports⟩ := begun_next allowed hl begun
      exact .untracked (ha ▸ begun') (ha ▸ clean_next allowed (.inl clean) reports)
    | dropped before since drop begun clean =>
      obtain ⟨begun', reports⟩ := begun_next allowed hl begun
      refine .dropped before (since ++ [mv]) (drop.next hf) (ha ▸ begun') ?_
      rw [drop.story_next, ha]
      rcases clean with clean | ⟨d, hd, late⟩
      · by_cases hr : ∃ d, ReportedOn uri ((m.after moves).noted mv) d
        · obtain ⟨d, late⟩ := hr
          refine .inr ⟨d, reports d late, late.1, late.2.imp fun _ hm => ?_⟩
          exact List.mem_append_right _ hm
        · exact .inl (clean_next allowed (.inl clean) fun d hd => hr ⟨d, hd⟩)
      · exact .inr ⟨d, hd, late.append _⟩

/-- A server as it is before anything has happened. -/
def fresh (config : Config) (exit : Exit) : Moment :=
  { server := { Server.ofConfig config with exit } }

theorem unlisted {config : Config} {exit : Exit} {moves : List Move}
    (allowed : (fresh config exit).AllAllowed Surroundings.Mute Server.StaysUp moves)
    (hu : ((fresh config exit).after moves).server.session.library.has uri = false) :
    Unlisted uri (fresh config exit) moves := by
  induction moves using List.reverseRecOn with
  | nil =>
    refine .untracked ?_ ⟨rfl, fun found hf => by cases hf⟩
    rintro p ⟨k, hk, -⟩
    simp [fresh, after, work, Session.work, Server.ofConfig] at hk
  | append_singleton moves mv ih =>
    obtain ⟨before, here⟩ := allAllowed_append allowed
    rw [after_append] at hu
    exact unlisted_next here.1 hu (ih before)

/-- In every run without a shutdown, an address without an entry has no fixes, and what was last
published for it was empty, unless a pass over it that was under way when its entry last went has
ended since with a report. -/
theorem closed_stays_clean {config : Config} {exit : Exit} {moves : List Move}
    (allowed : (fresh config exit).AllAllowed Surroundings.Mute Server.StaysUp moves)
    (hu : ((fresh config exit).after moves).server.session.library.has uri = false) :
    Clean uri ((fresh config exit).after moves) ∨ LateReport uri (fresh config exit) moves := by
  cases unlisted allowed hu with
  | untracked begun clean => exact .inl clean
  | dropped before since drop begun clean =>
    exact clean.imp_right fun late => ⟨before, since, drop, late⟩

/-- A document is closed while a pass over it is under way, which ends after that. -/
def closedEarly : List Move :=
  [.message (.setUp .null .null none none), .message (.didOpen (draft 1 "a")), .take,
    .task slowEngine 0, .task slowEngine 0, .message (.didClose "file:///a.js"), .runEnds 0, .take,
    .task slowEngine 0]

theorem closedEarly_allowed :
    (fresh {} {}).AllAllowed Surroundings.Mute Server.StaysUp closedEarly :=
  ⟨rfl, rfl, trivial, slowEngine_mute, slowEngine_mute, rfl, trivial, trivial, slowEngine_mute,
    trivial⟩

theorem closedEarly_reports_late :
    ((fresh {} {}).after closedEarly).server.session.library.has "file:///a.js" = false ∧
      LateReport "file:///a.js" (fresh {} {}) closedEarly := by
  have hu : ((fresh {} {}).after closedEarly).server.session.library.has "file:///a.js" =
      false := rfl
  refine ⟨hu, (closed_stays_clean closedEarly_allowed hu).resolve_left fun clean => ?_⟩
  cases clean.fixes

/-- A closed document does not always stay clean: it gets fixes and diagnostics again. -/
theorem late_report_unclean :
    ¬ ∀ (config : Config) (exit : Exit) (moves : List Move) (uri : String),
      (fresh config exit).AllAllowed Surroundings.Mute Server.StaysUp moves →
        ((fresh config exit).after moves).server.session.library.has uri = false →
          ((fresh config exit).after moves).registry.lookup uri = none ∨
            ∀ found, Effect.published? uri
              ((fresh config exit).after moves).server.session.history = some found →
                found = [] := by
  intro h
  rcases h {} {} closedEarly "file:///a.js" closedEarly_allowed rfl with hf | hp
  · cases hf
  · cases hp _ rfl

end Moment

end LintServer
