/-
  LintServer.Proofs.Messages — what a message does to the documents, the fixes and the work.

  A message opens, changes or closes at most one document, or begins a workspace in which none
  is open. It takes fixes away when it closes a document that has an entry, and all of them when
  it shuts the server down; it never adds any. What it begins is a pass over a document as it is
  after the message.
  - `Server.documentsAfter`, `Server.forgets`: its effects on documents and on fixes.
  - `handle_leads`: all else a message does.
-/

import LintServer.Proofs.Passes
import LintServer.Server.Basic

namespace LintServer

open Session (Ending Leads Running Task)

/-- What bears on the fixes of a document, or on whether it is open. -/
inductive Happening where
  | passed (e : Ending)
  /-- A document that has an entry was closed. -/
  | forgotten (uri : String)
  | down
  /-- The document under a key is open no more, while passes over some snapshots are under way. -/
  | shut (key : String) (under : List Document)

/-- The fixes after something happened. -/
def Happening.applied (r : FixRegistry) : Happening → FixRegistry
  | .passed e => r.rebuilt e.document e.outcome
  | .forgotten uri => r.clear uri
  | .down => []
  | .shut .. => r

namespace Server

/-- What a message takes from the fixes. -/
def forgets (s : Server) : Incoming → List Happening
  | .didClose uri =>
    if s.session.isOpen && s.session.library.has uri then [.forgotten uri] else []
  | .shutdown _ => [.down]
  | _ => []

/-- The open documents after a message. -/
def documentsAfter (s : Server) : Incoming → Documents
  | .setUp _ _ rootPath rootUri =>
    match (do checkRoot rootPath rootUri; rootOf rootPath rootUri) with
    | .error _ => s.session.documents
    | .ok _ => []
  | .didOpen d =>
    match s.session.isOpen, d.path with
    | true, .ok _ => Table.put (keyOf d.uri) d s.session.documents
    | _, _ => s.session.documents
  | .didChange uri version texts =>
    match s.session.isOpen, s.document? (keyOf uri) with
    | true, some d =>
      if texts.isEmpty then s.session.documents
      else Table.put (keyOf uri) (changed version texts d) s.session.documents
    | _, _ => s.session.documents
  | .didClose uri =>
    if s.session.isOpen then s.session.documents.closed (keyOf uri) else s.session.documents
  | _ => s.session.documents

variable {Q : Document → Prop} {G : Text → Except Failure (Option Report) → Prop}

/-! ## Work that handlers begin -/

theorem begin_leads {goal : Session.Goal} (hg : ∀ d ∈ goal.snapshots, Q d) (s : Server) :
    Leads Q G s.session (s.begin goal).session := Session.enqueueOne_leads _ hg rfl

theorem ensure_leads (d : Document) (s : Session) : Leads Q G s (s.ensure d) := by
  unfold Session.ensure
  split
  · exact .refl s
  · have h : Leads Q G s { s with library := s.library.add d } := .of_eq rfl rfl rfl rfl rfl
    refine h.trans (Session.enqueueOne_leads _ ?_ rfl)
    intro e he
    cases he

theorem beginValidate_leads {d : Document} (hd : Q d) (s : Server) :
    Leads Q G s.session (s.begin (.validate d)).session := by
  refine begin_leads ?_ s
  intro e he
  rw [List.mem_singleton.mp he]
  exact hd

theorem validateOpened_leads (uri : String) (s : Server)
    (h : ∀ d, s.document? uri = some d → Q d) :
    Leads Q G s.session (s.validateOpened uri).session := by
  unfold validateOpened
  split
  · exact .refl _
  · rename_i d hd
    split
    · exact .refl _
    · simp only
      split
      · exact (ensure_leads d s.session).trans (beginValidate_leads (h d hd)
          { s with session := s.session.ensure d })
      · exact ensure_leads d s.session

theorem revalidate_leads (uri : String) (now : Bool) (s : Server)
    (h : ∀ d, s.document? uri = some d → Q d) :
    Leads Q G s.session (s.revalidate uri now).session := by
  unfold revalidate
  split
  · exact .refl _
  · rename_i d hd
    split
    · exact .refl _
    · exact beginValidate_leads (h d hd) s

theorem mem_all_of_document? {s : Server} {uri : String} {d : Document}
    (h : s.document? uri = some d) : d ∈ s.session.documents.all :=
  List.mem_map.mpr ⟨(uri, d), Table.mem_of_get? h, rfl⟩

/-! ## Messages -/

/-- A session in which a message has changed the documents and the fixes, and nothing else. -/
def changedBy (s : Server) (x : Incoming) : Session :=
  { s.session with
    documents := s.documentsAfter x
    registry := (s.forgets x).foldl Happening.applied s.session.registry }

theorem changedBy_leads {s : Server} {x : Incoming} {t : Session} (ds : Documents)
    (hd : s.documentsAfter x = ds) (hf : s.forgets x = [])
    (h : Leads Q G { s.session with documents := ds } t) : Leads Q G (s.changedBy x) t := by
  have hs : s.changedBy x = { s.session with documents := ds } := by
    rw [changedBy, hd, hf]
    rfl
  rw [hs]
  exact h

theorem reply_leads (id : Json) (result : Except Failure Json) (s : Server) :
    Leads Q G s.session (s.reply id result).session := by
  unfold reply
  split <;> exact Session.emit_leads _ _

theorem setUp_leads (id options : Json) (rootPath rootUri : Option String) (s : Server) :
    Leads Q G (s.changedBy (.setUp id options rootPath rootUri))
      (s.setUp id options rootPath rootUri).session := by
  cases hr : (do checkRoot rootPath rootUri; rootOf rootPath rootUri) with
  | error f =>
    refine changedBy_leads s.session.documents (by rw [documentsAfter, hr]) rfl ?_
    rw [setUp, hr]
    exact reply_leads id _ s
  | ok root =>
    refine changedBy_leads [] (by rw [documentsAfter, hr]) rfl ?_
    rw [setUp, hr]
    exact .of_eq rfl rfl rfl rfl rfl

theorem didOpen_leads (d : Document) (s : Server)
    (hQ : ∀ e ∈ (s.documentsAfter (.didOpen d)).all, Q e) :
    Leads Q G (s.changedBy (.didOpen d)) (s.whenOpen (didOpen d)).session := by
  cases ho : s.session.isOpen with
  | false =>
    refine changedBy_leads s.session.documents (by simp only [documentsAfter, ho]) rfl ?_
    rw [whenOpen, if_neg (by simp [ho])]
    exact Session.emit_leads _ s.session
  | true =>
    cases hp : d.path with
    | error f =>
      refine changedBy_leads s.session.documents (by simp only [documentsAfter, ho, hp]) rfl ?_
      rw [whenOpen, if_pos ho, didOpen, hp]
      exact Session.emit_leads _ s.session
    | ok path =>
      have hd : s.documentsAfter (.didOpen d) = Table.put (keyOf d.uri) d s.session.documents := by
        simp only [documentsAfter, ho, hp]
      rw [hd] at hQ
      refine changedBy_leads _ hd rfl ?_
      rw [whenOpen, if_pos ho, didOpen, hp]
      exact validateOpened_leads d.uri (s.keep (keyOf d.uri) d)
        fun e he => hQ e (mem_all_of_document? he)

theorem didChange_leads (uri : String) (version : Int) (texts : List Text) (s : Server)
    (hQ : ∀ e ∈ (s.documentsAfter (.didChange uri version texts)).all, Q e) :
    Leads Q G (s.changedBy (.didChange uri version texts))
      (s.whenOpen (didChange uri version texts)).session := by
  cases ho : s.session.isOpen with
  | false =>
    refine changedBy_leads s.session.documents (by simp only [documentsAfter, ho]) rfl ?_
    rw [whenOpen, if_neg (by simp [ho])]
    exact Session.emit_leads _ s.session
  | true =>
    rw [whenOpen, if_pos ho]
    simp only [didChange]
    cases ht : texts.isEmpty with
    | true =>
      have hd : s.documentsAfter (.didChange uri version texts) = s.session.documents := by
        simp only [documentsAfter, ht, if_true]
        split <;> rfl
      rw [hd] at hQ
      exact changedBy_leads _ hd rfl
        (revalidate_leads uri _ s fun e he => hQ e (mem_all_of_document? he))
    | false =>
      cases hk : s.document? (keyOf uri) with
      | none =>
        refine changedBy_leads s.session.documents (by simp only [documentsAfter, ho, hk]) rfl ?_
        exact Session.emit_leads _ s.session
      | some d =>
        have hd : s.documentsAfter (.didChange uri version texts) =
            Table.put (keyOf uri) (changed version texts d) s.session.documents := by
          simp [documentsAfter, ho, hk, ht]
        rw [hd] at hQ
        exact changedBy_leads _ hd rfl
          (revalidate_leads uri _ (s.keep (keyOf uri) (changed version texts d))
            fun e he => hQ e (mem_all_of_document? he))

theorem didSave_leads (uri : String) (s : Server) (hQ : ∀ e ∈ s.session.documents.all, Q e) :
    Leads Q G s.session (s.whenOpen (didSave uri)).session := by
  unfold whenOpen
  split
  · exact revalidate_leads uri _ s fun e he => hQ e (mem_all_of_document? he)
  · exact Session.emit_leads _ s.session

theorem didClose_leads (uri : String) (s : Server) :
    Leads Q G (s.changedBy (.didClose uri)) (s.whenOpen (didClose uri)).session := by
  cases ho : s.session.isOpen with
  | false =>
    refine changedBy_leads s.session.documents (by simp [documentsAfter, ho])
      (by simp [forgets, ho]) ?_
    rw [whenOpen, if_neg (by simp [ho])]
    exact Session.emit_leads _ s.session
  | true =>
    rw [whenOpen, if_pos ho]
    have hd : s.documentsAfter (.didClose uri) = s.session.documents.closed (keyOf uri) := by
      rw [documentsAfter, if_pos ho]
    cases hl : s.session.library.has uri with
    | false =>
      refine changedBy_leads _ hd (by simp [forgets, hl]) ?_
      simp only [didClose, hl]
      exact .refl _
    | true =>
      simp only [didClose, hl, if_true, changedBy, hd, forgets, Bool.and_true, ho]
      exact .of_eq rfl rfl rfl rfl rfl

theorem didChangeConfiguration_leads (settings : Json) (s : Server) :
    Leads Q G s.session (s.didChangeConfiguration settings).session := by
  have h : Leads Q G s.session { s.session with settings := .ofClient settings } :=
    .of_eq rfl rfl rfl rfl rfl
  simp only [didChangeConfiguration]
  split
  · refine h.trans (begin_leads ?_ { s with session.settings := .ofClient settings })
    intro d hd
    cases hd
  · exact h

/-- After a shutdown there is no work. -/
theorem shutdown_leads (id : Json) (s : Server) :
    Leads Q G (s.changedBy (.shutdown id)) (s.shutdown id).session := by
  refine ⟨rfl, rfl, ?_, ?_⟩
  · intro d hd
    cases hd
  · intro r hr
    cases hr

theorem response_leads (number : Nat) (failure : Option String) (s : Server) :
    Leads Q G s.session (s.response number failure).session := by
  unfold response
  split
  · exact .refl _
  · exact Session.emit_leads _ _

/-- What a message does besides changing the documents and the fixes. -/
theorem handle_leads (s : Server) (x : Incoming) (hQ : ∀ d ∈ (s.documentsAfter x).all, Q d) :
    Leads Q G (s.changedBy x) (s.handle x).session := by
  cases x with
  | setUp id options rootPath rootUri => exact setUp_leads id options rootPath rootUri s
  | initialized => exact Session.emit_leads _ _
  | didOpen d => exact didOpen_leads d s hQ
  | didChange uri version texts => exact didChange_leads uri version texts s hQ
  | didSave uri => exact didSave_leads uri s hQ
  | didClose uri => exact didClose_leads uri s
  | didChangeConfiguration settings => exact didChangeConfiguration_leads settings s
  | didChangeWatchedFiles uris =>
    refine begin_leads ?_ s
    intro d hd
    cases hd
  | codeAction id uri keys => exact reply_leads id _ s
  | allFixes id params => exact reply_leads id _ s
  | shutdown id => exact shutdown_leads id s
  | exit => exact (Session.emit_leads _ s.session).trans (Session.emit_leads _ _)
  | execute id command => exact reply_leads id _ s
  | unknown id method => exact Session.emit_leads _ _
  | response number failure => exact response_leads number failure s

end Server

end LintServer
