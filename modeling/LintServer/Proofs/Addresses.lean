/-
  LintServer.Proofs.Addresses — what is said of addresses and paths that are none.

  An address is refused for its authority, in one line of text. A message of one line names no
  broken configuration file, for in every such message the path and what is wrong stand on lines
  of their own. So a document without a path fails in a way that no classifier knows.
  - `Uri.toPath_refused`: how an address is refused.
  - `Uri.ofPath_refused`: a path without an address is refused for good, and not cancelled.
  - `ConfigMessage.file?_of_oneLine`: no file is named on one line.
-/

import Mathlib.Data.List.TakeDrop
import Mathlib.Data.List.TakeWhile
import LintServer.Uri
import LintServer.Validation.ConfigMessage

namespace LintServer

/-! ## Texts of one line -/

namespace Text

theorem hexDigit_ne_newline : ∀ n < 16, hexDigit n ≠ '\n' := by decide

theorem newline_notMem_hex (width n : Nat) : '\n' ∉ hex width n := by
  induction width generalizing n with
  | zero => simp [hex]
  | succ width ih =>
    have hd := hexDigit_ne_newline (n % 16) (Nat.mod_lt n (by decide))
    simp [hex, ih, hd.symm]

theorem newline_notMem_quotedChar {quote : Char} (hq : quote ≠ '\n') (c : Char) :
    '\n' ∉ quotedChar quote c := by
  by_cases hc : c = '\n'
  · subst hc
    simp [quotedChar, hq.symm]
  · have hc' : ¬ '\n' = c := fun e => hc e.symm
    simp only [quotedChar]
    repeat' split
    all_goals simp [hc', newline_notMem_hex]

theorem newline_notMem_quotedPoint {quote : Char} (hq : quote ≠ '\n') (p : Point) :
    '\n' ∉ quotedPoint quote p := by
  cases p with
  | char c => exact newline_notMem_quotedChar hq c
  | half i => simp [quotedPoint, newline_notMem_hex]

/-- Between quotes there are no line ends. -/
theorem newline_notMem_quoted (s : String) : '\n' ∉ (quoted s).toList := by
  have hq : quoteFor s.toList ≠ '\n' := by
    unfold quoteFor
    split <;> decide
  have hp := fun p => newline_notMem_quotedPoint hq p
  simp [quoted, hq.symm, hp]

theorem eq_append_of_after? {lead cs rest : List Char} (h : after? lead cs = some rest) :
    cs = lead ++ rest := by
  induction lead generalizing cs with
  | nil =>
    injection h
  | cons l lead ih =>
    cases cs with
    | nil => cases h
    | cons c cs =>
      rw [after?] at h
      split at h
      · rename_i e
        rw [e, ih h, List.cons_append]
      · cases h

theorem bne_of_notMem {d : Char} {cs : List Char} (h : d ∉ cs) : ∀ c ∈ cs, (c != d) = true :=
  fun _ hc => bne_iff_ne.mpr (ne_of_mem_of_not_mem hc h)

end Text

/-! ## Refused addresses -/

namespace Uri

/-- A failure that says in one line that a value is none of its kind. -/
def Refused (f : Failure) : Prop := ∃ why, f = .saying .badValue why ∧ '\n' ∉ why.toList

theorem refused_of_eq {α : Type} {why : String} {f : Failure} (hw : '\n' ∉ why.toList)
    (h : (refused why : Except Failure α) = .error f) : Refused f := by
  injection h with h
  exact ⟨why, h.symm, hw⟩

theorem checkHost_refused {host : List Char} {f : Failure} (h : checkHost host = .error f) :
    Refused f := by
  unfold checkHost at h
  split at h
  · split at h
    · cases h
    · exact refused_of_eq (by decide) h
  · split at h
    · exact refused_of_eq (by decide) h
    · split at h
      · cases h
      · refine refused_of_eq ?_ h
        have hq := Text.newline_notMem_quoted (String.ofList host)
        simp [String.toList_append, hq]

theorem checkBracketed_refused {authority : List Char} {f : Failure}
    (h : checkBracketed authority = .error f) : Refused f := by
  simp only [checkBracketed] at h
  split at h
  · split at h
    · exact refused_of_eq (by decide) h
    · split at h
      · split at h
        · exact checkHost_refused h
        · exact refused_of_eq (by decide) h
      · exact checkHost_refused h
  · exact checkHost_refused h

theorem checkAuthority_refused {cs : List Char} (hcs : '\n' ∉ cs) {f : Failure}
    (h : checkAuthority cs = .error f) : Refused f := by
  unfold checkAuthority at h
  by_cases hb : (cs.contains '[' != cs.contains ']') = true
  · rw [if_pos hb] at h
    exact refused_of_eq (by decide) h
  · rw [if_neg hb] at h
    have last : ∀ {u : Unit}, (if (cs.any fun c => disguised.contains c.toNat) = true then
        refused ("netloc '" ++ String.ofList cs ++
          "' contains invalid characters under NFKC normalization") else pure u) = .error f →
        Refused f := by
      intro u hl
      split at hl
      · exact refused_of_eq (by simp [String.toList_append, hcs]) hl
      · cases hl
    by_cases ho : cs.contains '[' = true
    · rw [if_pos ho] at h
      cases hc : checkBracketed cs with
      | error g =>
        rw [hc] at h
        injection h with h
        exact checkBracketed_refused (h ▸ hc)
      | ok u =>
        rw [hc] at h
        exact last h
    · rw [if_neg ho] at h
      exact last h

theorem splitHost_subset (cs : List Char) : ∀ c ∈ (splitHost cs).1, c ∈ cs := by
  intro c hc
  unfold splitHost at hc
  split at hc
  · rw [List.span_eq_takeWhile_dropWhile] at hc
    exact List.mem_cons_of_mem _ (List.mem_cons_of_mem _ (List.takeWhile_subset _ hc))
  · cases hc

theorem splitScheme_subset (cs : List Char) : ∀ c ∈ (splitScheme cs).2, c ∈ cs := by
  intro c hc
  unfold splitScheme at hc
  split at hc
  · rename_i hs
    split at hc
    · rw [List.span_eq_takeWhile_dropWhile] at hs
      injection hs with _ hs
      exact List.dropWhile_subset _ (hs ▸ List.mem_cons_of_mem _ hc)
    · exact hc
  · exact hc

theorem toPath_refused {uri : String} {f : Failure} (h : toPath uri = .error f) : Refused f := by
  let cs := (uri.toList.dropWhile (fun c => c.toNat ≤ 32)).filter
    fun c => c != '\t' && c != '\n' && c != '\r'
  let host := (splitHost (splitScheme cs).2).1
  have hhost : '\n' ∉ host := by
    intro hm
    have hc : '\n' ∈ cs := splitScheme_subset _ _ (splitHost_subset _ _ hm)
    simp [cs] at hc
  change (do let parts ← (do checkAuthority host; _); _) = _ at h
  cases ha : checkAuthority host with
  | error g =>
    rw [ha] at h
    injection h with h
    exact checkAuthority_refused hhost (h ▸ ha)
  | ok u =>
    rw [ha] at h
    cases h

theorem checkUtf8_refused {ps : List Point} {f : Failure}
    (h : Encoding.checkUtf8 ps = .error f) : f.isCancelled = false := by
  unfold Encoding.checkUtf8 at h
  split at h
  · injection h with h
    rw [← h]
    rfl
  · cases h

theorem escape_refused {cs : List Char} {f : Failure} (h : escape cs = .error f) :
    f.isCancelled = false := by
  simp only [escape] at h
  cases hc : Encoding.checkUtf8 (Text.pointsOf cs) with
  | error g =>
    rw [hc] at h
    injection h with h
    exact checkUtf8_refused (h ▸ hc)
  | ok u =>
    rw [hc] at h
    cases h

theorem ofPath_refused {path : String} {f : Failure} (h : ofPath path = .error f) :
    f.isCancelled = false := by
  unfold ofPath at h
  split at h
  · injection h with h
    rw [← h]
    rfl
  · rename_i host rest _
    have hpath : ∀ cs g, escapePath cs = .error g → g.isCancelled = false := by
      intro cs g hg
      unfold escapePath at hg
      split at hg
      · cases he : escape (cs.drop 3) with
        | error e =>
          rw [he] at hg
          injection hg with hg
          exact escape_refused (hg ▸ he)
        | ok _ =>
          rw [he] at hg
          cases hg
      · exact escape_refused hg
    cases hr : escapePath (smallDrive (withSlash rest)) with
    | error g =>
      rw [hr] at h
      injection h with h
      exact hpath _ _ (h ▸ hr)
    | ok body =>
      rw [hr] at h
      by_cases hb : (host.isEmpty && "//".toList.isPrefixOf body) = true
      · simp only [bind, Except.bind, if_pos hb] at h
        cases h
      · simp only [bind, Except.bind, if_neg hb] at h
        cases he : escape host with
        | error e =>
          rw [he] at h
          injection h with h
          exact escape_refused (h ▸ he)
        | ok _ =>
          rw [he] at h
          cases h

end Uri

/-! ## Messages of one line -/

namespace ConfigMessage

theorem afterLine?_of_oneLine {cs : List Char} (h : '\n' ∉ cs) : afterLine? cs = none := by
  have hd : cs.dropWhile (· != '\n') = [] := by
    rw [List.dropWhile_eq_nil_iff]
    intro c hc
    have hne : c ≠ '\n' := fun e => h (e ▸ hc)
    simpa using hne
  rw [afterLine?, hd]

theorem unreadable?_of_oneLine {cs : List Char} (h : '\n' ∉ cs) (count : Nat) :
    unreadable? cs count = none := by
  induction count with
  | zero => rfl
  | succ count ih =>
    have hd : '\n' ∉ cs.drop (count + 1) := fun hm => h (List.mem_of_mem_drop hm)
    simp only [unreadable?, afterLine?_of_oneLine hd, ih]

theorem unreadableFile?_of_oneLine {cs : List Char} (h : '\n' ∉ cs) :
    unreadableFile? cs = none := by
  unfold unreadableFile?
  cases ha : Text.after? "Cannot read config file:".toList cs with
  | none => rfl
  | some rest =>
    refine unreadable?_of_oneLine (fun hm => h ?_) _
    rw [Text.eq_append_of_after? ha]
    exact List.mem_append_right _ hm

theorem misconfigured?_of_oneLine {cs : List Char} (h : '\n' ∉ cs) : misconfigured? cs = none := by
  rw [misconfigured?, afterLine?_of_oneLine h]
  rfl

theorem missingModule?_of_oneLine {cs : List Char} (h : '\n' ∉ cs) :
    missingModule? cs = none := by
  unfold missingModule?
  cases ha : Text.after? "Cannot find module '".toList cs with
  | none => rfl
  | some name =>
    cases hr : Text.after? "'\nReferenced from:".toList (name.dropWhile (· != '\'')) with
    | none => simp only [bind, Option.bind, hr]
    | some rest =>
      -- what follows the name of the module would begin with a line end
      have hm : '\n' ∈ name.dropWhile (· != '\'') := by
        rw [Text.eq_append_of_after? hr]
        simp
      refine absurd ?_ h
      rw [Text.eq_append_of_after? ha]
      exact List.mem_append_right _ (List.dropWhile_subset _ hm)

theorem search_of_oneLine {at? : List Char → Option (List Char)}
    (hat : ∀ cs, '\n' ∉ cs → at? cs = none) {cs : List Char} (h : '\n' ∉ cs) :
    search at? cs = none := by
  induction cs with
  | nil => exact hat [] h
  | cons c cs ih =>
    rw [search, hat _ h]
    exact ih fun hm => h (List.mem_cons_of_mem c hm)

/-- A message of one line names no broken file. -/
theorem file?_of_oneLine {message : String} (h : '\n' ∉ message.toList) : file? message = none := by
  simp only [file?, search_of_oneLine (fun _ => unreadableFile?_of_oneLine) h,
    search_of_oneLine (fun _ => misconfigured?_of_oneLine) h,
    search_of_oneLine (fun _ => missingModule?_of_oneLine) h]
  rfl

end ConfigMessage

/-- A refusal names no broken file. -/
theorem ofFailure?_of_refused {f : Failure} (h : Uri.Refused f) :
    ConfigMessage.ofFailure? f = none := by
  obtain ⟨why, rfl, hw⟩ := h
  have hr : (Failure.saying .badValue why).raw = some why := rfl
  simp only [ConfigMessage.ofFailure?, hr, ConfigMessage.file?_of_oneLine hw]
  split <;> rfl

end LintServer
