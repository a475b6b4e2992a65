/-
  LintServer.Proofs.Banners — a banner does not change what went wrong.

  The linter puts a banner and its version in front of the reason why it failed. Blanks behind the
  banner and behind the version's line go with them, and no more than one such line goes. So what is
  left is the reason, even if it looks like a version itself, as long as no line of it begins with a
  banner.
  - `trimChars_framed`: trimming takes blanks away, and nothing of what stands between them.
  - `withoutBanners_eq_self`: characters that have no banner at the beginning of a line stay.
  - `afterBanner?_versioned`: a banner, with a version and all blanks, goes at once.
  - `banner_changes_nothing`: a reason with a banner is told as the reason alone is.
-/

import LintServer.Engine.Failing
import LintServer.Proofs.BrokenFiles

namespace LintServer

namespace Text

/-! ## Blanks -/

/-- Blanks and nothing else. -/
def AllBlank (cs : List Char) : Prop := ∀ c ∈ cs, isBlank c = true

instance (cs : List Char) : Decidable (AllBlank cs) :=
  decidable_of_iff (cs.all isBlank = true) List.all_eq_true

/-- There is no blank at either end. -/
structure Bare (cs : List Char) : Prop where
  first : ∀ c ∈ cs.head?, isBlank c = false
  last : ∀ c ∈ cs.getLast?, isBlank c = false

theorem bare_iff (cs : List Char) :
    Bare cs ↔ cs.head?.all (!isBlank ·) = true ∧ cs.getLast?.all (!isBlank ·) = true := by
  simp only [Option.all_eq_true, Bool.not_eq_true']
  exact ⟨fun h => ⟨h.first, h.last⟩, fun h => ⟨h.1, h.2⟩⟩

instance (cs : List Char) : Decidable (Bare cs) := decidable_of_iff' _ (bare_iff cs)

theorem dropWhile_of_head {p : Char → Bool} {cs : List Char} (h : ∀ c ∈ cs.head?, p c = false) :
    cs.dropWhile p = cs := by
  cases cs with
  | nil => rfl
  | cons c cs => rw [List.dropWhile_cons_of_neg (by simp [h c rfl])]

theorem dropWhile_append_of_head {p : Char → Bool} {xs cs : List Char}
    (hx : ∀ c ∈ xs, p c = true) (h : ∀ c ∈ cs.head?, p c = false) :
    (xs ++ cs).dropWhile p = cs := by
  rw [List.dropWhile_append_of_pos hx, dropWhile_of_head h]

theorem head?_append_of_ne_nil {cs : List Char} (h : cs ≠ []) (rest : List Char) :
    (cs ++ rest).head? = cs.head? := by
  rw [List.head?_append, List.head?_eq_some_head h, Option.some_or]

/-- Trimming takes blanks away at both ends, and nothing of what stands between them. -/
theorem trimChars_framed {before cs behind : List Char} (hbefore : AllBlank before)
    (hbehind : AllBlank behind) (h : Bare cs) (hne : cs ≠ []) :
    trimChars (before ++ cs ++ behind) = cs := by
  have front : (before ++ cs ++ behind).dropWhile isBlank = cs ++ behind := by
    rw [List.append_assoc]
    exact dropWhile_append_of_head hbefore fun c hc =>
      h.first c (head?_append_of_ne_nil hne behind ▸ hc)
  have back : (behind.reverse ++ cs.reverse).dropWhile isBlank = cs.reverse := by
    refine dropWhile_append_of_head (fun c hc => hbehind c (List.mem_reverse.mp hc)) fun c hc => ?_
    rw [List.head?_reverse] at hc
    exact h.last c hc
  rw [trimChars, trimBy, front, List.reverse_append, back, List.reverse_reverse]

theorem trimChars_of_bare {cs : List Char} (h : Bare cs) (hne : cs ≠ []) : trimChars cs = cs := by
  have none_around : AllBlank [] := fun _ h => by cases h
  have framed := trimChars_framed none_around none_around h hne
  rwa [List.nil_append, List.append_nil] at framed

/-! ## Lines -/

/-- What leads the characters leads their first piece, if nothing in it separates pieces. -/
theorem exists_piece_of_prefix {sep : Char} {lead cs : List Char} (hlead : sep ∉ lead)
    (h : lead <+: cs) : ∃ first pieces, splitChars sep cs = first :: pieces ∧ lead <+: first := by
  induction lead generalizing cs with
  | nil =>
    obtain ⟨first, pieces, hp⟩ := List.exists_cons_of_ne_nil (splitChars_ne_nil sep cs)
    exact ⟨first, pieces, hp, List.nil_prefix⟩
  | cons l lead ih =>
    obtain ⟨rest, rfl⟩ := h
    rw [List.mem_cons, not_or] at hlead
    obtain ⟨first, pieces, hp, hl⟩ := ih hlead.2 (List.prefix_append lead rest)
    obtain ⟨first', pieces', hp', hs⟩ := splitChars_cons_of_ne (Ne.symm hlead.1) (lead ++ rest)
    rw [hp] at hp'
    cases hp'
    exact ⟨l :: first, pieces, hs, (List.prefix_cons_inj l).mpr hl⟩

end Text

namespace Engine

open Text (AllBlank Bare)

/-! ## Banners -/

theorem newline_notMem_banner : '\n' ∉ banner := by decide

theorem banner_ne_nil : banner ≠ [] := by decide

/-- No line begins with a banner; the characters may go on in a line that has begun before. -/
def Unbannered (atStart : Bool) (cs : List Char) : Prop :=
  ∀ line ∈ (Text.splitChars '\n' cs).drop (if atStart then 0 else 1), ¬ banner <+: line

theorem Unbannered.at_start {atStart : Bool} {cs : List Char} (h : Unbannered true cs) :
    Unbannered atStart cs := fun line hl => h line (List.mem_of_mem_drop hl)

theorem Unbannered.afterBanner?_eq_none {cs : List Char} (h : Unbannered true cs) :
    afterBanner? cs = none := by
  rw [afterBanner?, Option.map_eq_none_iff, Option.eq_none_iff_forall_ne_some]
  intro rest hr
  obtain ⟨first, pieces, hp, hb⟩ :=
    Text.exists_piece_of_prefix newline_notMem_banner ⟨rest, (Text.eq_append_of_after? hr).symm⟩
  exact h first (hp ▸ List.mem_cons_self) hb

theorem Unbannered.tail {atStart : Bool} {c : Char} {cs : List Char}
    (h : Unbannered atStart (c :: cs)) : Unbannered (c == '\n') cs := by
  intro line hl
  by_cases hc : c = '\n'
  · subst hc
    refine h line ?_
    rw [Text.splitChars_cons_self]
    cases atStart with
    | true => exact List.mem_cons_of_mem [] hl
    | false => exact hl
  · obtain ⟨first, pieces, hp, hs⟩ := Text.splitChars_cons_of_ne hc cs
    refine h line ?_
    simp only [beq_iff_eq, hc, if_false, hp, List.drop_succ_cons, List.drop_zero] at hl
    rw [hs]
    cases atStart with
    | true => exact List.mem_cons_of_mem _ hl
    | false => exact hl

/-- Characters that have no banner at the beginning of a line stay as they are. -/
theorem withoutBanners_eq_self (fuel : Nat) {atStart : Bool} {cs : List Char}
    (h : Unbannered atStart cs) : withoutBanners fuel atStart cs = cs := by
  induction fuel generalizing atStart cs with
  | zero => rfl
  | succ fuel ih =>
    cases cs with
    | nil => rfl
    | cons c cs =>
      have none_here : (if atStart then afterBanner? (c :: cs) else none) = none := by
        cases atStart with
        | true => exact h.afterBanner?_eq_none
        | false => rfl
      rw [withoutBanners, none_here]
      exact congrArg (c :: ·) (ih h.tail)

/-- A banner at the front goes, and what it leaves stays. -/
theorem withoutBanners_of_afterBanner? (fuel : Nat) {cs rest : List Char}
    (h : afterBanner? cs = some rest) (hrest : Unbannered true rest) :
    withoutBanners (fuel + 1) true cs = rest := by
  cases cs with
  | nil => cases h
  | cons c cs =>
    rw [withoutBanners]
    simp only [if_true, h]
    exact withoutBanners_eq_self fuel hrest.at_start

/-- A line with a version goes up to its end, and only that line. -/
theorem afterVersion_versioned {version ending : List Char} (hversion : '\n' ∉ version)
    (hending : '\n' ∈ ending) (hblank : AllBlank ending) :
    ∃ blanks, AllBlank blanks ∧ ∀ body,
      afterVersion (versionMark ++ (version ++ (ending ++ body))) = blanks ++ body := by
  obtain ⟨front, blanks, rfl, hfront⟩ := List.eq_append_cons_of_mem hending
  refine ⟨blanks, fun c hc => hblank c (by simp [hc]), fun body => ?_⟩
  have line : ∀ c ∈ version ++ front, (c != '\n') = true := by
    intro c hc
    rw [bne_iff_ne]
    rintro rfl
    exact (List.mem_append.mp hc).elim hversion hfront
  have ended : (version ++ (front ++ '\n' :: blanks ++ body)).dropWhile (· != '\n') =
      '\n' :: (blanks ++ body) := by
    rw [show version ++ (front ++ '\n' :: blanks ++ body) =
      (version ++ front) ++ '\n' :: (blanks ++ body) by simp]
    exact Text.dropWhile_append_of_head line fun c hc => by cases hc; rfl
  rw [afterVersion, Text.after?_append]
  simp only [ended]

/-- A banner goes with its version and with all blanks behind them. -/
theorem afterBanner?_versioned {gap version ending body : List Char} (hgap : AllBlank gap)
    (hversion : '\n' ∉ version) (hending : '\n' ∈ ending) (hblank : AllBlank ending)
    (hbody : Bare body) :
    afterBanner? (banner ++ (gap ++ (versionMark ++ (version ++ (ending ++ body))))) =
      some body := by
  obtain ⟨blanks, hblanks, hafter⟩ := afterVersion_versioned hversion hending hblank
  have opened : (gap ++ (versionMark ++ (version ++ (ending ++ body)))).dropWhile Text.isBlank =
      versionMark ++ (version ++ (ending ++ body)) :=
    Text.dropWhile_append_of_head hgap fun c hc => by cases hc; decide
  rw [afterBanner?, Text.after?_append, Option.map_some, opened, hafter,
    Text.dropWhile_append_of_head hblanks hbody.first]

/-! ## Reasons -/

/-- A text that says why the linter failed: there is something in it, no blank at either end, and
no line begins with a banner. -/
structure IsReason (text : String) : Prop where
  ne_nil : text.toList ≠ []
  bare : Bare text.toList
  lines : ∀ line ∈ Text.splitChars '\n' text.toList, ¬ banner <+: line

theorem IsReason.clean_eq {text : String} (h : IsReason text) : clean text = text := by
  have stays : withoutBanners (text.toList.length + 1) true text.toList = text.toList :=
    withoutBanners_eq_self _ h.lines
  simp only [clean, Text.trimChars_of_bare h.bare h.ne_nil, stays, String.ofList_toList]

/-- A text that begins with a banner begins with no blank. -/
theorem bare_bannered {rest : List Char} (h : Bare rest) (hne : rest ≠ []) (between : List Char) :
    Bare (banner ++ (between ++ rest)) where
  first c hc := by cases hc; decide
  last c hc := by
    rw [← List.append_assoc, List.getLast?_append_of_ne_nil _ hne] at hc
    exact h.last c hc

/-- A reason as the linter prints it: behind a banner and a version. -/
def bannered (before gap version ending reason behind : String) : String :=
  before ++ "Oops! Something went wrong! :(" ++ gap ++ "ESLint: " ++ version ++ ending ++ reason ++
    behind

theorem clean_bannered {before gap version ending reason behind : String}
    (hbefore : AllBlank before.toList) (hgap : AllBlank gap.toList)
    (hversion : '\n' ∉ version.toList) (hending : '\n' ∈ ending.toList)
    (hblank : AllBlank ending.toList) (hbehind : AllBlank behind.toList) (h : IsReason reason) :
    clean (bannered before gap version ending reason behind) = reason := by
  let between := gap.toList ++ (versionMark ++ (version.toList ++ ending.toList))
  have parts : (bannered before gap version ending reason behind).toList =
      before.toList ++ (banner ++ (between ++ reason.toList)) ++ behind.toList := by
    have hb : "Oops! Something went wrong! :(".toList = banner := rfl
    have hv : "ESLint: ".toList = versionMark := rfl
    simp only [bannered, between, String.toList_append, hb, hv, List.append_assoc]
  have ne_nil : banner ++ (between ++ reason.toList) ≠ [] := by simp [banner_ne_nil]
  have trimmed := Text.trimChars_framed hbefore hbehind (bare_bannered h.bare h.ne_nil between)
    ne_nil
  have after : afterBanner? (banner ++ (between ++ reason.toList)) = some reason.toList := by
    have versioned := afterBanner?_versioned hgap hversion hending hblank h.bare
    simpa only [between, List.append_assoc] using versioned
  simp only [clean, parts, trimmed, withoutBanners_of_afterBanner? _ after h.lines,
    Text.trimChars_of_bare h.bare h.ne_nil, String.ofList_toList]

/-! ## Failures -/

/-- A reason that says that a configuration is missing. -/
def LacksConfig (text : String) : Prop := ∃ mark ∈ noConfigMarks, mark.toList <:+: text.toList

theorem any_occursIn_iff (text : String) :
    noConfigMarks.any (fun mark => Text.occursIn mark.toList text.toList) = true ↔
      LacksConfig text := by
  simp only [List.any_eq_true, Text.occursIn_iff, LacksConfig]

theorem IsReason.failureOf_noConfig {text : String} (h : IsReason text) (hc : LacksConfig text) :
    failureOf text = .noConfig text := by
  simp only [failureOf, h.clean_eq]
  exact if_pos ((any_occursIn_iff text).mpr hc)

theorem IsReason.failureOf_lint {text : String} (h : IsReason text) (hc : ¬ LacksConfig text) :
    failureOf text = .lint text := by
  simp only [failureOf, h.clean_eq]
  exact if_neg (mt (any_occursIn_iff text).mp hc)

/-- A failure that says nothing but the text for a missing configuration is one. -/
theorem isNoConfig_lint_iff (text : String) :
    (Failure.lint text).isNoConfig = true ↔ text = Failure.noConfigMessage := by
  simp [Failure.isNoConfig, Failure.lint, Failure.lintWith, Failure.raw]

/-- The failure that the linter prints is that of the reason alone, whatever the version, and
whatever blanks stand around the parts. It is told by the reason. It is a missing configuration just
if the reason has a mark of one in it, and that is also what the classifiers go by. -/
theorem banner_changes_nothing {before gap version ending reason behind : String}
    (hbefore : AllBlank before.toList) (hgap : AllBlank gap.toList)
    (hversion : '\n' ∉ version.toList) (hending : '\n' ∈ ending.toList)
    (hblank : AllBlank ending.toList) (hbehind : AllBlank behind.toList) (h : IsReason reason) :
    failureOf (bannered before gap version ending reason behind) = failureOf reason ∧
    (failureOf reason).message = some (.str reason) ∧
    (failureOf reason).isLint = true ∧
    ((failureOf reason).kind = .noConfig ↔ LacksConfig reason) ∧
    ((failureOf reason).isNoConfig = true ↔ LacksConfig reason) := by
  have same : failureOf (bannered before gap version ending reason behind) = failureOf reason := by
    simp only [failureOf, h.clean_eq,
      clean_bannered hbefore hgap hversion hending hblank hbehind h]
  refine ⟨same, ?_⟩
  by_cases hc : LacksConfig reason
  · rw [h.failureOf_noConfig hc]
    exact ⟨rfl, rfl, iff_of_true rfl hc, iff_of_true rfl hc⟩
  · have unknown : reason ≠ Failure.noConfigMessage := by
      -- the text for a missing configuration is one of its marks
      rintro rfl
      exact hc ⟨_, List.mem_cons_self, List.infix_rfl⟩
    rw [h.failureOf_lint hc]
    refine ⟨rfl, rfl, iff_of_false (by simp [Failure.lint, Failure.lintWith]) hc, ?_⟩
    exact iff_of_false (mt (isNoConfig_lint_iff reason).mp unknown) hc

/-- A reason that looks like a version and lacks a configuration, with blank lines all around. -/
theorem versionLike_reason_is_kept :
    AllBlank " \n".toList ∧ AllBlank "\n\n".toList ∧ '\n' ∉ "8.57.0".toList ∧
    '\n' ∈ "\r\n \n".toList ∧ AllBlank "\r\n \n".toList ∧ AllBlank "\n".toList ∧
    IsReason "ESLint: 9\nNo ESLint configuration found." ∧
    failureOf (bannered " \n" "\n\n" "8.57.0" "\r\n \n"
      "ESLint: 9\nNo ESLint configuration found." "\n") =
        .noConfig "ESLint: 9\nNo ESLint configuration found." := by
  have hb : AllBlank " \n".toList := by decide +kernel
  have hg : AllBlank "\n\n".toList := by decide +kernel
  have hv : '\n' ∉ "8.57.0".toList := by decide +kernel
  have he : '\n' ∈ "\r\n \n".toList := by decide +kernel
  have hs : AllBlank "\r\n \n".toList := by decide +kernel
  have hn : AllBlank "\n".toList := by decide +kernel
  have hr : IsReason "ESLint: 9\nNo ESLint configuration found." :=
    ⟨by decide +kernel, by decide +kernel, by decide +kernel⟩
  refine ⟨hb, hg, hv, he, hs, hn, hr, ?_⟩
  rw [(banner_changes_nothing hb hg hv he hs hn hr).1]
  exact hr.failureOf_noConfig ⟨_, List.mem_cons_self, by decide +kernel⟩

end Engine

end LintServer
