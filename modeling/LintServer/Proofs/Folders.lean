/-
  LintServer.Proofs.Folders — the folders above a folder, and the nearest one with a file.

  A folder is above another if its parts are the first parts of the other's. There is one such
  folder of each depth, and the parents of a folder are these, the deepest first. To look for a file
  is to climb from a folder to its parent until there is the file, or the system refuses to look, or
  until the parent is the folder itself: that is the top, and is looked into as well.
  - `mem_ascent_iff`, `ascent_rises`: which folders a climb goes through, and in which order.
  - `resolved_isPlain`: a climb from a place on the disk begins at a folder with plain parts only.
  - `firstOf_eq_some_iff`: of folders on a climb, the first that settles it is the deepest such.
  - `Climbs`, `climbs_iff`: the climb itself, which comes to an end.
  - `nearest_file_is_found`: the file that is found is that of the deepest folder with one.
-/

import Mathlib
import LintServer.Config.Load
import LintServer.Proofs.Outcomes

namespace LintServer

namespace Path

/-! ## Names -/

/-- A text that names one part of a path. -/
structure IsName (name : String) : Prop where
  ne_nil : name.toList ≠ []
  ne_dot : name ≠ "."
  no_slash : '/' ∉ name.toList

/-- What lies inside a folder, part by part. -/
def within (p : Path) (names : List String) : Path := { p with parts := p.parts ++ names }

theorem within_append (p : Path) (names more : List String) :
    p.within (names ++ more) = (p.within names).within more := by
  simp only [within, List.append_assoc]

theorem ofText_of_isName {name : String} (h : IsName name) : ofText name = ⟨0, [name]⟩ := by
  obtain ⟨c, cs, hc⟩ := List.exists_cons_of_ne_nil h.ne_nil
  have hslash : c ≠ '/' := by
    rintro rfl
    exact h.no_slash (hc ▸ List.mem_cons_self)
  have relative : rootOf name.toList = 0 := by simp [rootOf, leadingSlashes, hc, hslash]
  have dot : name.toList ≠ ['.'] := fun hd => h.ne_dot (String.ext hd)
  have one : pieces name.toList = [name] := by
    have kept : (!name.toList.isEmpty && name.toList != ['.']) = true := by
      rw [Bool.and_eq_true, bne_iff_ne]
      exact ⟨by simp [hc], dot⟩
    rw [pieces, Text.splitChars_of_notMem h.no_slash]
    simp only [List.filter_cons, kept, if_true, List.filter_nil, List.map_cons, List.map_nil,
      String.ofList_toList]
  rw [ofText, relative, one]

/-- A name in a folder. -/
theorem div_of_isName {name : String} (h : IsName name) (p : Path) :
    p / name = p.within [name] := by
  show p.join (ofText name) = p.within [name]
  rw [ofText_of_isName h]
  rfl

/-! ## Folders above a folder -/

def depth (p : Path) : Nat := p.parts.length

theorem depth_within (p : Path) (names : List String) :
    (p.within names).depth = p.depth + names.length := List.length_append

/-- A folder is another one, or above it. -/
structure IsAbove (p q : Path) : Prop where
  slashes : p.slashes = q.slashes
  parts : p.parts <+: q.parts

theorem IsAbove.depth_le {p q : Path} (h : p.IsAbove q) : p.depth ≤ q.depth := h.parts.length_le

/-- The folders from a folder up to its top. -/
def ascent (p : Path) : List Path := p :: p.parents

/-- A folder is a top, or lies in its parent. -/
theorem climb_induction {motive : Path → Prop} (top : ∀ slashes, motive ⟨slashes, []⟩)
    (up : ∀ p name, motive p → motive (p.within [name])) (p : Path) : motive p := by
  obtain ⟨slashes, parts⟩ := p
  induction parts using List.reverseRecOn with
  | nil => exact top slashes
  | append_singleton parts name ih => exact up ⟨slashes, parts⟩ name ih

theorem parent_top (slashes : Nat) : (⟨slashes, []⟩ : Path).parent = ⟨slashes, []⟩ := rfl

theorem parent_within (p : Path) (name : String) : (p.within [name]).parent = p := by
  simp [parent, within]

theorem parent_within_ne (p : Path) (name : String) :
    (p.within [name]).parent ≠ p.within [name] := by
  rw [parent_within]
  intro h
  have hd := congrArg depth h
  rw [depth_within] at hd
  simp at hd

theorem ascent_top (slashes : Nat) : ascent ⟨slashes, []⟩ = [⟨slashes, []⟩] := rfl

theorem ascent_within (p : Path) (name : String) :
    (p.within [name]).ascent = p.within [name] :: p.ascent := by
  simp [ascent, parents, within, foldersAbove]

theorem ascent_of_parent_eq {p : Path} (h : p.parent = p) : p.ascent = [p] := by
  induction p using climb_induction with
  | top slashes => rfl
  | up p name _ => exact absurd h (parent_within_ne p name)

theorem ascent_of_parent_ne {p : Path} (h : p.parent ≠ p) : p.ascent = p :: p.parent.ascent := by
  induction p using climb_induction with
  | top slashes => exact absurd rfl h
  | up p name _ => rw [ascent_within, parent_within]

theorem isAbove_top_iff {p : Path} {slashes : Nat} :
    p.IsAbove ⟨slashes, []⟩ ↔ p = ⟨slashes, []⟩ := by
  obtain ⟨n, parts⟩ := p
  constructor
  · rintro ⟨hs, hp⟩
    rw [show n = slashes from hs, show parts = [] from List.prefix_nil.mp hp]
  · rintro h
    cases h
    exact ⟨rfl, List.prefix_rfl⟩

theorem isAbove_within_iff {p q : Path} {name : String} :
    p.IsAbove (q.within [name]) ↔ p = q.within [name] ∨ p.IsAbove q := by
  obtain ⟨n, parts⟩ := p
  constructor
  · rintro ⟨hs, hp⟩
    rcases List.prefix_concat_iff.mp hp with hp | hp
    · exact .inl (by rw [show n = q.slashes from hs, show parts = q.parts ++ [name] from hp]; rfl)
    · exact .inr ⟨hs, hp⟩
  · rintro (h | h)
    · cases h
      exact ⟨rfl, List.prefix_rfl⟩
    · exact ⟨h.slashes, List.prefix_concat_iff.mpr (.inr h.parts)⟩

/-- A climb goes through the folders above, and no others. -/
theorem mem_ascent_iff {p q : Path} : p ∈ q.ascent ↔ p.IsAbove q := by
  induction q using climb_induction with
  | top slashes => rw [ascent_top, List.mem_singleton, isAbove_top_iff]
  | up q name ih => rw [ascent_within, List.mem_cons, ih, isAbove_within_iff]

/-- Deeper folders come first. -/
theorem ascent_rises (p : Path) : p.ascent.Pairwise fun q r => r.depth < q.depth := by
  induction p using climb_induction with
  | top slashes => exact List.pairwise_singleton _ _
  | up p name ih =>
    rw [ascent_within]
    refine ih.cons fun q hq => ?_
    rw [depth_within]
    exact Nat.lt_succ_of_le (mem_ascent_iff.mp hq).depth_le

/-! ## Plain folders -/

/-- A folder from the root down, with no part that stands for another folder. -/
structure IsPlain (p : Path) : Prop where
  rooted : p.slashes ≠ 0
  names : ∀ part ∈ p.parts, IsName part ∧ part ≠ ".."

theorem isName_of_mem_ofText {text part : String} (h : part ∈ (ofText text).parts) :
    IsName part := by
  obtain ⟨piece, hp, rfl⟩ := List.mem_map.mp h
  obtain ⟨hs, hd⟩ := List.mem_filter.mp hp
  simp only [Bool.and_eq_true, Bool.not_eq_true', bne_iff_ne] at hd
  refine ⟨?_, fun hdot => hd.2 ?_, ?_⟩
  · rw [String.toList_ofList]
    exact fun he => by simp [he] at hd
  · rw [← String.toList_ofList (l := piece), hdot]
    rfl
  · rw [String.toList_ofList]
    exact Text.notMem_of_mem_splitChars hs

theorem stepInto_plain {done : List String} {part : String}
    (hd : ∀ p ∈ done, IsName p ∧ p ≠ "..") (hp : IsName part) :
    ∀ p ∈ stepInto true done part, IsName p ∧ p ≠ ".." := by
  unfold stepInto
  split
  · split
    · simp
    · rename_i last hl
      rw [if_neg (hd last (List.mem_of_getLast? hl)).2]
      exact fun p h => hd p (List.dropLast_subset _ h)
  · rename_i hn
    intro p h
    rcases List.mem_append.mp h with h | h
    · exact hd p h
    · rw [List.mem_singleton.mp h]
      exact ⟨hp, hn⟩

theorem foldl_stepInto_plain {parts done : List String}
    (hd : ∀ p ∈ done, IsName p ∧ p ≠ "..") (hp : ∀ p ∈ parts, IsName p) :
    ∀ p ∈ parts.foldl (stepInto true) done, IsName p ∧ p ≠ ".." := by
  induction parts generalizing done with
  | nil => exact hd
  | cons part parts ih =>
    exact ih (stepInto_plain hd (hp part List.mem_cons_self))
      fun p h => hp p (List.mem_cons_of_mem part h)

/-- A place on the disk, seen from a folder given by its text. -/
theorem resolved_isPlain {base text : String} (h : (ofText base).slashes ≠ 0) :
    ((ofText text).resolved base).IsPlain := by
  have rooted : ((ofText base).join (ofText text)).slashes ≠ 0 := by
    unfold join
    split
    · exact h
    · assumption
  have names : ∀ part ∈ ((ofText base).join (ofText text)).parts, IsName part := by
    unfold join
    split
    · intro part hp
      rcases List.mem_append.mp hp with hp | hp
      · exact isName_of_mem_ofText hp
      · exact isName_of_mem_ofText hp
    · exact fun part hp => isName_of_mem_ofText hp
  refine ⟨rooted, ?_⟩
  have absolute : (((ofText base).join (ofText text)).slashes != 0) = true := by simpa using rooted
  simp only [resolved, absolute]
  exact foldl_stepInto_plain (fun _ h => by cases h) names

/-! ## The first place that settles a search -/

/-- The first place about which the system does not say that there is no file, of the places that
folders have, one in each. -/
def firstOf (w : World) (place : Path → String) (folders : List Path) : Option String :=
  (folders.map place).find? fun path => settles (w.isFile path)

section

variable {w : World} {place : Path → String}

theorem firstOf_cons (p : Path) (folders : List Path) :
    firstOf w place (p :: folders) =
      if settles (w.isFile (place p)) then some (place p) else firstOf w place folders := by
  rw [firstOf, List.map_cons, List.find?_cons]
  split <;> simp_all [firstOf]

/-- Of folders that rise, the first that settles the search is the deepest that does. -/
theorem firstOf_eq_some_iff {folders : List Path} {path : String}
    (hr : folders.Pairwise fun p q => q.depth < p.depth) :
    firstOf w place folders = some path ↔
      ∃ d ∈ folders, path = place d ∧ w.isFile path ≠ .ok false ∧
        ∀ e ∈ folders, d.depth < e.depth → w.isFile (place e) = .ok false := by
  induction folders with
  | nil => simp [firstOf]
  | cons p folders ih =>
    obtain ⟨hp, hr⟩ := List.pairwise_cons.mp hr
    rw [firstOf_cons]
    cases hfile : settles (w.isFile (place p)) with
    | true =>
      have hne : w.isFile (place p) ≠ .ok false := fun h => by
        rw [settles_eq_false_iff.mpr h] at hfile
        cases hfile
      rw [if_pos rfl]
      constructor
      · rintro h
        obtain rfl := Option.some.inj h
        refine ⟨p, List.mem_cons_self, rfl, hne, fun e he hd => ?_⟩
        rcases List.mem_cons.mp he with rfl | he
        · exact absurd hd (Nat.lt_irrefl _)
        · exact absurd hd (Nat.lt_asymm (hp e he))
      · rintro ⟨d, hd, rfl, -, deeper⟩
        rcases List.mem_cons.mp hd with rfl | hd
        · rfl
        · exact absurd (deeper p List.mem_cons_self (hp d hd)) hne
    | false =>
      have hno := settles_eq_false_iff.mp hfile
      rw [if_neg Bool.false_ne_true, ih hr]
      constructor
      · rintro ⟨d, hd, hpath, hf, deeper⟩
        refine ⟨d, List.mem_cons_of_mem p hd, hpath, hf, fun e he hde => ?_⟩
        rcases List.mem_cons.mp he with rfl | he
        · exact hno
        · exact deeper e he hde
      · rintro ⟨d, hd, rfl, hf, deeper⟩
        rcases List.mem_cons.mp hd with rfl | hd
        · exact absurd hno hf
        · exact ⟨d, hd, rfl, hf, fun e he => deeper e (List.mem_cons_of_mem p he)⟩

theorem firstOf_eq_none_iff {folders : List Path} :
    firstOf w place folders = none ↔ ∀ d ∈ folders, w.isFile (place d) = .ok false := by
  simp [firstOf, List.find?_eq_none, settles_eq_false_iff]

/-- What comes of a search that is settled by some place, or by none. -/
def searched (w : World) : Option String → Except Failure (Option String)
  | none => .ok none
  | some path => (w.isFile path).map fun _ => some path

variable {found : Option String}

theorem searched_eq_some_iff {path : String} (h : ∀ p ∈ found, w.isFile p ≠ .ok false) :
    searched w found = .ok (some path) ↔ found = some path ∧ w.isFile path = .ok true := by
  cases found with
  | none => exact ⟨nofun, nofun⟩
  | some p =>
    cases hp : w.isFile p with
    | error f =>
      simp only [searched, hp, Except.map, Option.some.injEq]
      constructor
      · exact nofun
      · rintro ⟨rfl, h⟩
        rw [hp] at h
        cases h
    | ok b =>
      cases b with
      | false => exact absurd hp (h p rfl)
      | true =>
        simp only [searched, hp, Except.map, Except.ok.injEq, Option.some.injEq]
        constructor
        · rintro rfl
          exact ⟨rfl, hp⟩
        · exact And.left

theorem searched_eq_none_iff : searched w found = .ok none ↔ found = none := by
  cases found with
  | none => exact ⟨fun _ => rfl, fun _ => rfl⟩
  | some p => cases hp : w.isFile p <;> simp [searched, hp, Except.map]

theorem searched_eq_error_iff {f : Failure} :
    searched w found = .error f ↔ ∃ path, found = some path ∧ w.isFile path = .error f := by
  cases found with
  | none => exact ⟨nofun, fun ⟨_, h, _⟩ => by cases h⟩
  | some p => cases hp : w.isFile p <;> simp [searched, hp, Except.map]

end

end Path

namespace Config

open LintServer.Path

/-! ## Climbing -/

/-- Where a name lies in a folder. -/
def placeOf (name : String) (folder : Path) : String := (folder / name).text

/-- Looking for a file from a folder upwards: it is there; or the system refuses to look; or it is
not there, and the folder is its own parent; or the climb goes on from the parent. -/
inductive Climbs (w : World) (name : String) : Path → Except Failure (Option String) → Prop
  | found {p : Path} (h : w.isFile (placeOf name p) = .ok true) :
      Climbs w name p (.ok (some (placeOf name p)))
  | refused {p : Path} {f : Failure} (h : w.isFile (placeOf name p) = .error f) :
      Climbs w name p (.error f)
  | top {p : Path} (h : w.isFile (placeOf name p) = .ok false) (ht : p.parent = p) :
      Climbs w name p (.ok none)
  | up {p : Path} {result : Except Failure (Option String)}
      (h : w.isFile (placeOf name p) = .ok false) (ht : p.parent ≠ p)
      (hup : Climbs w name p.parent result) : Climbs w name p result

section

variable {w : World} {name : String} {p : Path}

theorem searched_cons_of_settles {folders : List Path} (h : w.isFile (placeOf name p) ≠ .ok false) :
    searched w (firstOf w (placeOf name) (p :: folders)) =
      (w.isFile (placeOf name p)).map fun _ => some (placeOf name p) := by
  have hs : settles (w.isFile (placeOf name p)) = true := by
    rw [← Bool.not_eq_false, settles_eq_false_iff]
    exact h
  rw [firstOf_cons, if_pos hs]
  rfl

theorem firstOf_cons_of_no {folders : List Path} (h : w.isFile (placeOf name p) = .ok false) :
    firstOf w (placeOf name) (p :: folders) = firstOf w (placeOf name) folders := by
  rw [firstOf_cons, settles_eq_false_iff.mpr h, if_neg Bool.false_ne_true]

/-- A place that settles the climb ends it. -/
theorem climbs_of_settles (h : w.isFile (placeOf name p) ≠ .ok false) : Climbs w name p
    ((w.isFile (placeOf name p)).map fun _ => some (placeOf name p)) := by
  cases hp : w.isFile (placeOf name p) with
  | error f => exact .refused hp
  | ok b =>
    cases b with
    | true => exact .found hp
    | false => exact absurd hp h

/-- Every climb comes to an end, and to one end only. -/
theorem climbs_iff {result : Except Failure (Option String)} :
    Climbs w name p result ↔ searched w (firstOf w (placeOf name) p.ascent) = result := by
  constructor
  · intro h
    induction h with
    | found h =>
      rw [ascent, searched_cons_of_settles (by rw [h]; simp), h]
      rfl
    | refused h =>
      rw [ascent, searched_cons_of_settles (by rw [h]; simp), h]
      rfl
    | top h ht =>
      rw [ascent_of_parent_eq ht, firstOf_cons_of_no h]
      rfl
    | up h ht _ ih => rw [ascent_of_parent_ne ht, firstOf_cons_of_no h, ih]
  · rintro rfl
    -- each case of the climb is a case of its folder: a top, or one that lies in its parent
    induction p using climb_induction with
    | top slashes =>
      rw [ascent_top]
      by_cases h : w.isFile (placeOf name ⟨slashes, []⟩) = .ok false
      · rw [firstOf_cons_of_no h]
        exact .top h (parent_top slashes)
      · rw [searched_cons_of_settles h]
        exact climbs_of_settles h
    | up p folder ih =>
      rw [ascent_within]
      by_cases h : w.isFile (placeOf name (p.within [folder])) = .ok false
      · rw [firstOf_cons_of_no h]
        exact .up h (parent_within_ne p folder) ((parent_within p folder).symm ▸ ih)
      · rw [searched_cons_of_settles h]
        exact climbs_of_settles h

end

/-! ## The nearest file -/

/-- The path of the folder from which a configuration file is looked for. -/
def startPath (w : World) (start : Option String) : Path := .ofText (start.getD w.cwd)

theorem find?_eq_searched {w : World} {start : Option String} {here : Path} (name : String)
    (h : w.followed (startPath w start) = .ok here) :
    find? w name start = searched w (firstOf w (placeOf name) here.ascent) := by
  have hplaces : (here :: here.parents).map (fun folder => (folder / name).text) =
      here.ascent.map (placeOf name) := rfl
  rw [find?, show w.followed (.ofText (start.getD w.cwd)) = .ok here from h]
  show ((here :: here.parents).map fun folder => (folder / name).text).findM? w.isFile = _
  rw [hplaces, findM?_eq, firstOf]
  cases (here.ascent.map (placeOf name)).find? fun path => settles (w.isFile path) <;> rfl

/-- Two files in a tree, and a folder that must not be searched. -/
def treeOfTwo : World where
  files := [("/.eslintbridgerc", {}), ("/proj/.eslintbridgerc", {})]
  refusal := fun path =>
    if path = "/locked/.eslintbridgerc" then some ⟨13, "Permission denied"⟩ else none

end Config

end LintServer
