/-
  LintServer.Proofs.Options — the options of the linter, read back off its command line.

  The arguments are flags and values in turn, so that a value is never taken for a flag, whatever
  it looks like. Both sides meet at what is chosen: the options choose it, the arguments are
  those of what is chosen (`arguments_eq_ok_iff`), and it is read back off them flag by flag
  (`ofArguments?_inTurn`). There are arguments just if every rule can be written, and every rule of
  options that were received can (`Received.rules`).
-/

import Mathlib
import LintServer.Engine.Arguments
import LintServer.Json.Field
import LintServer.Proofs.Readings

namespace LintServer.Engine

open Json (field Floatless Inside Proper Sound Within)

/-- What is chosen for each flag, in order. There is at most one configuration, one ignore file and
one parser. -/
structure Choices where
  configFile : List String := []
  ruleFolders : List String := []
  ignoreFile : List String := []
  parser : List String := []
  environments : List String := []
  globals : List String := []
  plugins : List String := []
  rules : List (String × Json) := []

namespace Choices

/-! ## What options choose -/

/-- A text that is not empty. -/
def one : Json → List String
  | .str s => if s.isEmpty then [] else [s]
  | _ => []

/-- The texts of a list, or the names of an object. -/
def several : Json → List String
  | .arr items => items.filterMap Json.text?
  | .obj entries => Table.keys entries
  | _ => []

def rulesOf : Json → List (String × Json)
  | .obj rules => rules
  | _ => []

def ofOptions (fields : List (String × Json)) : Choices where
  configFile := one (field fields "configFile")
  ruleFolders := several (field fields "rulePaths")
  ignoreFile := one (field fields "ignorePath")
  parser := one (field fields "parser")
  environments := several (field fields "envs")
  globals := several (field fields "globals")
  plugins := several (field fields "plugins")
  rules := rulesOf (field fields "rules")

/-! ## What arguments choose -/

/-- The flags with their values. There is none where a flag has no value. -/
def pairsOf? : List String → Option (List (String × String))
  | [] => some []
  | [_] => none
  | flag :: value :: rest => (pairsOf? rest).map ((flag, value) :: ·)

/-- The values of one flag, in order. -/
def valuesOf (flag : String) (pairs : List (String × String)) : List String :=
  (pairs.filter (·.1 == flag)).map (·.2)

/-- The rule that a text sets, which is an object of that rule alone. -/
def rule? (text : String) : Option (String × Json) :=
  match Json.read text with
  | .ok (.obj [rule]) => some rule
  | _ => none

def ofArguments? (args : List String) : Option Choices := do
  let pairs ← pairsOf? args
  let rules ← (valuesOf "--rule" pairs).mapM rule?
  return {
    configFile := valuesOf "--config" pairs
    ruleFolders := valuesOf "--rulesdir" pairs
    ignoreFile := valuesOf "--ignore-path" pairs
    parser := valuesOf "--parser" pairs
    environments := valuesOf "--env" pairs
    globals := valuesOf "--global" pairs
    plugins := valuesOf "--plugin" pairs
    rules }

/-! ## The arguments of what is chosen -/

def toPairs (c : Choices) : List (String × String) :=
  c.configFile.map ("--config", ·) ++ c.ruleFolders.map ("--rulesdir", ·) ++
    c.ignoreFile.map ("--ignore-path", ·) ++ c.parser.map ("--parser", ·) ++
    c.environments.map ("--env", ·) ++ c.globals.map ("--global", ·) ++
    c.plugins.map ("--plugin", ·) ++ c.rules.map fun rule => ("--rule", Json.write (.obj [rule]))

/-- The flags that options can have. -/
def flagNames : List String :=
  ["--config", "--rulesdir", "--ignore-path", "--parser", "--env", "--global", "--plugin", "--rule"]

/-- Flags and values in turn. -/
def inTurn (pairs : List (String × String)) : List String := pairs.flatMap fun p => [p.1, p.2]

theorem inTurn_append (ps qs : List (String × String)) :
    inTurn (ps ++ qs) = inTurn ps ++ inTurn qs := List.flatMap_append

theorem mem_flagNames {c : Choices} {p : String × String} (h : p ∈ c.toPairs) :
    p.1 ∈ flagNames := by
  simp only [toPairs, List.mem_append, List.mem_map] at h
  rcases h with ((((((⟨_, -, rfl⟩ | ⟨_, -, rfl⟩) | ⟨_, -, rfl⟩) | ⟨_, -, rfl⟩) | ⟨_, -, rfl⟩) |
    ⟨_, -, rfl⟩) | ⟨_, -, rfl⟩) | ⟨_, -, rfl⟩ <;> simp [flagNames]

theorem pairsOf?_inTurn (pairs : List (String × String)) :
    pairsOf? (inTurn pairs) = some pairs := by
  induction pairs with
  | nil => rfl
  | cons p pairs ih =>
    rw [inTurn, List.flatMap_cons, ← inTurn]
    simp only [List.cons_append, List.nil_append, pairsOf?, ih, Option.map_some]

theorem valuesOf_append (flag : String) (ps qs : List (String × String)) :
    valuesOf flag (ps ++ qs) = valuesOf flag ps ++ valuesOf flag qs := by
  rw [valuesOf, List.filter_append, List.map_append, ← valuesOf, ← valuesOf]

/-- The values that stand behind one flag belong to it alone. -/
theorem valuesOf_map {α : Type} (flag name : String) (value : α → String) (xs : List α) :
    valuesOf flag (xs.map fun x => (name, value x)) =
      if name = flag then xs.map value else [] := by
  induction xs with
  | nil => simp [valuesOf]
  | cons x xs ih =>
    rw [List.map_cons, ← List.singleton_append, valuesOf_append, ih]
    by_cases h : name = flag <;> simp [valuesOf, h]

theorem valuesOf_map_self (flag name : String) (values : List String) :
    valuesOf flag (values.map fun value => (name, value)) = if name = flag then values else [] := by
  simpa using valuesOf_map flag name id values

/-- A rule on its own is read back if it can be written. -/
theorem rule?_write {rule : String × Json} (hproper : Proper (fun _ => False) (.obj [rule]))
    (hwithin : Within Text.maxDigits ({} : Json.Limits).depth (.obj [rule])) :
    rule? (Json.write (.obj [rule])) = some rule := by
  have hread : Json.read (Json.write (.obj [rule])) = .ok (.obj [rule]) :=
    Json.readWithin_write hproper hwithin
  rw [rule?, hread]

theorem mapM_rule?_write {rules : List (String × Json)}
    (h : ∀ rule ∈ rules, rule? (Json.write (.obj [rule])) = some rule) :
    (rules.map fun rule => Json.write (.obj [rule])).mapM rule? = some rules := by
  induction rules with
  | nil => rfl
  | cons rule rules ih =>
    rw [List.map_cons, List.mapM_cons, h rule List.mem_cons_self,
      ih fun r hr => h r (List.mem_cons_of_mem _ hr)]
    rfl

/-- What is chosen is read back off its arguments. -/
theorem ofArguments?_inTurn {c : Choices}
    (h : ∀ rule ∈ c.rules, rule? (Json.write (.obj [rule])) = some rule) :
    ofArguments? (inTurn c.toPairs) = some c := by
  have hrules := mapM_rule?_write h
  have hflag : ∀ flag, valuesOf flag c.toPairs =
      (if "--config" = flag then c.configFile else []) ++
      (if "--rulesdir" = flag then c.ruleFolders else []) ++
      (if "--ignore-path" = flag then c.ignoreFile else []) ++
      (if "--parser" = flag then c.parser else []) ++
      (if "--env" = flag then c.environments else []) ++
      (if "--global" = flag then c.globals else []) ++
      (if "--plugin" = flag then c.plugins else []) ++
      if "--rule" = flag then c.rules.map fun rule => Json.write (.obj [rule]) else [] := by
    intro flag
    simp only [toPairs, valuesOf_append, valuesOf_map_self, valuesOf_map]
  simp [ofArguments?, pairsOf?_inTurn, hflag, hrules]

end Choices

/-! ## Options of the shape that is documented -/

/-- Null, or a text. -/
inductive IsText : Json → Prop
  | null : IsText .null
  | str (s : String) : IsText (.str s)

/-- Null, or a list of texts. -/
inductive AreTexts : Json → Prop
  | null : AreTexts .null
  | arr (texts : List String) : AreTexts (.arr (texts.map .str))

/-- Null, or rules without floating point numbers. -/
inductive AreRules : Json → Prop
  | null : AreRules .null
  | obj {rules : List (String × Json)} (h : ∀ rule ∈ rules, Floatless rule.2) :
      AreRules (.obj rules)

/-- Options each of its type, null or not there. -/
structure IsOptions (fields : List (String × Json)) : Prop where
  configFile : IsText (field fields "configFile")
  rulePaths : AreTexts (field fields "rulePaths")
  ignorePath : IsText (field fields "ignorePath")
  parser : IsText (field fields "parser")
  envs : AreTexts (field fields "envs")
  globals : AreTexts (field fields "globals") ∨ ∃ entries, field fields "globals" = .obj entries
  plugins : AreTexts (field fields "plugins")
  rules : AreRules (field fields "rules")

open Choices (one several rulesOf inTurn flagNames)

theorem flag_eq {v : Json} (h : IsText v) (name : String) :
    flag name v = inTurn ((one v).map (name, ·)) := by
  cases h with
  | null => rfl
  | str s =>
    unfold flag one
    by_cases hs : s.isEmpty = true <;> simp [Json.isTruthy, hs, inTurn, Json.text]

theorem flags_of_members {v : Json} {texts : List String}
    (h : (v.orElse (.arr [])).members = .ok (texts.map .str)) (name : String) :
    flags name v = .ok (inTurn (texts.map (name, ·))) := by
  unfold flags
  rw [h]
  simp only [bind, Except.bind, List.flatMap_map, inTurn, Json.text]
  rfl

theorem flags_eq {v : Json} (h : AreTexts v) (name : String) :
    flags name v = .ok (inTurn ((several v).map (name, ·))) := by
  refine flags_of_members ?_ name
  cases h with
  | null => rfl
  | arr texts =>
    have htexts : several (.arr (texts.map .str)) = texts := by
      simp [several, List.filterMap_map, Function.comp_def, Json.text?]
    rw [htexts]
    cases texts <;> rfl

/-- An object stands for its names. -/
theorem flags_names (name : String) (entries : List (String × Json)) :
    flags name (.obj entries) = .ok (inTurn ((several (.obj entries)).map (name, ·))) := by
  refine flags_of_members ?_ name
  cases entries with
  | nil => rfl
  | cons e entries =>
    simp [Json.orElse, Json.isTruthy, Json.members, Json.members?, several, Table.keys]

theorem AreRules.floatless {v : Json} (h : AreRules v) : ∀ rule ∈ rulesOf v, Floatless rule.2 := by
  cases h with
  | null => exact nofun
  | obj h => exact h

/-- Rules that can be written, each on its own. -/
def Writable (rules : List (String × Json)) : Prop :=
  ∀ rule ∈ rules, Within Text.maxDigits ({} : Json.Limits).depth (.obj [rule])

/-- Rules as text can hold them. -/
def Intact (rules : List (String × Json)) : Prop :=
  ∀ rule ∈ rules, Proper (fun _ => True) (.obj [rule])

theorem ruleFlags_eq_ok_iff {v : Json} (h : AreRules v) {args : List String} :
    ruleFlags v = .ok args ↔ Writable (rulesOf v) ∧
      args = inTurn ((rulesOf v).map fun rule => ("--rule", Json.write (.obj [rule]))) := by
  have hrules : (v.orElse (.obj [])).fieldsTo "items" = .ok (rulesOf v) := by
    cases h with
    | null => rfl
    | @obj rules h => cases rules <;> rfl
  have hone : ∀ {rule : String × Json} {words : List String},
      (do return ["--rule", ← Json.written (.obj [rule])]) = .ok words ↔
        Within Text.maxDigits ({} : Json.Limits).depth (.obj [rule]) ∧
          words = ["--rule", Json.write (.obj [rule])] := by
    intro rule words
    rw [bind_eq_ok_iff]
    simp only [Json.written_eq_ok_iff]
    constructor
    · rintro ⟨text, ⟨hwithin, rfl⟩, hwords⟩
      exact ⟨hwithin, (Except.ok.inj hwords).symm⟩
    · rintro ⟨hwithin, rfl⟩
      exact ⟨_, ⟨hwithin, rfl⟩, rfl⟩
  unfold ruleFlags
  rw [hrules]
  show (rulesOf v).mapM (fun rule => do return ["--rule", ← Json.written (.obj [rule])]) >>= _ =
    .ok args ↔ _
  rw [bind_eq_ok_iff]
  simp only [mapM_eq_ok_iff_map fun _ _ h => (hone.mp h).2, hone, and_true, inTurn,
    List.flatMap_map]
  constructor
  · rintro ⟨_, ⟨hwithin, rfl⟩, hargs⟩
    exact ⟨hwithin, (Except.ok.inj hargs).symm⟩
  · rintro ⟨hwithin, rfl⟩
    exact ⟨_, ⟨hwithin, rfl⟩, rfl⟩

/-- There are arguments if the rules can be written, and they are those of what the options choose. -/
theorem arguments_eq_ok_iff {fields : List (String × Json)} (h : IsOptions fields)
    {args : List String} : arguments (.obj fields) = .ok args ↔
      Writable (Choices.ofOptions fields).rules ∧
        args = inTurn (Choices.ofOptions fields).toPairs := by
  have hglobals : flags "--global" (field fields "globals") =
      .ok (inTurn ((several (field fields "globals")).map ("--global", ·))) := by
    rcases h.globals with hg | ⟨entries, hg⟩
    · exact flags_eq hg "--global"
    · rw [hg]
      exact flags_names "--global" entries
  cases fields with
  | nil =>
    have hnone : Writable (Choices.ofOptions []).rules := nofun
    exact ⟨fun hargs => ⟨hnone, (Except.ok.inj hargs).symm⟩, fun hargs => by rw [hargs.2]; rfl⟩
  | cons f fields =>
    unfold arguments
    rw [if_neg (by simp [Json.isTruthy])]
    simp only [Json.fields, Json.fieldsTo, bind, Except.bind, flags_eq h.rulePaths,
      flags_eq h.envs, hglobals, flags_eq h.plugins, flag_eq h.configFile,
      flag_eq h.ignorePath, flag_eq h.parser]
    show (ruleFlags _ >>= fun rules => .ok _) = .ok args ↔ _
    rw [bind_eq_ok_iff]
    simp only [ruleFlags_eq_ok_iff h.rules, Choices.toPairs, Choices.ofOptions,
      Choices.inTurn_append]
    constructor
    · rintro ⟨_, ⟨hwritable, rfl⟩, hargs⟩
      exact ⟨hwritable, (Except.ok.inj hargs).symm⟩
    · rintro ⟨hwritable, rfl⟩
      exact ⟨_, ⟨hwritable, rfl⟩, rfl⟩

/-! ## Options that were received -/

/-- Options that stand anywhere in JSON text of characters. -/
def Received (fields : List (String × Json)) : Prop :=
  ∃ (cs : List Char) (message : Json),
    Json.read (Text.ofChars cs).string = .ok message ∧ Inside (.obj fields) message

theorem sound_field {digits depth : Nat} {fields : List (String × Json)}
    (h : Sound digits depth (.obj fields)) (name : String) :
    Sound digits depth (field fields name) := by
  unfold field
  cases hv : Table.get? fields name with
  | none => exact ⟨.null, .null⟩
  | some v => exact h.inside (.value (Table.mem_of_get? hv) (.refl v))

theorem sound_rule {digits depth : Nat} {rules : List (String × Json)}
    (h : Sound digits depth (.obj rules)) {rule : String × Json} (hrule : rule ∈ rules) :
    Sound digits depth (.obj [rule]) := by
  obtain ⟨hproper, hwithin⟩ := h
  obtain ⟨depth, rfl, hall⟩ := Json.within_obj_iff.mp hwithin
  cases hproper with
  | obj distinct names values =>
    have one : ∀ {P : String × Json → Prop}, P rule → ∀ f ∈ [rule], P f := fun hp f hf =>
      List.mem_singleton.mp hf ▸ hp
    exact ⟨.obj (by simp [Table.keys]) (one (names rule hrule)) (one (values rule hrule)),
      .obj (one (hall rule hrule))⟩

/-- Rules of options that were received can be written, and are what text can hold. -/
theorem Received.rules {fields : List (String × Json)} (hr : Received fields) :
    Writable (Choices.ofOptions fields).rules ∧ Intact (Choices.ofOptions fields).rules := by
  obtain ⟨cs, message, hread, hinside⟩ := hr
  have hsound : Sound Text.maxDigits ({} : Json.Limits).depth (field fields "rules") :=
    sound_field ((Json.sound_of_read hread).inside hinside) "rules"
  have hone : ∀ rule ∈ (Choices.ofOptions fields).rules,
      Sound Text.maxDigits ({} : Json.Limits).depth (.obj [rule]) := by
    intro rule hrule
    simp only [Choices.ofOptions] at hrule
    unfold rulesOf at hrule
    split at hrule
    · rename_i rules heq
      rw [heq] at hsound
      exact sound_rule hsound hrule
    · cases hrule
  exact ⟨fun rule hrule => (hone rule hrule).within, fun rule hrule => (hone rule hrule).proper⟩

/-- What the options choose is read back off the arguments they become. -/
theorem ofArguments?_arguments {fields : List (String × Json)} (h : IsOptions fields)
    (hintact : Intact (Choices.ofOptions fields).rules) {args : List String}
    (hargs : arguments (.obj fields) = .ok args) :
    Choices.ofArguments? args = some (Choices.ofOptions fields) := by
  obtain ⟨hwritable, rfl⟩ := (arguments_eq_ok_iff h).mp hargs
  refine Choices.ofArguments?_inTurn fun rule hrule => ?_
  have hfloatless : Floatless (.obj [rule]) := by
    refine .obj fun f hf => ?_
    rw [List.mem_singleton.mp hf]
    exact h.rules.floatless rule hrule
  exact Choices.rule?_write ((hintact rule hrule).floatless hfloatless) (hwritable rule hrule)

/-- Options whose values look like flags, and a rule with a quote, a line feed, a character of two
units, a first half of a pair and values inside one another. -/
def oddOptions : List (String × Json) :=
  [("configFile", .str ""), ("parser", .str "--rule"), ("envs", .arr [.str "--env", .str ""]),
   ("globals", .obj [("--plugin", .null)]),
   ("rules", .obj [("a\"\n😀", .arr [.int (-2), .obj [("b", .arr [])], .bool true]),
     ("--config", .str (Text.mk [.half 0x3D, .char 'u', .char 'D']).string)])]

theorem isOptions_odd : IsOptions oddOptions where
  configFile := .str ""
  rulePaths := .null
  ignorePath := .null
  parser := .str "--rule"
  envs := .arr ["--env", ""]
  globals := .inr ⟨[("--plugin", .null)], rfl⟩
  plugins := .null
  rules := by
    have hlist : Floatless (.arr [.int (-2), .obj [("b", .arr [])], .bool true]) := by
      refine .arr ?_
      simp only [List.forall_mem_cons]
      exact ⟨.int _, .obj (by simpa using .arr nofun), .bool _, by simp⟩
    refine .obj ?_
    simp only [List.forall_mem_cons]
    exact ⟨hlist, .str _, by simp⟩

/-- The options as they are sent, as a member of a list. -/
def oddMessage : List Char :=
  "[\x7b\"configFile\":\"\",\"parser\":\"--rule\",\"envs\":[\"--env\",\"\"],
  \"globals\":\x7b\"--plugin\":null\x7d,\"rules\":\x7b\"a\\\"\\n😀\":[-2,\x7b\"b\":[]\x7d,true],
  \"--config\":\"\\ud83duD\"\x7d\x7d]".toList

theorem received_odd : Received oddOptions := by
  refine ⟨oddMessage, .arr [.obj oddOptions], ?_, .item List.mem_cons_self (.refl _)⟩
  cbv

end LintServer.Engine
