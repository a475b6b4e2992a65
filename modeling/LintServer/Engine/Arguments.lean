/-
  LintServer.Engine.Arguments — the options of the linter as flags of its command line.

  The flags come in a fixed order: configuration, rule folders, ignore file, parser,
  environments, globals, plugins, rules. A setting that counts as not given has no flag. A
  setting of several values has one flag for each; a rule's flag is an object of that rule
  alone, in JSON.
-/

import LintServer.Diagnostic
import LintServer.Json.Writer

namespace LintServer.Engine

/-- The flag of a setting with one value. -/
def flag (name : String) (v : Json) : List String := if v.isTruthy then [name, v.text] else []

/-- The flags of a setting with several values. -/
def flags (name : String) (v : Json) : Except Failure (List String) := do
  let members ← (v.orElse (.arr [])).members
  return members.flatMap fun m => [name, m.text]

def ruleFlags (v : Json) : Except Failure (List String) := do
  let rules ← (v.orElse (.obj [])).fieldsTo "items"
  let flags ← rules.mapM fun (rule, setting) => do
    return ["--rule", ← Json.written (.obj [(rule, setting)])]
  return flags.flatten

def arguments (options : Json) : Except Failure (List String) := do
  if !options.isTruthy then return []
  let fields ← options.fields
  let option := Json.field fields
  let folders ← flags "--rulesdir" (option "rulePaths")
  let environments ← flags "--env" (option "envs")
  let globals ← flags "--global" (option "globals")
  let plugins ← flags "--plugin" (option "plugins")
  let rules ← ruleFlags (option "rules")
  return flag "--config" (option "configFile") ++ folders ++
    flag "--ignore-path" (option "ignorePath") ++ flag "--parser" (option "parser") ++
    environments ++ globals ++ plugins ++ rules

end LintServer.Engine
