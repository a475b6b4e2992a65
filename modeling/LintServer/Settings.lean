/-
  LintServer.Settings — what the editor says about linting, while the server runs.

  The settings stand under the name `eslint`. Whatever is missing or malformed has its
  default: documents are linted, as they are typed, with no options.
-/

import LintServer.Json.Basic

namespace LintServer

inductive Trigger where
  | onType
  | onSave
  deriving DecidableEq, Repr, Inhabited

def Trigger.name : Trigger → String
  | .onType => "onType"
  | .onSave => "onSave"

structure Settings where
  enable : Bool := true
  run : Trigger := .onType
  options : List (String × Json) := []
  deriving Repr, Inhabited

namespace Settings

def triggerOf : Option Json → Trigger
  | some (.str "onSave") => .onSave
  | _ => .onType

def ofSection (fields : List (String × Json)) : Settings where
  enable := ((Table.get? fields "enable").getD (.bool true)).isTruthy
  run := triggerOf (Table.get? fields "run")
  options := match Table.get? fields "options" with
    | some (.obj options) => options
    | _ => []

def ofClient : Json → Settings
  | .obj fields =>
    match Table.get? fields "eslint" with
    | some (.obj group) => ofSection group
    | _ => {}
  | _ => {}

def onType (s : Settings) : Bool := s.enable && s.run == .onType

def onSave (s : Settings) : Bool := s.enable && s.run == .onSave

end Settings

end LintServer
