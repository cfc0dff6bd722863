import CommandMesh.Text.Blank

/-!
# `CommandMesh.LogLevel`: how much a line of a log matters

A `LogLevel` is written in two ways: in full for the lines of a node's log, and as a short label for
the threshold that a configuration sets. A threshold is read by its label in any case or by its
number, from 1 for errors alone to 5 for everything.

A number is tried before a label. Zero and numbers above five name no level, and a setting that
names none asks for `info`, so a mistyped threshold never silences a log.
-/

set_option autoImplicit false

namespace CommandMesh

/-- How much a line of a log matters. -/
inductive LogLevel where
  | trace
  | debug
  | info
  | warning
  | error
deriving DecidableEq

namespace LogLevel

/-- All levels, the one that shows least first. -/
def all : List LogLevel := [error, warning, info, debug, trace]

/-- The level in full. -/
def name : LogLevel → String
  | trace => "trace"
  | debug => "debug"
  | info => "info"
  | warning => "warning"
  | error => "error"

/-- The level as a short label. -/
def label : LogLevel → String
  | trace => "TRACE"
  | debug => "DEBUG"
  | info => "INFO"
  | warning => "WARN"
  | error => "ERROR"

/-- The number that decimal digits name, with a plus sign before them or not. -/
def number? (cs : List Char) : Option Nat :=
  let ds := match cs with
    | '+' :: ds => ds
    | ds => ds
  if ds ≠ [] ∧ ds.all Char.isDigit then
    some (ds.foldl (fun n c => 10 * n + (c.toNat - 48)) 0)
  else none

/-- The level that a number or a label names. -/
def ofText? (s : String) : Option LogLevel :=
  match number? s.toList with
  | some 0 => none
  | some (n + 1) => all[n]?
  | none => all.find? fun l => l.label.toList == s.toList.map Char.toUpper

/-- The level that a setting asks for, white space around it left out. A text that names none asks
for `info`. -/
def ofSetting (s : String) : LogLevel := (ofText? (Text.trim s)).getD info

end LogLevel

end CommandMesh
