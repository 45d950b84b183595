import RenderBridge.Text.Blank
/-!
Log filters: which records are logged, by target and level.

A filter is a list of directives between commas. A directive is a level, which is the default; a
target, which lets all levels through; or `target=level`. The directive with the longest name that a
record's target starts with decides.

* `LogFilter.ofText`: a filter read from text; what cannot be read is left out.
* `LogFilter.enabled`, `maxLevel`: whether a record is logged, and the highest level of all.
-/

set_option autoImplicit false

namespace RenderBridge

/-- How much is logged; each level includes those before it. -/
inductive LogLevel
  | off
  | error
  | warn
  | info
  | debug
  | trace
deriving DecidableEq

namespace LogLevel

def all : List LogLevel := [off, error, warn, info, debug, trace]

def rank (level : LogLevel) : Nat := level.ctorIdx

def name : LogLevel → String
  | off => "OFF"
  | error => "ERROR"
  | warn => "WARN"
  | info => "INFO"
  | debug => "DEBUG"
  | trace => "TRACE"

/-- The level of this name, in any case of ASCII letters. -/
def ofName? (name : String) : Option LogLevel :=
  all.find? fun level => level.name = name.map Char.toUpper

/-- The higher of two levels. -/
def max (a b : LogLevel) : LogLevel := if a.rank < b.rank then b else a

end LogLevel

/-- The level for targets whose names start with `target`; for all targets without one. -/
structure LogDirective where
  target : Option String
  level : LogLevel
deriving DecidableEq

namespace LogDirective

/-- The bytes of the name; none count as zero. -/
def nameLength (d : LogDirective) : Nat := (d.target.map String.utf8ByteSize).getD 0

/-- Whether the directive speaks of a target. -/
def covers (d : LogDirective) (target : String) : Bool :=
  match d.target with
  | none => true
  | some name => name.toList.isPrefixOf target.toList

/-- Reads one directive. Blanks around the level are dropped, those before the sign are not. -/
def ofText? (text : String) : Option LogDirective :=
  match text.splitOn "=" with
  | [single] =>
    match LogLevel.ofName? single with
    | some level => some ⟨none, level⟩
    | none => some ⟨some single, .trace⟩
  | [target, level] =>
    let level := Blank.trim level
    if level.isEmpty then some ⟨some target, .trace⟩
    else (LogLevel.ofName? level).map fun level => ⟨some target, level⟩
  | _ => none

end LogDirective

/-- Directives, shorter names first. -/
structure LogFilter where
  directives : List LogDirective
deriving DecidableEq

namespace LogFilter

/-- Takes a directive in, in the place of an earlier one for the same target. -/
def put (directives : List LogDirective) (d : LogDirective) : List LogDirective :=
  if directives.any fun e => e.target = d.target then
    directives.map fun e => if e.target = d.target then d else e
  else directives ++ [d]

/-- The filter of a list of directives. Without any, errors are logged. -/
def ofDirectives (directives : List LogDirective) : LogFilter :=
  let kept := directives.foldl put []
  if kept.isEmpty then ⟨[⟨none, .error⟩]⟩
  else ⟨kept.mergeSort fun a b => a.nameLength ≤ b.nameLength⟩

/-- The directives of a text. What stands after a slash is no directive, and a text with more than
one slash has none. -/
def directivesOfText (text : String) : List LogDirective :=
  match text.splitOn "/" with
  | [] => []
  | [directives] | [directives, _] =>
    (((directives.splitOn ",").map Blank.trim).filter fun piece => !piece.isEmpty).filterMap
      LogDirective.ofText?
  | _ => []

/-- Reads a filter. -/
def ofText (text : String) : LogFilter := ofDirectives (directivesOfText text)

/-- The highest level of all directives. -/
def maxLevel (f : LogFilter) : LogLevel :=
  f.directives.foldl (fun level d => level.max d.level) .off

/-- Whether a record is logged: the last directive that speaks of its target decides. -/
def enabled (f : LogFilter) (target : String) (level : LogLevel) : Bool :=
  match f.directives.reverse.find? fun d => d.covers target with
  | some d => level.rank ≤ d.level.rank
  | none => false

end LogFilter

end RenderBridge
