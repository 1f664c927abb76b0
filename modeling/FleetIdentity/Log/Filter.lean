import FleetIdentity.Text.Blank

/-!
Which log events are printed.

A filter is a list of directives with commas between them. A directive is a level for everything,
or a target with a level or without one; a target stands for all targets that start with it, and
the longest one decides. A directive may name a span, which no event of the service is in.
Directives from the environment count if all of them can be read; otherwise the configured ones
count, as far as they can be read.
-/

namespace FleetIdentity

/-- How important an event is. -/
inductive LogLevel where
  | error
  | warn
  | info
  | debug
  | trace
  deriving DecidableEq, Repr

namespace LogLevel

/-- The levels from the most important on. -/
def all : List LogLevel := [.error, .warn, .info, .debug, .trace]

/-- The place of a level among all. -/
def rank : LogLevel → Nat
  | .error => 1
  | .warn => 2
  | .info => 3
  | .debug => 4
  | .trace => 5

/-- The name of a level. -/
def name : LogLevel → String
  | .error => "ERROR"
  | .warn => "WARN"
  | .info => "INFO"
  | .debug => "DEBUG"
  | .trace => "TRACE"

end LogLevel

/-- A rule of a filter: up to which rank the events of a target are printed. -/
structure LogDirective where
  /-- Nothing stands for every target. -/
  target : Option String
  /-- The rule holds within spans only. -/
  withinSpan : Bool
  rank : Nat
  deriving DecidableEq

namespace LogDirective

/-- The names of levels and of none. -/
def rankNames : List (String × Nat) :=
  [("off", 0), ("error", 1), ("warn", 2), ("info", 3), ("debug", 4), ("trace", 5)]

/-- The number that digits are, which may have a plus sign in front. -/
def number? (text : List Char) : Option Nat :=
  let digits := match text with
    | '+' :: digits => digits
    | digits => digits
  if digits ≠ [] ∧ digits.all Char.isDigit then
    some (digits.foldl (fun n c => 10 * n + (c.toNat - 48)) 0)
  else none

/-- The rank that a text names, in any case, or is as a number. -/
def rank? (text : List Char) : Option Nat :=
  match number? text with
  | some n => if n ≤ LogLevel.trace.rank then some n else none
  | none => rankNames.lookup (String.ofList (text.map Char.toLower))

/-- A character that a directive may start with, besides the bracket of a span. -/
def isStart (c : Char) : Bool :=
  c.isAlphanum || c == '_' || c == ':' || c == '-' || 0x80 ≤ c.toNat

/-- The rank at the end of a directive: without one everything is printed. -/
def rankAfter? : List Char → Option Nat
  | [] => some LogLevel.trace.rank
  | ['='] => some LogLevel.trace.rank
  | '=' :: level => rank? level
  | _ => none

/-- A level for everything, or else a target of which everything is printed. -/
def bare (text : List Char) : LogDirective :=
  match rank? text with
  | some rank => { target := none, withinSpan := false, rank }
  | none =>
    { target := some (String.ofList text), withinSpan := false, rank := LogLevel.trace.rank }

/-- A name as a target; no name stands for every target. -/
def target? (name : List Char) : Option String :=
  if name.isEmpty then none else some (String.ofList name)

/-- The directive that a text is. White space is part of a target and does not go with a level. -/
def parse? (text : List Char) : Option LogDirective := do
  let first ← (text.dropWhile isBlankChar).head?
  if first ≠ '[' ∧ !isStart first then none
  match text.span fun c => c ≠ '=' && c ≠ '[' with
  | (_, []) => return bare text
  | (name, '[' :: span) =>
    let rank ← rankAfter? ((span.dropWhile (· ≠ ']')).drop 1)
    if span.contains ']' then some { target := target? name, withinSpan := true, rank } else none
  | (name, rest) =>
    let rank ← rankAfter? rest
    if text.head?.any isBlankChar then none
    else some { target := target? name, withinSpan := false, rank }

/-- The directive holds for a target. -/
def covers (d : LogDirective) (target : String) : Bool :=
  !d.withinSpan && (d.target.getD "").toList.isPrefixOf target.toList

end LogDirective

/-- The directives of a filter in their order. -/
structure LogFilter where
  directives : List LogDirective

namespace LogFilter

/-- The texts of the directives. -/
def parts (text : String) : List (List Char) :=
  (text.toList.splitOn ',').filter (· ≠ [])

/-- The filter of directives; without any, errors are printed. -/
def ofDirectives (directives : List LogDirective) : LogFilter :=
  match directives with
  | [] => { directives := [{ target := none, withinSpan := false, rank := LogLevel.error.rank }] }
  | directives => { directives }

/-- The filter of a text all of whose directives can be read. -/
def parse? (text : String) : Option LogFilter :=
  ((parts text).mapM LogDirective.parse?).map ofDirectives

/-- The filter of the directives of a text that can be read. -/
def parseSome (text : String) : LogFilter :=
  ofDirectives ((parts text).filterMap LogDirective.parse?)

/-- The filter of the environment, or the configured one. -/
def choose (fromEnvironment : Option String) (configured : String) : LogFilter :=
  match fromEnvironment with
  | none => parseSome configured
  | some text =>
    if isBlank text then parseSome configured else (parse? text).getD (parseSome configured)

/-- The later of two directives unless the earlier has the longer target. -/
def moreSpecific (best : Option LogDirective) (d : LogDirective) : Option LogDirective :=
  match best with
  | none => some d
  | some b => if (d.target.getD "").length < (b.target.getD "").length then best else some d

/-- The directive that decides about a target. -/
def deciding (f : LogFilter) (target : String) : Option LogDirective :=
  (f.directives.filter (·.covers target)).foldl moreSpecific none

/-- An event is printed. -/
def prints (f : LogFilter) (target : String) (level : LogLevel) : Bool :=
  match f.deciding target with
  | some d => level.rank ≤ d.rank
  | none => false

end LogFilter

end FleetIdentity
