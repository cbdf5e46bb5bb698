import GranuleRecall.Decimal.Literal
import GranuleRecall.Log
import GranuleRecall.Text.WhiteSpace

/-! # Log filters

Which records are shown. A filter is a list of directives between commas: a level for all
sources, a source to show entirely, or a source with a level. A source covers all whose names
begin with it. A directive may also name a span, which no record here belongs to, or a field,
and then covers only the records with that field. The most specific directive decides.

This belongs to the outer layer: it stands for the behaviour of a logging library, decides only
which of the records of an outcome are shown, and nothing is proved of it. -/
set_option autoImplicit false

namespace GranuleRecall.Command

/-- How many levels are shown, from none (0) over errors only (1) to all (5). -/
abbrev Verbosity := Nat

def verbosityOf : LogLevel → Verbosity
  | .error => 1
  | .warn => 2
  | .info => 3
  | .debug => 4

def fullVerbosity : Verbosity := 5

def readVerbosity? (text : String) : Option Verbosity :=
  let byNumber := match Decimal.readNatural fullVerbosity text.toList with
    | .ok number => some number
    | .error _ => none
  match byNumber with
  | some number => some number
  | none =>
    match String.ofList (text.toList.map Char.toLower) with
    | "" => some 1
    | "off" => some 0
    | "error" => some 1
    | "warn" => some 2
    | "info" => some 3
    | "debug" => some 4
    | "trace" => some 5
    | _ => none

structure Directive where
  target : String
  forSpans : Bool
  field : Option String
  verbosity : Verbosity
deriving DecidableEq, Repr

/-! ## Reading -/

/-- The verbosity after an equals sign; nothing there means all. -/
def readLevel? (characters : List Char) : Option Verbosity :=
  if characters.isEmpty then some fullVerbosity else readVerbosity? (String.ofList characters)

/-- Reads a span from after its opening bracket: whether it is named or wants a field with a
value, the field, and what follows the closing bracket. -/
def readSpan? (characters : List Char) : Option (Bool × Option String × List Char) :=
  let name := characters.takeWhile fun character => character != ']' && character != '\x7b'
  match characters.drop name.length with
  | ']' :: following => some (true, none, following)
  | '\x7b' :: afterBrace =>
    let field := afterBrace.takeWhile (· != '\x7d')
    match field, afterBrace.drop field.length with
    | _ :: _, '\x7d' :: ']' :: following =>
      some (!name.isEmpty || field.contains '=',
        some (String.ofList (field.takeWhile (· != '='))), following)
    | _, _ => none
  | _ => none

def beginsDirective (character : Char) : Bool :=
  character.isAlphanum || character == '-' || character == ':' || character == '_' ||
    0x80 ≤ character.toNat

/-- A directive with a span, from after the opening bracket. The level is what a part has from
some place on: the place where the level begins when there are no blanks before the part. -/
def readWithSpan? (part : List Char) (length : Nat) (target : String) (span : List Char) :
    Option Directive :=
  match readSpan? span with
  | none => none
  | some (forSpans, field, []) => some ⟨target, forSpans, field, fullVerbosity⟩
  | some (forSpans, field, '=' :: level) =>
    (readLevel? (part.drop (length - level.length))).map fun verbosity =>
      ⟨target, forSpans, field, verbosity⟩
  | some _ => none

/-- Reads one part between commas. Blanks around a part do not count for where its name and its
level begin and end, but the pieces are then cut out of the part with its blanks. -/
def readPart? (part : List Char) : Option Directive :=
  let trimmed := Text.trimmed part
  match trimmed with
  | [] => none
  | '[' :: span => readWithSpan? part trimmed.length "" span
  | first :: _ =>
    if beginsDirective first then
      let length := (trimmed.takeWhile fun character => character != '=' && character != '[').length
      let target := String.ofList (part.take length)
      match trimmed.drop length with
      | '=' :: _ =>
        (readLevel? (part.drop (length + 1))).map fun verbosity =>
          ⟨target, false, none, verbosity⟩
      | '[' :: span => readWithSpan? part trimmed.length target span
      | _ =>
        match readVerbosity? (String.ofList part) with
        | some verbosity => some ⟨"", false, none, verbosity⟩
        | none => some ⟨String.ofList part, false, none, fullVerbosity⟩
    else none

abbrev LogFilter := List Directive

def LogFilter.standard : LogFilter := [⟨"", false, none, 3⟩]

/-- Reads a filter; none when a part of it cannot be read. A filter without directives shows
nothing. -/
def LogFilter.read? (text : String) : Option LogFilter :=
  ((text.splitOn ",").filter (!·.isEmpty)).mapM fun part => readPart? part.toList

/-! ## Deciding -/

/-- Whether a directive says anything about a record. Every record has a message. -/
def Directive.covers (directive : Directive) (record : LogRecord) : Bool :=
  !directive.forSpans && directive.target.isPrefixOf record.source.target &&
    match directive.field with
    | none => true
    | some field => field == "message" || (record.fields.map Prod.fst).contains field

/-- Whether a directive is at least as specific as another one: it has the longer target, or
one of the same length and a field that the other has not, or one that comes later. -/
def Directive.isAsSpecificAs (directive other : Directive) : Bool :=
  other.target.length < directive.target.length ||
    (other.target.length == directive.target.length &&
      match other.field, directive.field with
      | none, _ => true
      | some _, none => false
      | some field, some own => field ≤ own)

/-- The directive that decides about a record: the most specific of those that cover it, and
the last of several equal ones. -/
def LogFilter.directiveFor? (filter : LogFilter) (record : LogRecord) : Option Directive :=
  (filter.filter (·.covers record)).foldl (fun best directive =>
    match best with
    | none => some directive
    | some other => if directive.isAsSpecificAs other then some directive else best) none

def LogFilter.shows (filter : LogFilter) (record : LogRecord) : Bool :=
  match filter.directiveFor? record with
  | none => false
  | some directive => verbosityOf record.level ≤ directive.verbosity

end GranuleRecall.Command
