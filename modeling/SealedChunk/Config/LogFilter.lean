import SealedChunk.Config.Setting
import SealedChunk.Text.Alphanumeric
import SealedChunk.Text.Blank
import SealedChunk.Text.Quoted

/-!
# Log filters

A log filter is a list of directives with commas between them.  A directive says what it is about,
by a target or a span or both, and may end in `=` and a level; a level alone is about everything.

* A target begins with a letter, a number or one of `-`, `:`, `_`, and goes on with whatever is
  neither `=` nor `[`.
* A span stands between brackets: its name, perhaps with fields in braces behind it.
* A level is a word in either case or a number up to 5.  Behind `=` it may be left out.

Empty directives are passed over, and so are blanks around a directive that gives no level behind
`=`.  One that does has blanks neither at its front nor behind the level.

A filter of the environment takes precedence over that of the configuration, if it is one.

* `isFilter` — whether a text is a filter.
* `initialise` — sets logging up, once.
-/

namespace SealedChunk.Config

/-! ## Levels -/

/-- The words for a level. -/
def levelWords : List String := ["trace", "debug", "info", "warn", "error", "off"]

/-- A number that is not negative, with or without a plus sign. -/
def unsigned? : List Char → Option Nat
  | '+' :: ds => digits? ds
  | ds => digits? ds

/-- Whether a text is a level. -/
def isLevel (s : List Char) : Bool :=
  levelWords.contains (lowered (String.ofList s))
    || (match unsigned? s with
      | some n => n ≤ 5
      | none => false)

/-! ## Directives -/

/-- Whether a target can begin with a character. -/
def startsTarget (c : Char) : Bool :=
  c = '-' || c = ':' || c = '_' || Text.isAlphanumeric c

/-- What follows a span, of which only the opening bracket was read.  Braces hold at least one
field, and nothing stands between them and the closing bracket. -/
def afterSpan? (s : List Char) : Option (List Char) :=
  match s.dropWhile fun c => c ≠ ']' && c ≠ '\x7b' with
  | [] => none
  | ']' :: rest => some rest
  | _ :: fields =>
    if fields.head? = some '\x7d' then none
    else
      match fields.dropWhile (· ≠ '\x7d') with
      | _ :: ']' :: rest => some rest
      | _ => none

/-- What follows the target and the span of a directive without blanks in front. -/
def afterSubject? : List Char → Option (List Char)
  | [] => none
  | c :: rest =>
    if c = '[' then afterSpan? rest
    else if startsTarget c then
      match rest.dropWhile fun c => c ≠ '=' && c ≠ '[' with
      | '[' :: rest => afterSpan? rest
      | rest => some rest
    else none

/-- Whether a text is a directive. -/
def isDirective (s : List Char) : Bool :=
  let fromSubject := s.dropWhile Text.isBlank
  match afterSubject? fromSubject with
  | none => false
  | some ('=' :: level) => fromSubject.length = s.length && (level.isEmpty || isLevel level)
  | some rest => rest.all Text.isBlank

/-! ## Filters -/

/-- The parts of a text between commas. -/
def commaParts : List Char → List (List Char)
  | [] => [[]]
  | ',' :: rest => [] :: commaParts rest
  | c :: rest =>
    match commaParts rest with
    | part :: parts => (c :: part) :: parts
    | [] => [[c]]

/-- Whether a text is a filter. -/
def isFilter (s : String) : Bool :=
  (commaParts s.toList).all fun part => part.isEmpty || isDirective part

/-- Why logging was not set up. -/
inductive LogError where
  | invalidLevel (level : String)
  /-- It was set up before. -/
  | alreadyInstalled
deriving DecidableEq

/-- The text of the error. -/
def LogError.message : LogError → String
  | .invalidLevel level => "invalid log level " ++ Text.quoted level
  | .alreadyInstalled => "failed to initialise tracing subscriber"

/-- The filter in force: that of the environment, if it is one, else that of the configuration. -/
def chooseFilter (level : String) (environment : Option String) : Except LogError String :=
  match environment.filter isFilter with
  | some filter => .ok filter
  | none => if isFilter level then .ok level else .error (.invalidLevel level)

/-- Sets logging up with the filter in force, which can be done only once. -/
def initialise (installed : Bool) (level : String) (environment : Option String) :
    Except LogError String := do
  let filter ← chooseFilter level environment
  if installed then .error .alreadyInstalled else .ok filter

end SealedChunk.Config
