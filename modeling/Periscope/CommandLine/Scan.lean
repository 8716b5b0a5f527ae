/-!
# Scanning a command line

A word that starts with two dashes names an option, one with a single dash one or more
options of one letter, and two dashes alone end the options. The value of an option is
attached to its name or is the next word. A value is looked at only when the scan has
found out what comes behind it, and then errors are told in the order of the words.
-/

namespace Periscope

/-- Why a command line is refused: it is not of the right form, or one of its values is
wrong in a way that is told. -/
inductive Refusal where
  /-- The words are not of the right form. -/
  | usage
  /-- A value of an option is wrong for the told reason. -/
  | value (option given reason : String)
  deriving Repr, DecidableEq

/-- The wording of a refusal that is told. -/
def Refusal.message? : Refusal → Option String
  | .usage => none
  | .value option given reason =>
    some ("error: invalid value '" ++ given ++ "' for '" ++ option ++ "': " ++ reason)

/-- How a scan ends early. -/
inductive Ending where
  /-- Help is asked for. -/
  | help
  /-- The version is asked for. -/
  | version
  /-- The words are refused. -/
  | refused (cause : Refusal)
  deriving Repr, DecidableEq

/-- What an option does to the draft of a command. -/
inductive Effect (δ : Type) where
  /-- Asks for help. -/
  | help
  /-- Asks for the version. -/
  | version
  /-- Changes the draft. -/
  | flag (set : δ → δ)
  /-- Takes a value into the draft, unless it is refused. -/
  | value (accept : String → δ → Except Refusal δ)

/-- An option of a command. -/
structure OptionRule (δ : Type) where
  /-- The name behind two dashes. -/
  long : String
  /-- The letter behind one dash. -/
  short : Option Char := none
  /-- Whether the option may be given more than once. -/
  repeats : Bool := false
  /-- What giving the option does. -/
  effect : Effect δ

/-- What a command accepts. -/
structure Grammar (δ : Type) where
  /-- The options of the command. -/
  options : List (OptionRule δ)
  /-- What a word that belongs to no option does; without it there are no such words. -/
  word? : Option (String → δ → δ) := none
  /-- The names at which the scan stops and leaves the rest to another command. -/
  commands : List String := []

/-- An option that waits to be looked at, with its value if that was found. -/
structure Waiting (δ : Type) where
  rule : OptionRule δ
  value : Option String

/-- Where a scan stands. -/
structure ScanState (δ : Type) where
  draft : δ
  /-- The names of options that were given. -/
  given : List String := []
  waiting : Option (Waiting δ) := none
  /-- Whether two dashes have ended the options. -/
  wordsOnly : Bool := false

namespace ScanState

variable {δ : Type}

/-- Notes that an option was given, unless it was before and may not be again. -/
def note (s : ScanState δ) (rule : OptionRule δ) : Except Ending (ScanState δ) :=
  if rule.long ∈ s.given ∧ ¬ rule.repeats then .error (.refused .usage)
  else .ok { s with given := rule.long :: s.given }

/-- Takes the value of an option. -/
def accept (s : ScanState δ) (rule : OptionRule δ) (value : String) :
    Except Ending (ScanState δ) := do
  let s ← s.note rule
  match rule.effect with
  | .value accept => return { s with draft := ← (accept value s.draft).mapError .refused }
  | _ => throw (.refused .usage)

/-- Looks at the option that waits. It must have found its value. -/
def settle (s : ScanState δ) : Except Ending (ScanState δ) :=
  match s.waiting with
  | none => .ok s
  | some ⟨_, none⟩ => .error (.refused .usage)
  | some ⟨rule, some value⟩ => { s with waiting := none }.accept rule value

/-- Whether the next word is the value of an option. -/
def wantsValue (s : ScanState δ) : Bool :=
  match s.waiting with
  | some ⟨_, none⟩ => true
  | _ => false

/-- Meets an option, with its attached value if there is one. -/
def meet (s : ScanState δ) (rule : OptionRule δ) (attached : Option String) :
    Except Ending (ScanState δ) :=
  match rule.effect, attached with
  | .value _, some value => do (← s.settle).accept rule value
  | .value _, none => do return { ← s.settle with waiting := some ⟨rule, none⟩ }
  | _, some _ => .error (.refused .usage)
  | .help, none => do
    let _ ← s.settle
    throw .help
  | .version, none => do
    let _ ← s.settle
    throw .version
  | .flag set, none => do
    let s ← (← s.settle).note rule
    return { s with draft := set s.draft }

end ScanState

namespace Grammar

variable {δ : Type}

/-- The name and the attached value of an option with two dashes. -/
def splitAttached (s : List Char) : String × Option String :=
  let name := String.ofList (s.takeWhile (· ≠ '='))
  match s.dropWhile (· ≠ '=') with
  | [] => (name, none)
  | _ :: value => (name, some (String.ofList value))

/-- The value attached to an option of one letter. An equals sign in front is dropped. -/
def attachedToLetter : List Char → Option String
  | [] => none
  | '=' :: value => some (String.ofList value)
  | value => some (String.ofList value)

/-- Scans options of one letter. The first that takes a value takes the rest for it. -/
def scanLetters (grammar : Grammar δ) : List Char → ScanState δ → Except Ending (ScanState δ)
  | [], s => .ok s
  | c :: rest, s =>
    match grammar.options.find? (·.short = some c) with
    | none => .error (.refused .usage)
    | some rule =>
      match rule.effect with
      | .value _ => s.meet rule (attachedToLetter rest)
      | _ => do grammar.scanLetters rest (← s.meet rule none)

/-- Scans a word that belongs to no option. -/
def scanPlain (grammar : Grammar δ) (word : String) (s : ScanState δ) :
    Except Ending (ScanState δ) :=
  match grammar.word? with
  | none => .error (.refused .usage)
  | some take => do
    let s ← s.settle
    return { s with draft := take word s.draft }

/-- Scans one word. -/
def scanWord (grammar : Grammar δ) (word : String) (s : ScanState δ) :
    Except Ending (ScanState δ) :=
  if s.wordsOnly then grammar.scanPlain word s
  else
    match word.toList with
    | ['-', '-'] => .ok { s with wordsOnly := true }
    | '-' :: '-' :: rest =>
      let (name, attached) := splitAttached rest
      match grammar.options.find? (·.long = name) with
      | none => .error (.refused .usage)
      | some rule => s.meet rule attached
    | '-' :: c :: rest => grammar.scanLetters (c :: rest) s
    | _ =>
      match s.waiting with
      | some ⟨rule, none⟩ => .ok { s with waiting := some ⟨rule, some word⟩ }
      | _ => grammar.scanPlain word s

/-- Scans words up to the name of another command. Returns the state and, if there is
such a name, the name and the words behind it. -/
def scan (grammar : Grammar δ) : List String → ScanState δ →
    Except Ending (ScanState δ × Option (String × List String))
  | [], s => .ok (s, none)
  | word :: rest, s =>
    if ¬ s.wordsOnly ∧ ¬ s.wantsValue ∧ word ∈ grammar.commands then .ok (s, some (word, rest))
    else do grammar.scan rest (← grammar.scanWord word s)

end Grammar

end Periscope
