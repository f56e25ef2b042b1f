import StepCondition.Check
import StepCondition.Session

/-!
# The command line

The words of a command line are read as a command (`Command.ofArgs`), and a command
is carried out on some variables and a standard input (`Command.run`). The outcome
is what the process writes and its exit code. Words that make no command lead to
exit code 2, and a command that fails to exit code 1.
-/

namespace StepCondition

/-- What a process leaves behind. -/
structure Outcome where
  code : UInt8 := 0
  stdout : String := ""
  stderr : String := ""
  deriving DecidableEq, Repr

/-- The options of a check, as far as they have been read. -/
structure CheckArgs where
  condition : Option String := none
  input : Option String := none
  env : Bool := false
  syntaxOnly : Bool := false
  deriving DecidableEq, Repr

/-- What a command line asks for. -/
inductive Command where
  | help
  | version
  | session
  | check (condition : String) (input : Option String) (env syntaxOnly : Bool)
  deriving DecidableEq, Repr

/-- Why a command line makes no command. -/
inductive UsageError where
  | unexpected (word : String)
  | repeated (option : String)
  | missingValue (option : String)
  | missingCondition
  deriving DecidableEq, Repr

/-- The message for an error. -/
def UsageError.message : UsageError → String
  | unexpected word => "unexpected argument '" ++ word ++ "' found"
  | repeated option => "the argument '" ++ option ++ "' cannot be used multiple times"
  | missingValue option => "a value is required for '" ++ option ++ "' but none was supplied"
  | missingCondition => "the following required arguments were not provided: <CONDITION>"

/-- How a word of a command line is meant. -/
inductive Word where
  /-- Two dashes: all words after it are values. -/
  | dashes
  /-- A word after two dashes, with what follows an equals sign in it. -/
  | long (name : String) (value : Option String)
  /-- A letter after one dash, with what follows it. -/
  | short (letter : Char) (more : List Char)
  | value (text : String)

/-- How a word is meant. A single dash is a value. -/
def Word.ofText (text : String) : Word :=
  match text.toList with
  | ['-', '-'] => .dashes
  | '-' :: '-' :: cs =>
    .long (String.ofList (cs.takeWhile (· ≠ '=')))
      ((cs.dropWhile (· ≠ '=')).tail?.map String.ofList)
  | '-' :: c :: cs => .short c cs
  | _ => .value text

namespace CheckArgs

/-- Takes a word as the condition, of which there is one. -/
def withCondition (args : CheckArgs) (text : String) : Except UsageError CheckArgs :=
  if args.condition.isSome then .error (.unexpected text)
  else .ok { args with condition := some text }

/-- Takes a text as the input, which is given at most once. -/
def withInput (args : CheckArgs) (text : String) : Except UsageError CheckArgs :=
  if args.input.isSome then .error (.repeated "--input")
  else .ok { args with input := some text }

end CheckArgs

/-- The text of a value that follows a letter in its word: an equals sign between
them does not count. -/
def attachedValue : List Char → String
  | '=' :: cs => String.ofList cs
  | cs => String.ofList cs

/-- Reads the words after `check`. An option that asks for help ends reading at
once. -/
def readCheck (args : CheckArgs) (valuesOnly : Bool) : List String → Except UsageError Command
  | [] =>
    match args.condition with
    | some condition => .ok (.check condition args.input args.env args.syntaxOnly)
    | none => .error .missingCondition
  | text :: texts =>
    if valuesOnly then do readCheck (← args.withCondition text) true texts
    else
      match Word.ofText text with
      | .dashes => readCheck args true texts
      | .value text => do readCheck (← args.withCondition text) false texts
      | .long "help" none => .ok .help
      | .long "env" none =>
        if args.env then .error (.repeated text)
        else readCheck { args with env := true } false texts
      | .long "syntax-only" none =>
        if args.syntaxOnly then .error (.repeated text)
        else readCheck { args with syntaxOnly := true } false texts
      | .long "input" (some value) => do readCheck (← args.withInput value) false texts
      | .long "input" none | .short 'i' [] =>
        match texts with
        | [] => .error (.missingValue text)
        | next :: texts =>
          match Word.ofText next with
          | .value value => do readCheck (← args.withInput value) false texts
          | _ => .error (.missingValue text)
      | .short 'i' (c :: cs) => do readCheck (← args.withInput (attachedValue (c :: cs))) false texts
      | .short 'h' _ => .ok .help
      | _ => .error (.unexpected text)

/-- Reads the words after `repl`, which takes none but a request for help. -/
def readSession : List String → Except UsageError Command
  | [] => .ok .session
  | text :: texts =>
    match Word.ofText text with
    | .dashes => if let next :: _ := texts then .error (.unexpected next) else .ok .session
    | .long "help" none | .short 'h' _ => .ok .help
    | _ => .error (.unexpected text)

/-- Reads the words after `help`: at most one command. -/
def readHelp : List String → Except UsageError Command
  | [] | ["repl"] | ["check"] | ["help"] => .ok .help
  | text :: _ => .error (.unexpected text)

/-- The command that the words of a command line make. Without words it is a
session. -/
def Command.ofArgs : List String → Except UsageError Command
  | [] => .ok .session
  | text :: texts =>
    match Word.ofText text with
    | .dashes => if let next :: _ := texts then .error (.unexpected next) else .ok .session
    | .long "help" none | .short 'h' _ => .ok .help
    | .long "version" none | .short 'V' _ => .ok .version
    | .value "repl" => readSession texts
    | .value "check" => readCheck {} false texts
    | .value "help" => readHelp texts
    | _ => .error (.unexpected text)

/-- How to use the commands. -/
def usage : String :=
  "Evaluate pipeline step conditions such as build.branch == 'main'\n\n" ++
  "Usage: conditional [COMMAND]\n\n" ++
  "Commands:\n" ++
  "  repl   Start the interactive evaluator (default)\n" ++
  "  check  Validate and evaluate a single condition\n" ++
  "  help   Print this message\n\n" ++
  "Options of check:\n" ++
  "  -i, --input <INPUT>  JSON object used as the scope (reads from stdin if piped)\n" ++
  "      --env            Expose environment variables as the env struct\n" ++
  "      --syntax-only    Only validate syntax, don't evaluate\n"

/-- The name and version of the program. -/
def versionText : String := "conditional 0.1.0\n"

/-- The outcome of a check. -/
def Check.outcome (check : Check) : Outcome :=
  match check.run with
  | .ok (.syntaxValid e) => { stdout := "Syntax is valid: " ++ e.render ++ "\n" }
  | .ok (.value _ v) => { stdout := v.display ++ "\n" }
  | .error error => { code := 1, stderr := error.message ++ "\n" }

/-- The outcome of a session that nobody watches. -/
def Transcript.outcome (t : Transcript) : Outcome :=
  if t.invalidText then
    { code := 1, stdout := t.output, stderr := CommandError.invalidText.message ++ "\n" }
  else { stdout := t.output }

/-- The scope of a session: the variables, under the name `env`. -/
def sessionScope (vars : Struct) : Struct := (∅ : Struct).insert "env" (.struct vars)

/-- Splits bytes at every zero byte. -/
def splitAtZero : List UInt8 → List (List UInt8)
  | [] => []
  | b :: bs =>
    match splitAtZero bs with
    | [] => [if b = 0 then [] else [b]]
    | part :: more => if b = 0 then [] :: part :: more else (b :: part) :: more

/-- The variable that bytes spell: a name of at least one byte, an equals sign and
a value. -/
def variableOfBytes? (bytes : List UInt8) : Option (ByteArray × ByteArray) :=
  match bytes with
  | [] => none
  | first :: rest =>
    match rest.dropWhile (· ≠ '='.toUInt8) with
    | [] => none
    | _ :: value =>
      some (⟨(first :: rest.takeWhile (· ≠ '='.toUInt8)).toArray⟩, ⟨value.toArray⟩)

/-- The variables of a process, each ended by a zero byte. -/
def variablesOfBytes (bytes : List UInt8) : List (ByteArray × ByteArray) :=
  (splitAtZero bytes).filterMap variableOfBytes?

namespace Command

/-- Whether a command reads the standard input. -/
def readsInput : Command → Bool
  | session | check _ none _ false => true
  | _ => false

/-- Carries out a command on some variables and a standard input. -/
def run (command : Command) (vars : List (ByteArray × ByteArray)) (stdin : ByteArray) :
    Outcome :=
  let vars := Struct.ofVariables (decodedVariables vars)
  match command with
  | help => { stdout := usage }
  | version => { stdout := versionText }
  | session =>
    (Session.run { scope := (sessionScope vars).get? } false stdin.toList).outcome
  | check condition input env syntaxOnly =>
    let check (input : Option String) : Check :=
      { condition, input, env := if env then some vars else none, syntaxOnly }
    match input, syntaxOnly with
    | none, false =>
      match String.fromUTF8? stdin with
      | some text => (check (some text)).outcome
      | none => { code := 1, stderr := CommandError.invalidText.message ++ "\n" }
    | input, _ => (check input).outcome

/-- The outcome of a command line. -/
def runArgs (args : List String) (vars : List (ByteArray × ByteArray)) (stdin : ByteArray) :
    Outcome :=
  match ofArgs args with
  | .ok command => command.run vars stdin
  | .error error => { code := 2, stderr := "error: " ++ error.message ++ "\n\n" ++ usage }

end Command

end StepCondition
