import Calculator.File
import Calculator.Session
import Calculator.Token.Description

/-!
# The command line

Arguments are read from left to right, and the first that cannot be understood ends the reading,
as does the first that asks for help or for the version. Behind `--` nothing is an option.
-/

namespace Calculator

/-! ## Arguments -/

inductive Command where
  | converse
  | run (file : String) (dump : Bool)
  | tokens (source : String)
  | tree (source : String)
  | version
  | help
deriving DecidableEq, Repr

/-- What the arguments ask for, and whether all that goes on is to be told. -/
structure Request where
  command : Command
  trace : Bool
deriving DecidableEq, Repr

inductive UsageError where
  | unknown (argument : String)
  | repeated (option : String)
  | missing (operand : String)
deriving DecidableEq, Repr

def UsageError.message : UsageError → String
  | .unknown s => "unexpected argument '" ++ s ++ "'"
  | .repeated s => "'" ++ s ++ "' was given more than once"
  | .missing s => "no " ++ s ++ " was given"

namespace Command

/-- The commands that take one operand. -/
inductive Verb where
  | run
  | tokens
  | tree
deriving DecidableEq, Repr

namespace Verb

def ofWord? : String → Option Verb
  | "run" => some .run
  | "tokens" => some .tokens
  | "ast" => some .tree
  | _ => none

def operandName : Verb → String
  | .run => "FILE"
  | .tokens | .tree => "SOURCE"

def command (operand : String) (dump : Bool) : Verb → Command
  | .run => .run operand dump
  | .tokens => .tokens operand
  | .tree => .tree operand

end Verb

/-- An argument that begins with a minus is an option, except the minus alone. -/
def isOption (argument : String) : Bool :=
  argument.toList.head? = some '-' && argument ≠ "-"

/-- Short options stand in one word, and the first that acts hides the others. -/
def asksForHelp (argument : String) : Bool :=
  argument = "--help" || "-h".toList.isPrefixOf argument.toList

def asksForVersion (argument : String) : Bool :=
  argument = "--version" || "-V".toList.isPrefixOf argument.toList

/-- What was read behind a verb so far. -/
structure Operands where
  operand : Option String
  trace : Bool
  dump : Bool

/-- Takes an operand. There is room for one, and a file has to have a name. -/
def Operands.take (verb : Verb) (o : Operands) (argument : String) : Except UsageError Operands :=
  match o.operand with
  | some _ => .error (.unknown argument)
  | none =>
    if verb = .run ∧ argument = "" then .error (.missing verb.operandName)
    else .ok { o with operand := some argument }

def Operands.finish (o : Operands) (verb : Verb) : Except UsageError Request :=
  match o.operand with
  | none => .error (.missing verb.operandName)
  | some operand => .ok ⟨verb.command operand o.dump, o.trace⟩

/-- Reads what follows a verb. -/
def ofVerb (verb : Verb) (o : Operands) : List String → Except UsageError Request
  | [] => o.finish verb
  | "--" :: arguments => do
    let o ← arguments.foldlM (Operands.take verb) o
    o.finish verb
  | argument :: arguments =>
    if argument = "--trace" then
      if o.trace then .error (.repeated argument)
      else ofVerb verb { o with trace := true } arguments
    else if argument = "--dump-store" ∧ verb = .run then
      if o.dump then .error (.repeated argument)
      else ofVerb verb { o with dump := true } arguments
    else if asksForHelp argument then
      .ok ⟨.help, o.trace⟩
    else if isOption argument then
      .error (.unknown argument)
    else
      match o.take verb argument with
      | .error e => .error e
      | .ok o => ofVerb verb o arguments

/-- The words behind `help` name at most one command. -/
def ofHelp : List String → Except UsageError Command
  | [] => .ok .help
  | [word] =>
    if word = "help" || (Verb.ofWord? word).isSome then .ok .help else .error (.unknown word)
  | _ :: word :: _ => .error (.unknown word)

/-- Reads arguments. No verb means a conversation. An option may stand in front of the verb and
once more behind it. -/
def ofArguments (traced : Bool) : List String → Except UsageError Request
  | [] => .ok ⟨.converse, traced⟩
  | ["--"] => .ok ⟨.converse, traced⟩
  | "--" :: argument :: _ => .error (.unknown argument)
  | argument :: arguments =>
    if argument = "--trace" then
      if traced then .error (.repeated argument) else ofArguments true arguments
    else if asksForVersion argument then
      .ok ⟨.version, traced⟩
    else if asksForHelp argument then
      .ok ⟨.help, traced⟩
    else if argument = "help" then do
      return ⟨← ofHelp arguments, traced⟩
    else
      match Verb.ofWord? argument with
      | some verb => do
        let request ← ofVerb verb ⟨none, false, false⟩ arguments
        return { request with trace := traced || request.trace }
      | none => .error (.unknown argument)

end Command

/-! ## Running a command -/

structure Report where
  message : String
  cause : Option String
deriving DecidableEq, Repr

def Report.text (r : Report) : String :=
  let cause := match r.cause with
    | some cause => "\n\nCaused by:\n    " ++ cause
    | none => ""
  "Error: " ++ r.message ++ cause ++ "\n"

/-- How a program ends: its exit code, what it wrote, the events it told, and what it complains
about. -/
structure Ending where
  exitCode : Nat
  output : String
  log : List Event
  report : Option Report

namespace Ending

def success (output : String) (log : List Event) : Ending := ⟨0, output, log, none⟩

def failure (output : String) (log : List Event) (message : String) : Ending :=
  ⟨1, output, log, some ⟨message, none⟩⟩

/-- Wrong usage is not a failure of the program and has no report. -/
def misuse : Ending := ⟨2, "", [], none⟩

/-- The end of a session; `more` is written only if nothing went wrong. -/
def ofSession (r : SessionRun) (more : String) : Ending :=
  match r.failure? with
  | none => success (r.output ++ more) r.events
  | some e => failure r.output r.events e.message

/-- Tells nothing unless asked to. -/
def logging (traced : Bool) (e : Ending) : Ending :=
  if traced then e else { e with log := [] }

end Ending

def versionText : String := "calc-rs 0.1.0\n"

def helpText : String :=
  "Usage: calc [--trace] [COMMAND]\n\n" ++
  "Commands:\n" ++
  "  run FILE [--dump-store]  run a file, one statement at a time\n" ++
  "  tokens SOURCE            print the tokens of a statement\n" ++
  "  ast SOURCE               print the tree of a statement\n\n" ++
  "Without a command, statements are read from the standard input.\n"

namespace Command

def runFile (name : String) (dump : Bool) : File → Ending
  | .unopenable reason => ⟨1, "", [], some ⟨"could not open " ++ name, some reason⟩⟩
  | .unreadable reason => .failure "" [] (ReadError.refused reason).message
  | .contents bytes =>
    let r := Session.run false bytes .empty
    .ofSession r (if dump then r.store.dump else "")

def printTokens (source : String) : Ending :=
  match scan source with
  | .error e => .failure "" [] e.message
  | .ok ts => .success (String.join (ts.map fun t => t.description ++ "\n")) []

def printTree (source : String) : Ending :=
  match scan source with
  | .error e => .failure "" [] e.message
  | .ok ts =>
    let reply := read ts
    let log := reply.entries.map (Event.ofEntry (withoutComments ts).length)
    match reply.complete with
    | .error e => .failure "" log e.message
    | .ok e => .success (e.text ++ "\n") log

/-- Runs a command in a world of files, with `input` on the standard input. -/
def execute (files : String → File) (input : List UInt8) : Command → Ending
  | .converse => .ofSession (Session.run true input .empty) ""
  | .run file dump => runFile file dump (files file)
  | .tokens source => printTokens source
  | .tree source => printTree source
  | .version => .success versionText []
  | .help => .success helpText []

/-- Runs the whole program with these arguments. -/
def runProgram (files : String → File) (input : List UInt8) (arguments : List String) : Ending :=
  match ofArguments false arguments with
  | .error _ => .misuse
  | .ok request => (request.command.execute files input).logging request.trace

end Command

end Calculator
