import Calculator.Evaluation
import Calculator.Expr.Parse
import Calculator.Token.Scan

/-!
# Interpreting statements

A source is scanned, parsed and evaluated, and the first stage to fail ends it. Each stage that
succeeds leaves an event, and so do the productions entered and the variables written on the way.
-/

namespace Calculator

inductive Error where
  | scan (cause : ScanError)
  | parse (cause : ParseError)
  | eval (cause : EvalError)
deriving DecidableEq

namespace Error

/-- The error without the stage that it arose in. -/
def causeMessage : Error → String
  | .scan e => e.message
  | .parse e => e.message
  | .eval e => e.message

def stage : Error → String
  | .scan _ => "lex error"
  | .parse _ => "parse error"
  | .eval _ => "eval error"

def message (e : Error) : String := e.stage ++ ": " ++ e.causeMessage

end Error

/-- How closely a run has to be watched for an event to be told. -/
inductive Severity where
  | debug
  | trace
deriving DecidableEq, Repr

def Severity.text : Severity → String
  | .debug => "DEBUG"
  | .trace => "TRACE"

inductive Event where
  | scanned (tokens : Nat)
  | entered (production : Production) (position : Nat)
  | parsed (tree : Expr)
  | stored (name : String) (value : Value)
  | evaluated (value : Value)
deriving DecidableEq

namespace Event

def level : Event → Severity
  | .entered _ _ | .stored _ _ => .trace
  | .scanned _ | .parsed _ | .evaluated _ => .debug

/-- The part of the program that an event comes from. -/
def target : Event → String
  | .entered _ _ => "calc_rs::parser"
  | .stored _ _ => "calc_rs::store"
  | .scanned _ | .parsed _ | .evaluated _ => "calc_rs::engine"

def message : Event → String
  | .scanned _ => "scanned statement"
  | .entered p _ => p.text
  | .parsed _ => "parsed statement"
  | .stored _ _ => "store"
  | .evaluated _ => "evaluated statement"

/-- What an event carries, each part with its name. -/
def fields : Event → List (String × String)
  | .scanned n => [("tokens", natText n)]
  | .entered _ n => [("position", natText n)]
  | .parsed e => [("ast", e.text)]
  | .stored s v => [("variable", s), ("value", v.text)]
  | .evaluated v => [("value", v.text)]

def fieldsText (e : Event) : String :=
  String.intercalate " " (e.fields.map fun (name, text) => name ++ "=" ++ text)

/-- A line of the log. -/
def line (e : Event) : String :=
  e.level.text ++ " " ++ e.target ++ ": " ++ e.message ++ " " ++ e.fieldsText

/-- The entry of a production as an event, by the tokens that stand before it. -/
def ofEntry (total : Nat) (e : Entry) : Event := .entered e.production (e.position total)

end Event

/-- What interpreting one statement comes to. -/
structure Run where
  result : Except Error Value
  store : Store
  events : List Event

def interpret (source : String) (st : Store) : Run :=
  match scan source with
  | .error e => ⟨.error (.scan e), st, []⟩
  | .ok tokens =>
    let reply := read tokens
    let total := (withoutComments tokens).length
    let events := .scanned tokens.length :: reply.entries.map (Event.ofEntry total)
    match reply.complete with
    | .error e => ⟨.error (.parse e), st, events⟩
    | .ok tree =>
      let evaluation := tree.evaluate st
      let events := events ++ .parsed tree :: evaluation.writes.map fun (s, v) => .stored s v
      match evaluation.result with
      | .error e => ⟨.error (.eval e), evaluation.store, events⟩
      | .ok v => ⟨.ok v, evaluation.store, events ++ [.evaluated v]⟩

/-- Interprets statements one after the other, each with the store that the one before it left.
Neither an error nor `quit` stops it. -/
def interpretAll : List String → Store → List Run
  | [], _ => []
  | source :: sources, st =>
    let run := interpret source st
    run :: interpretAll sources run.store

end Calculator
