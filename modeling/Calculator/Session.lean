import Calculator.Interpreter
import Calculator.Session.Buffer
import Calculator.Session.Lines

/-!
# Sessions

A session reads lines until they end, one of them quits, or one is not text. Every statement is
answered by one line. Prompts change nothing but the output. A session takes one turn for each line,
whether the lines are all there or are still being written.
-/

namespace Calculator

/-- Why an input could not be read to its end. -/
inductive ReadError where
  | notUtf8
  /-- The system refused, and this is what it said. -/
  | refused (reason : String)
deriving DecidableEq, Repr

def ReadError.message : ReadError → String
  | .notUtf8 => "stream did not contain valid UTF-8"
  | .refused reason => reason

structure Session where
  store : Store
  buffer : StatementBuffer

/-- What one line of a session comes to. -/
structure Step where
  output : String
  events : List Event
  /-- Whether the line ends the session. -/
  ended : Bool
  session : Session

/-- How a session comes to its end. -/
inductive Closing where
  /-- There are no further lines; a statement may be left unfinished. -/
  | exhausted (unfinished : StatementBuffer)
  | quit
  | failed (e : ReadError)
deriving DecidableEq, Repr

/-- What a whole session comes to. The texts were written one after the other, and the events told
beside them. -/
structure SessionRun where
  written : List String
  events : List Event
  closing : Closing
  store : Store

namespace SessionRun

def output (r : SessionRun) : String := String.join r.written

def failure? (r : SessionRun) : Option ReadError :=
  match r.closing with
  | .failed e => some e
  | _ => none

/-- The same run behind what was written and told before it. -/
def behind (texts : List String) (events : List Event) (r : SessionRun) : SessionRun :=
  { r with written := texts ++ r.written, events := events ++ r.events }

end SessionRun

/-- What a line makes of a session: it goes on, or that was its last line. -/
inductive Turn where
  | goesOn (written : List String) (events : List Event) (session : Session)
  | closes (last : SessionRun)

namespace Session

def start (st : Store) : Session := ⟨st, .empty⟩

/-- How the result of a statement is answered; `none` where it ends the session. -/
def answer? : Except Error Value → Option String
  | .ok .quit => none
  | .ok v => some (v.text ++ "\n")
  | .error e => some ("error: " ++ e.message ++ "\n")

def step (s : Session) (line : String) : Step :=
  let (pushed, buffer) := s.buffer.push line
  match pushed with
  | .pending => ⟨"", [], false, ⟨s.store, buffer⟩⟩
  | .quit => ⟨"", [], true, ⟨s.store, buffer⟩⟩
  | .statement source =>
    let run := interpret source s.store
    match answer? run.result with
    | some text => ⟨text, run.events, false, ⟨run.store, buffer⟩⟩
    | none => ⟨"", run.events, true, ⟨run.store, buffer⟩⟩

/-- What asks for the next line: a sign where a statement may begin, and nothing within one. -/
def prompt (s : Session) : String := if s.buffer.isBlank then "> " else ""

/-- The texts that ask for the next line, if anyone is asked. -/
def prompts (interactive : Bool) (s : Session) : List String :=
  if interactive then [s.prompt] else []

/-- What a session comes to that finds no further line. -/
def exhausted (s : Session) : SessionRun := ⟨[], [], .exhausted s.buffer, s.store⟩

def turn (interactive : Bool) (s : Session) (line : List UInt8) : Turn :=
  match decodeLine line with
  | none => .closes ⟨[], [], .failed .notUtf8, s.store⟩
  | some text =>
    let step := s.step text
    if step.ended then .closes ⟨[step.output], step.events, .quit, step.session.store⟩
    else .goesOn (step.output :: step.session.prompts interactive) step.events step.session

def runLines (interactive : Bool) (s : Session) : List (List UInt8) → SessionRun
  | [] => s.exhausted
  | line :: lines =>
    match s.turn interactive line with
    | .closes last => last
    | .goesOn written events session => (runLines interactive session lines).behind written events

/-- A session over an input, with the variables of `st`. -/
def run (interactive : Bool) (input : List UInt8) (st : Store) : SessionRun :=
  let s := start st
  (runLines interactive s (linesOf input)).behind (s.prompts interactive) []

end Session

end Calculator
