import Calculator.CommandLine

/-!
# The program

Reads files and the standard input, and writes what the commands come to. A conversation takes the
turns of a session one by one, as its lines come in.
-/

namespace Calculator

/-- The number that the operating system gave to an error. Some calls hand it on with its sign
turned. -/
def errorNumber? : IO.Error → Option Nat
  | .noFileOrDirectory _ n _ | .permissionDenied _ n _ | .inappropriateType _ n _
  | .invalidArgument _ n _ => some n.toInt32.toInt.natAbs
  | _ => none

/-- What the file system has under a name. -/
def lookUpFile (name : String) : IO File := do
  try
    return .contents (← IO.FS.readBinFile name).toList
  catch e =>
    match (errorNumber? e).bind FileError.ofNumber? with
    | some known => return known.file
    | none => return .unopenable (toString e)

/-- Where a program writes, and whether it tells its events there. -/
structure Console where
  output : IO.FS.Stream
  errors : IO.FS.Stream
  traced : Bool

namespace Console

def write (c : Console) (texts : List String) : IO Unit := do
  texts.forM c.output.putStr
  c.output.flush

def tell (c : Console) (events : List Event) : IO Unit := do
  if c.traced then events.forM fun e => c.errors.putStrLn e.line

end Console

/-- The bytes of the next line with its end. There are none at the end of the input. -/
partial def readLine (input : IO.FS.Stream) (reversed : List UInt8) : IO (List UInt8) := do
  match (← input.read 1).toList with
  | [] => return reversed.reverse
  | b :: _ =>
    if b = lineFeed then return (b :: reversed).reverse
    else readLine input (b :: reversed)

/-- Takes turn after turn until one closes the session, and leaves to its end what that one
wrote. -/
partial def converse (input : IO.FS.Stream) (c : Console) (s : Session) : IO Ending := do
  match linesOf (← readLine input []) with
  | [] => return .ofSession s.exhausted ""
  | line :: _ =>
    match s.turn true line with
    | .closes last => return .ofSession last ""
    | .goesOn written events session =>
      c.tell events
      c.write written
      converse input c session

def perform (input : IO.FS.Stream) (c : Console) : Command → IO Ending
  | .converse => do
    let s := Session.start .empty
    c.write (s.prompts true)
    converse input c s
  | .run name dump => return Command.runFile name dump (← lookUpFile name)
  | command => return command.execute (fun _ => FileError.missing.file) []

end Calculator

open Calculator in
def main (arguments : List String) : IO UInt32 := do
  let errors ← IO.getStderr
  match Command.ofArguments false arguments with
  | .error e =>
    errors.putStrLn ("error: " ++ e.message)
    return 2
  | .ok request =>
    let c : Console := ⟨← IO.getStdout, errors, request.trace⟩
    let ending ← perform (← IO.getStdin) c request.command
    c.tell ending.log
    c.write [ending.output]
    if let some r := ending.report then errors.putStr r.text
    return ending.exitCode.toUInt32
