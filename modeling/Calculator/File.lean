/-!
# Files

What a name leads to, and what the operating system says where it leads to nothing that can be read.
-/

namespace Calculator

inductive FileError where
  | missing
  | denied
  | notDirectory
  | isDirectory
  | nameTooLong
deriving DecidableEq, Repr

namespace FileError

/-- The number that the operating system gives to an error. -/
def number : FileError → Nat
  | .missing => 2
  | .denied => 13
  | .notDirectory => 20
  | .isDirectory => 21
  | .nameTooLong => 36

def ofNumber? (n : Nat) : Option FileError :=
  [missing, denied, notDirectory, isDirectory, nameTooLong].find? fun e => e.number = n

def phrase : FileError → String
  | .missing => "No such file or directory"
  | .denied => "Permission denied"
  | .notDirectory => "Not a directory"
  | .isDirectory => "Is a directory"
  | .nameTooLong => "File name too long"

def message (e : FileError) : String :=
  e.phrase ++ " (os error " ++ Nat.repr e.number ++ ")"

end FileError

inductive File where
  | contents (bytes : List UInt8)
  /-- It cannot be opened, for this reason. -/
  | unopenable (reason : String)
  /-- It opens and cannot be read, for this reason. -/
  | unreadable (reason : String)
deriving DecidableEq, Repr

/-- A directory is the one thing that opens and cannot be read. -/
def FileError.file : FileError → File
  | .isDirectory => .unreadable FileError.isDirectory.message
  | e => .unopenable e.message

end Calculator
