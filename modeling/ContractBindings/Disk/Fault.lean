/-!
# Faults of the disk

Why an operation on files did not happen, in the words in which the operating system reports it.
-/

namespace ContractBindings.Disk

/-- What can go wrong with a file, a directory or a path. -/
inductive Fault where
  | notPermitted
  | notFound
  | noDevice
  | tooLarge
  | notExecutable
  | badStream
  | permissionDenied
  | alreadyExists
  | notDirectory
  | isDirectory
  | invalid
  | noSpace
  | nameTooLong
  | notEmpty
  /-- More symbolic links than one path may lead through. -/
  | tooManyLinks
  /-- The bytes of a file are not text. -/
  | notText
  /-- The path holds the character that ends texts for the operating system. -/
  | nulInPath
  deriving DecidableEq, Repr

namespace Fault

/-- What the operating system calls a fault. -/
def reason : Fault → String
  | notPermitted => "Operation not permitted"
  | notFound => "No such file or directory"
  | noDevice => "No such device or address"
  | tooLarge => "Argument list too long"
  | notExecutable => "Exec format error"
  | badStream => "Bad file descriptor"
  | permissionDenied => "Permission denied"
  | alreadyExists => "File exists"
  | notDirectory => "Not a directory"
  | isDirectory => "Is a directory"
  | invalid => "Invalid argument"
  | noSpace => "No space left on device"
  | nameTooLong => "File name too long"
  | notEmpty => "Directory not empty"
  | tooManyLinks => "Too many levels of symbolic links"
  | notText => "stream did not contain valid UTF-8"
  | nulInPath => "file name contained an unexpected NUL byte"

/-- The number that the operating system has for a fault. The last two are found without it. -/
def number? : Fault → Option Nat
  | notPermitted => some 1
  | notFound => some 2
  | noDevice => some 6
  | tooLarge => some 7
  | notExecutable => some 8
  | badStream => some 9
  | permissionDenied => some 13
  | alreadyExists => some 17
  | notDirectory => some 20
  | isDirectory => some 21
  | invalid => some 22
  | noSpace => some 28
  | nameTooLong => some 36
  | notEmpty => some 39
  | tooManyLinks => some 40
  | notText | nulInPath => none

/-- The wording of a fault. -/
def message (f : Fault) : String :=
  match f.number? with
  | some n => f.reason ++ " (os error " ++ toString n ++ ")"
  | none => f.reason

end Fault

end ContractBindings.Disk
