import ActionBoard.Host.Path

/-!
# The host

What a program needs from the machine it runs on: files, environment variables, and the start of
another program.  These are questions of a dialogue, so a program that asks them can be run on a
real machine as well as on one that is only described (`Host.FileTree`).

Texts of errors are those that the operating system has for them.
-/

namespace ActionBoard

/-- Why something could not be done with a file. -/
inductive FileError where
  | notFound
  | notPermitted
  | exists
  | notDirectory
  | isDirectory
  | tooManyLinks
  | nameTooLong
  | notExecutable
  /-- A path with a null character in it is none. -/
  | nullCharacter
  /-- The bytes of a file are not those of a text. -/
  | notText
  | other (text : String)
  deriving DecidableEq

def FileError.message : FileError → String
  | notFound => "No such file or directory (os error 2)"
  | notPermitted => "Permission denied (os error 13)"
  | .exists => "File exists (os error 17)"
  | notDirectory => "Not a directory (os error 20)"
  | isDirectory => "Is a directory (os error 21)"
  | tooManyLinks => "Too many levels of symbolic links (os error 40)"
  | nameTooLong => "File name too long (os error 36)"
  | notExecutable => "Exec format error (os error 8)"
  | nullCharacter => "file name contained an unexpected NUL byte"
  | notText => "stream did not contain valid UTF-8"
  | other text => text

/-- How a program that was started came to its end. -/
inductive Ending where
  | exited (code : UInt8)
  | killed
  /-- It was killed because it did not end in the time it was given. -/
  | timedOut
  /-- Its end could not be waited for. -/
  | lost (error : FileError)
  deriving DecidableEq

/-- What is known of a program that was started. -/
structure ProcessReport where
  ending : Ending
  output : List UInt8
  errors : List UInt8

/-- What a program needs from its host. -/
inductive HostRequest where
  | readFile (path : String)
  /-- Where a path leads when every link is followed, if everything on the way exists. -/
  | realLocation (path : String)
  /-- Where one is, if there is such a place. -/
  | workingDirectory
  /-- Whether a path leads to a file that is not a directory. -/
  | isFile (path : String)
  | environmentVariable (name : String)
  /-- Makes a directory, and those above it that are missing. -/
  | makeDirectories (path : String)
  | writeFile (path content : String)
  /-- Starts a program with the path of a script as its only argument and without input, and waits
  for its end, but no longer than `limit` milliseconds. -/
  | launch (program script : String) (limit : Nat)

namespace HostRequest

abbrev Answer : HostRequest → Type
  | readFile _ => Except FileError ByteArray
  | realLocation _ => Option Location
  | workingDirectory => Option Location
  | isFile _ => Bool
  | environmentVariable _ => Option String
  | makeDirectories _ => Except FileError Unit
  | writeFile .. => Except FileError Unit
  | launch .. => Except FileError ProcessReport

end HostRequest

end ActionBoard
