/-
The program: asks the file system for what the command line wants to know, and writes the outcome.
-/
import SchemaHints.CommandLine

namespace SchemaHints.CommandLine

/-- The number and the words of an error of the operating system. -/
def systemError : IO.Error → UInt32 × String
  | .noFileOrDirectory _ code words | .inappropriateType _ code words | .permissionDenied _ code words
  | .invalidArgument _ code words | .resourceExhausted _ code words | .alreadyExists _ code words
  | .noSuchThing _ code words => (code, words)
  | .resourceBusy code words | .resourceVanished code words | .unsupportedOperation code words
  | .hardwareFault code words | .unsatisfiedConstraints code words | .illegalOperation code words
  | .protocolError code words | .timeExpired code words | .otherError code words => (code, words)
  | .interrupted _ code words => (code, words)
  | .unexpectedEof => (0, "unexpected end of file")
  | .userError words => (0, words)

/-- The fault of a path that an error of the operating system stands for. -/
def fileFault (e : IO.Error) : FileFault :=
  match systemError e with
  | (2, _) => .missing
  | (20, _) => .notDirectory
  | (21, _) => .isDirectory
  | (36, _) => .nameTooLong
  | (code, words) => .other (words ++ " (os error " ++ toString code ++ ")")

/-- The bytes of a file. -/
def readBytes (path : String) : IO (Except FileFault Bytes) := do
  match ← (IO.FS.readBinFile path).toBaseIO with
  | .ok content => pure (.ok content.toList)
  | .error e => pure (.error (fileFault e))

/-- What is behind a path that is text. Resolving a path does not tell why it fails, but opening it
does. -/
def askSystemAt (path : String) : IO (Except FileFault Found) := do
  match ← (IO.FS.realPath path).toBaseIO with
  | .ok canonical => pure (.ok ⟨.ofString canonical.toString, ← readBytes canonical.toString⟩)
  | .error _ => match ← (IO.FS.Handle.mk path .read).toBaseIO with
    | .error e => pure (.error (fileFault e))
    | .ok _ => pure (.error .missing)

/-- What is behind a path. Only paths that are text can be asked for, so nothing is behind any other. -/
def askSystem (path : Path) : IO (Except FileFault Found) :=
  if path.bytes.contains 0 then pure (.error .nulInPath)
  else match String.fromUTF8? (Bytes.toByteArray path.bytes) with
    | some text => askSystemAt text
    | none => pure (.error .missing)

end SchemaHints.CommandLine

/-- Runs the program on the arguments given to it. -/
def main (args : List String) : IO UInt32 := do
  let outcome ← SchemaHints.CommandLine.runWith SchemaHints.CommandLine.askSystem args
  let errors := outcome.errors.getD ["Error: the arguments are one path and options; --help lists them"]
  errors.forM IO.eprintln
  IO.print outcome.output
  pure outcome.code.toUInt32
