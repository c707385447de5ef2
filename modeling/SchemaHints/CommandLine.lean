/-
The command line: one schema file, whose hints go to standard output, and an option to narrate the
compilation. Arguments are taken from left to right, so the first that says something final, be it a
request for help or a mistake, decides.
-/
import SchemaHints.Session

namespace SchemaHints.CommandLine

/-- What the arguments ask for. -/
inductive Request
  | convert (path : String) (verbose : Bool)
  | help
  | version
  | mistaken
  deriving DecidableEq

/-- What a run leaves behind: its exit code, its output, and the lines on standard error; a run with
mistaken arguments says something of its own there. -/
structure Outcome where
  code : Nat
  output : String
  errors : Option (List String)

/-! ## Arguments -/

/-- The one-dash spelling of the long option is taken for it. -/
def normalize (arg : String) : String := if arg = "-verbose" then "--verbose" else arg

/-- Reads the letters of a short option; a flag may be given once. -/
def readLetters (verbose : Bool) : List Char → Except Request Bool
  | [] => .ok verbose
  | 'v' :: letters => if verbose then .error .mistaken else readLetters true letters
  | 'h' :: _ => .error .help
  | 'V' :: _ => .error .version
  | _ :: _ => .error .mistaken

/-- Takes the path, of which there is one. -/
def readPath (path : Option String) (arg : String) : Except Request (Option String) :=
  if path.isSome ∨ arg = "" then .error .mistaken else .ok (some arg)

/-- Reads arguments from left to right, given the path and the flag so far; `literal` says that only
paths are left. -/
def readFrom (literal : Bool) (path : Option String) (verbose : Bool) : List String → Except Request Request
  | [] => match path with
    | some path => .ok (.convert path verbose)
    | none => .error .mistaken
  | arg :: rest =>
    if literal then do
      let path ← readPath path arg
      readFrom true path verbose rest
    else match arg.toList with
      | ['-', '-'] => readFrom true path verbose rest
      | '-' :: '-' :: _ =>
        if arg = "--verbose" then
          if verbose then .error .mistaken else readFrom false path true rest
        else if arg = "--help" then .error .help
        else if arg = "--version" then .error .version
        else .error .mistaken
      | '-' :: c :: letters => do
        let verbose ← readLetters verbose (c :: letters)
        readFrom false path verbose rest
      | _ => do
        let path ← readPath path arg
        readFrom false path verbose rest

/-- What the arguments ask for. -/
def Request.read (args : List String) : Request :=
  match readFrom false none false (args.map normalize) with
  | .ok request | .error request => request

/-! ## Texts -/

/-- The name of the program. -/
def programName : String := "xsd2codemirror"

/-- The version of the program. -/
def programVersion : String := "0.1.0"

/-- The answer to a request for help. -/
def helpText : String :=
  "Convert an XSD schema to CodeMirror XML schema info\n\n"
    ++ "Usage: " ++ programName ++ " [OPTIONS] <XSD>\n\n"
    ++ "Arguments:\n  <XSD>  Path to the XSD schema file\n\n"
    ++ "Options:\n  -v, --verbose  Log progress to stderr\n"
    ++ "  -h, --help     Print help\n  -V, --version  Print version\n"

/-- The lines of a text; one that holds line feeds goes on over several. -/
def splitLines (text : String) : List String := (text.toList.splitOn '\n').map String.ofList

/-- The characters that stand for one in the narration: controls that a terminal could obey are
written by their code points. -/
def narratedChar (c : Char) : List Char :=
  let digits := Nat.toDigits 16 c.toNat
  if [0x07, 0x08, 0x0C, 0x1B, 0x7F].contains c.toNat then
    "\\x".toList ++ List.replicate (2 - digits.length) '0' ++ digits
  else if 0x80 ≤ c.toNat && c.toNat ≤ 0x9F then "\\u\x7b".toList ++ digits ++ ['\x7d']
  else [c]

/-- A line of the narration, as it is shown. -/
def shownLine (line : Nat × String) : List String :=
  splitLines ("DEBUG " ++ String.ofList (List.replicate (2 * line.1) ' ')
    ++ String.ofList (line.2.toList.flatMap narratedChar))

/-! ## Runs -/

/-- The outcome of converting a schema, from the hints or the fault and the lines of the logger. -/
def Outcome.ofResult (logger : Logger) : Result String → Outcome
  | .ok text => ⟨0, text ++ "\n", some (logger.lines.flatMap shownLine)⟩
  | .error e => ⟨1, "", some (logger.lines.flatMap shownLine ++ splitLines ("Error: " ++ e.message))⟩

/-- Shows the hints of the schema that a session compiled, unless that failed. -/
def Outcome.ofSession : Result Schema × Session → Outcome
  | (.error e, session) => .ofResult session.logger (.error e)
  | (.ok _, session) =>
    let (shapes, session) := session.shapes
    .ofResult session.logger (shapes.map fun graph => ShapeGraph.hintText graph true)

/-- Converts a schema file, asking for what is behind each path. -/
def convertWith {m : Type → Type} [Monad m] (ask : Path → m (Except FileFault Found)) (path : String)
    (verbose : Bool) : m Outcome := do
  let session := Session.new (.ofString path) .standard (.new (if verbose then some .recorder else none))
  let compiled ← Schema.compileFileWith ask session.options session.path
  pure (.ofSession (session.accept compiled))

/-- Runs the program, asking for what is behind each path. -/
def runWith {m : Type → Type} [Monad m] (ask : Path → m (Except FileFault Found)) (args : List String) :
    m Outcome :=
  match Request.read args with
  | .convert path verbose => convertWith ask path verbose
  | .help => pure ⟨0, helpText, some []⟩
  | .version => pure ⟨0, programName ++ " " ++ programVersion ++ "\n", some []⟩
  | .mistaken => pure ⟨2, "", none⟩

/-- Runs the program on a file system. -/
def run (files : Files) (args : List String) : Outcome :=
  Id.run (runWith (fun path => pure (files path)) args)

end SchemaHints.CommandLine
