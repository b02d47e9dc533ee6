import ThreeAddress.Draft
import ThreeAddress.Diagnostic.Report
import ThreeAddress.Text.Similarity
import ThreeAddress.Xml.Document

/-!
# The command line

The program is a filter: it reads a source from standard input and writes the document to standard
output, or a diagnostic to standard error. Nothing can be asked of it but help and its version.

What is to be done depends on the arguments alone (`Request.ofArguments`), what is answered on that,
the input and whether standard output can be written (`respond`). All of it is a function; the
program around it only moves bytes.
-/

namespace ThreeAddress

/-- The name of the program. -/
def programName : Text := "parse".toList

/-- The name and the version of the program. -/
def versionText : Text := programName ++ " 0.1.0".toList

/-- The name of standard input in a diagnostic. -/
def inputName : Text := "<stdin>".toList

/-- How the program is called. -/
def usageText : Text := "USAGE:\n    ".toList ++ programName

/-- What the program is for, broken into lines. -/
def aboutText : Text :=
  List.intercalate ['\n'] <| List.map String.toList <|
    ["Reads source code in IPPcode24 from standard input, checks its lexical and syntactic " ++
      "correctness, and writes the XML",
     "representation of the program to standard output."]

/-- The flags and what they do. -/
def flagsText : Text :=
  List.intercalate ['\n'] <| List.map String.toList <|
    ["FLAGS:",
     "    -h, --help       Prints help information",
     "    -V, --version    Prints version information"]

/-- What the exit codes mean, broken into lines. -/
def exitCodesText : Text :=
  List.intercalate ['\n'] <| List.map String.toList <|
    ["Exit codes: 10 invalid arguments, 11 unreadable input, 12 unwritable output, " ++
      "21 missing or incorrect header, 22 unknown",
     "opcode, 23 other lexical or syntax error, 99 internal error."]

/-- The help. -/
def helpText : Text :=
  versionText ++ ['\n'] ++
    List.intercalate ['\n', '\n'] [aboutText, usageText, flagsText, exitCodesText]

/-! ### What is asked -/

/-- What the arguments ask for. -/
inductive Request
  | help
  | version
  /-- To check a source and write its document. -/
  | filter
  /-- Nothing that makes sense, for the reason given. -/
  | refused (reason : Text)
  deriving DecidableEq, Repr

/-- The long flags. -/
def longFlags : List (Text × Request) := [("help".toList, .help), ("version".toList, .version)]

/-- The short flags. -/
def shortFlags : List (Char × Request) := [('h', .help), ('V', .version)]

/-- Why an argument is refused. If it resembles a long flag, that flag is suggested. -/
def unexpectedArgument (argument : Text) (suggestion? : Option Text) : Text :=
  "error: Found argument '".toList ++ argument ++
    "' which wasn't expected, or isn't valid in this context".toList ++
    (match suggestion? with
    | some flag =>
      "\n\tDid you mean \x1b[32m--\x1b[0m\x1b[32m".toList ++ flag ++ "\x1b[0m?".toList
    | none => []) ++
    "\n\n".toList ++ usageText ++
    (match suggestion? with
    | some flag => " --".toList ++ flag
    | none => []) ++
    "\n\nFor more information try --help".toList

/-- What a long flag asks for. Everything from an equality sign on is disregarded. -/
def Request.ofLongFlag (flag : Text) : Request :=
  let name := flag.takeWhile (· != '=')
  match longFlags.lookup name with
  | some request => request
  | none =>
    .refused <| unexpectedArgument ("--".toList ++ name) (Text.closest? name (longFlags.map (·.1)))

/-- What a group of short flags asks for: its first flag decides. -/
def Request.ofShortFlags : Text → Request
  | [] => .filter
  | c :: _ =>
    match shortFlags.lookup c with
    | some request => request
    | none => .refused (unexpectedArgument ['-', c] none)

/-- What one argument asks for. Any number of dashes introduces a flag, a single one a group of
short flags; two dashes alone are no argument, and a dash alone is an argument and no flag. -/
def Request.ofArgument (argument : Text) : Request :=
  let name := argument.dropWhile (· == '-')
  match argument with
  | ['-', '-'] => .filter
  | '-' :: '-' :: _ => ofLongFlag name
  | '-' :: _ :: _ => ofShortFlags name
  | _ => .refused (unexpectedArgument argument none)

/-- What the arguments ask for. -/
def Request.ofArguments : List Text → Request
  | [] => .filter
  | [argument] => ofArgument argument
  | _ =>
    .refused <|
      "error: ".toList ++ programName ++ " takes at most one argument, --help or --version".toList

/-! ### What is answered -/

/-- What standard output does with what is written to it. -/
inductive StandardOutput
  | accepts
  /-- Nothing can be written, for the reason given. -/
  | refuses (reason : Text)
  deriving DecidableEq, Repr

/-- What the program answers. -/
structure Response where
  /-- The exit code. -/
  exitCode : Nat
  /-- What gets to standard output. -/
  stdout : Text
  /-- What gets to standard error. -/
  stderr : Text
  deriving DecidableEq, Repr

namespace Response

/-- The answer of a run that succeeds with a text. -/
def success (text : Text) : Response := ⟨0, text, []⟩

/-- What is written to standard error about a failure. -/
def complaint : Failure → Text
  | .invalidInvocation detail => detail
  | .source fault location? => (Failure.source fault location?).render (some inputName) false
  | failure => "error: ".toList ++ failure.message

/-- The answer of a run that fails. -/
def failure (e : Failure) : Response := ⟨e.exitCode, [], complaint e ++ ['\n']⟩

end Response

/-- The answer to a source in the given bytes. -/
def respondToSource (output : StandardOutput) (bytes : ByteArray) : Response :=
  match Program.ofBytes bytes with
  | .error e => .failure e
  | .ok p =>
    match output with
    | .accepts => .success p.toXml
    | .refuses reason => .failure (.output reason)

/-- What is said when the version cannot be written. The reason is not passed on. -/
def unwritableVersion : Text := "error: description() is deprecated; use Display".toList

/-- The answer to some arguments, when standard input holds the given bytes. A version that cannot
be written counts as an invalid invocation, help that cannot be written as an internal error. -/
def respond (output : StandardOutput) (arguments : List Text) (input : ByteArray) : Response :=
  match Request.ofArguments arguments, output with
  | .filter, _ => respondToSource output input
  | .refused reason, _ => .failure (.invalidInvocation reason)
  | .help, .accepts => .success (helpText ++ ['\n'])
  | .version, .accepts => .success versionText
  | .version, .refuses _ => .failure (.invalidInvocation unwritableVersion)
  | .help, .refuses reason =>
    ⟨99, [], "failed printing to stdout: ".toList ++ reason ++ ['\n']⟩

end ThreeAddress
