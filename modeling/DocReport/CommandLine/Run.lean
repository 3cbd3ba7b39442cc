import DocReport.CommandLine.Command
import DocReport.CommandLine.Usage

/-!
A run of the program on its arguments. The name of the command is looked up first, then settings
and logger are set up, and only then are the arguments of the command looked at.
-/
namespace DocReport.CommandLine

open Files (Path)

/-- Ends a run with what there is to say about a wrong call. -/
def refuse (callee : Callee) (fault : UsageFault) (session : Session) : Outcome :=
  { session := (fault.report callee).foldl Session.complain session, exitCode := 2 }

/-- Ends a run that only asked for information. -/
def inform (callee : Callee) (inquiry : Switch) (session : Session) : Outcome :=
  { session :=
      if inquiry = .version then session.print version else session.printAll callee.help }

/-- Takes the arguments of a callee apart. A run ends here if they cannot be, or if they ask for
information. -/
def read (callee : Callee) (arguments : List Text) (session : Session) :
    Except Outcome Arguments :=
  match callee.grammar.parse arguments with
  | .error fault => .error (refuse callee (.argument fault) session)
  | .ok arguments =>
    match arguments.inquiry? with
    | some inquiry => .error (inform callee inquiry session)
    | none => .ok arguments

/-- The settings file that is asked for, which has to be there. -/
def settingsPath (arguments : Arguments) (session : Session) : Except UsageFault (Option Text) :=
  match arguments.value? .config with
  | none => .ok none
  | some path =>
    if path = [] ∨ !session.files.exists? (Path.ofText path) then .error (.noSuchSettings path)
    else if session.files.isDirectory (Path.ofText path) then .error (.settingsAreDirectory path)
    else .ok (some path)

/-- The arguments of the program itself, with the settings file that they ask for. -/
def readProgram (arguments : List Text) (session : Session) :
    Except Outcome (Arguments × Option Text) := do
  let arguments ← read .program arguments session
  match settingsPath arguments session with
  | .error fault => .error (refuse .program fault session)
  | .ok path => .ok (arguments, path)

/-- Loads the settings and sets the logger up. -/
def prepare (path : Option Text) (session : Session) : Except Outcome (Settings × Session) :=
  let settings := Settings.load session.files path
  let session := session.log settings.records
  match settings.value with
  | .error failure => .error { session, exitCode := 1, failure := some failure }
  | .ok settings =>
    match session.installLogger settings.logs with
    | (session, some failure) => .error { session, exitCode := 1, failure := some failure }
    | (session, none) => .ok (settings, session)

/-- Runs a command on its arguments. The project is in the working directory unless a path is
given. -/
def runCommand (callee : Callee) (settings : Settings) (arguments : List Text)
    (session : Session) : Outcome :=
  match read callee arguments session with
  | .error outcome => outcome
  | .ok arguments =>
    let root := arguments.words.head?.getD ['.']
    let surplus := arguments.words.drop 1
    if root = [] ∨ !session.files.exists? (Path.ofText root) then
      refuse callee (.noSuchPath root) session
    else if surplus ≠ [] then refuse callee (.surplus surplus) session
    else
      match callee with
      | .members => members settings root session
      | _ => generate settings root (arguments.value? .output) (arguments.has .dryRun) session

/-- Runs the program on its arguments. Without any it prints its help as an error. -/
def run (arguments : List Text) (session : Session) : Outcome :=
  if arguments = [] then
    { session := Callee.program.help.foldl Session.complain session, exitCode := 2 }
  else
    match readProgram arguments session with
    | .error outcome => outcome
    | .ok (given, path) =>
      match given.words with
      | [] => refuse .program .noCommand session
      | name :: rest =>
        match Callee.ofName? name with
        | none =>
          match readProgram (name :: rest) session with
          | .error outcome => outcome
          | .ok _ => refuse .program (.unknownCommand name) session
        | some callee =>
          match prepare path session with
          | .error outcome => outcome
          | .ok (settings, session) => runCommand callee settings rest session

end DocReport.CommandLine
