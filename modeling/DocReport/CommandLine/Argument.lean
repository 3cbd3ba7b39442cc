import DocReport.Text.Basic

/-!
Arguments of a command line: switches, some of which take a value, and words. A value follows its
switch as the next argument or in the same one, and two hyphens end the switches.
-/
namespace DocReport.CommandLine

/-- What a switch asks for. -/
inductive Switch where
  | help | version | config | output | dryRun
  deriving DecidableEq, Repr

/-- How a switch is written. -/
structure Spelling where
  switch : Switch
  names : List Text
  takesValue : Bool := false
  deriving DecidableEq, Repr

/-- The switches of a command. If words and switches may be mixed, a word does not end the
switches. -/
structure Grammar where
  spellings : List Spelling
  mixed : Bool := true

/-- A switch that was given, with its value. -/
structure Given where
  switch : Switch
  value : Text := []
  deriving DecidableEq, Repr

/-- Arguments taken apart, each kind in the order given. -/
structure Arguments where
  switches : List Given := []
  words : List Text := []
  deriving DecidableEq, Repr

/-- Why arguments cannot be taken apart. -/
inductive ArgumentFault where
  | unknown (name : Text)
  | valueMissing (name : Text)
  | valueRefused (name : Text)
  deriving DecidableEq, Repr

/-- What one argument holds: switches, and at the end maybe one whose value is the next argument. -/
structure Reading where
  switches : List Given
  awaiting : Option (Switch × Text) := none
  deriving DecidableEq, Repr

namespace Grammar

/-- The spelling of a name. -/
def find? (g : Grammar) (name : Text) : Option Spelling :=
  g.spellings.find? fun spelling => spelling.names.any (· == name)

/-- Reads switches that are one letter each; the rest of the argument after one that takes a value
is the value. -/
def readLetters (g : Grammar) : Text → Except ArgumentFault Reading
  | [] => .ok { switches := [] }
  | c :: rest =>
    let name := ['-', c]
    match g.find? name with
    | none => .error (.unknown name)
    | some spelling =>
      if spelling.takesValue then
        if rest = [] then .ok { switches := [], awaiting := some (spelling.switch, name) }
        else .ok { switches := [⟨spelling.switch, rest⟩] }
      else do
        let others ← g.readLetters rest
        .ok { others with switches := ⟨spelling.switch, []⟩ :: others.switches }

/-- Reads an argument that starts with a hyphen: one long name, after which an equals sign and a
value may stand, or letters. -/
def read (g : Grammar) (argument : Text) : Except ArgumentFault Reading :=
  if ['-', '-'].isPrefixOf argument then
    let (name, value) := Text.cutFirst '=' argument
    match g.find? name with
    | none => .error (.unknown name)
    | some spelling =>
      match spelling.takesValue, value with
      | true, some value => .ok { switches := [⟨spelling.switch, value⟩] }
      | true, none => .ok { switches := [], awaiting := some (spelling.switch, name) }
      | false, some _ => .error (.valueRefused name)
      | false, none => .ok { switches := [⟨spelling.switch, []⟩] }
  else g.readLetters (argument.drop 1)

/-- Takes arguments apart. -/
def parse (g : Grammar) : List Text → Except ArgumentFault Arguments
  | [] => .ok {}
  | argument :: rest =>
    if argument = ['-', '-'] then .ok { words := rest }
    else if argument.head? = some '-' ∧ 1 < argument.length then
      match g.read argument with
      | .error fault => .error fault
      | .ok { switches, awaiting := none } => do
        let others ← g.parse rest
        .ok { others with switches := switches ++ others.switches }
      | .ok { switches, awaiting := some (switch, name) } =>
        match rest with
        | [] => .error (.valueMissing name)
        | value :: rest => do
          let others ← g.parse rest
          .ok { others with switches := switches ++ ⟨switch, value⟩ :: others.switches }
    else if g.mixed then do
      let others ← g.parse rest
      .ok { others with words := argument :: others.words }
    else .ok { words := argument :: rest }

end Grammar

namespace Arguments

/-- Whether a switch is given. -/
def has (a : Arguments) (switch : Switch) : Bool :=
  a.switches.any fun given => given.switch == switch

/-- The value given last for a switch. -/
def value? (a : Arguments) (switch : Switch) : Option Text :=
  (a.switches.reverse.find? fun given => given.switch == switch).map (·.value)

/-- The first switch given that only asks for information. -/
def inquiry? (a : Arguments) : Option Switch :=
  (a.switches.find? fun given => given.switch == .help || given.switch == .version).map (·.switch)

end Arguments

end DocReport.CommandLine
