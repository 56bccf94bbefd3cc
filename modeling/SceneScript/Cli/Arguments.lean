import SceneScript.Cli.Invocation

/-
  Reading command lines.

  Key definitions include:
    * `Cli.Parameter`
    * `Cli.Verb`
    * `Cli.Values`
    * `Cli.Values.set`
    * `Cli.Scan`
    * `Cli.Scan.step`
    * `Cli.Invocation.ofArguments`

  A command line is read from left to right, and the first
  mistake decides.  The value of an option that stands in an
  argument of its own is judged when the next option is met
  or the line ends.
-/

namespace SceneScript

namespace Cli

------------------------------------------------------------
-- Parameters
------------------------------------------------------------

/- Something that can be given on the command line. -/
inductive Parameter where
| file
| input
| directory
| left
| right
| context
| format
| listing
| overwrite
| requireEnd
deriving DecidableEq, Repr

namespace Parameter

/- The name behind two dashes. -/
def long : Parameter → String
| file => "file"
| input => "input"
| directory => "directory"
| left => "left"
| right => "right"
| context => "context"
| format => "format"
| listing => "kind"
| overwrite => "overwrite"
| requireEnd => "require-end"

/- The letter behind one dash. -/
def short? : Parameter → Option Char
| file => some 'f'
| input => some 'i'
| directory => some 'd'
| left => some 'l'
| right => some 'r'
| context => some 'c'
| listing => some 'k'
| format | overwrite | requireEnd => none

/- The parameter has a value, otherwise it is a switch. -/
def hasValue : Parameter → Bool
| overwrite | requireEnd => false
| _ => true

end Parameter

------------------------------------------------------------
-- Values
------------------------------------------------------------

/- What has been given on the command line. -/
structure Values where
  given : List Parameter
  file? : Option Path
  input? : Option Path
  directory? : Option Path
  left? : Option Path
  right? : Option Path
  context? : Option Nat
  format? : Option Format
  listing? : Option Listing
deriving Repr

namespace Values

/- Nothing is given. -/
def empty : Values where
  given := []
  file? := none
  input? := none
  directory? := none
  left? := none
  right? := none
  context? := none
  format? := none
  listing? := none

/- A path that is given, which cannot be empty. -/
def path (text : Text) : Except UsageError Path :=
  if text = [] then
    .error .invalidValue
  else
    .ok { text }

/- The largest number that can be given. -/
def maxNumber : Nat := Nat.pow 2 64 - 1

/- A number that is given, possibly with a plus sign. -/
def number (text : Text) : Except UsageError Nat :=
  let digits : Text :=
    match text with
    | '+' :: rest => rest
    | _ => text
  let value :=
    digits.foldl
      (fun value c => 10 * value + (c.toNat - '0'.toNat)) 0
  if digits ≠ [] ∧ digits.all Char.isDigit ∧
      value ≤ maxNumber then
    .ok value
  else
    .error .invalidNumber

/- One of a few words. -/
def choice
    {α : Type}
    (ofWord? : String → Option α)
    (text : Text) : Except UsageError α :=
  match ofWord? (String.ofList text) with
  | some value => .ok value
  | none => .error .invalidValue

/- Note a parameter that is given only once. -/
def mark
    (values : Values)
    (parameter : Parameter) : Except UsageError Values :=
  if parameter ∈ values.given then
    .error .repeated
  else
    .ok { values with given := parameter :: values.given }

/- Add a parameter with its value. -/
def set
    (values : Values)
    (parameter : Parameter)
    (text : Text) : Except UsageError Values := do
  let values ← values.mark parameter
  match parameter with
  | .file => return { values with file? := some (← path text) }
  | .input => return { values with input? := some (← path text) }
  | .directory =>
      return { values with directory? := some (← path text) }
  | .left => return { values with left? := some (← path text) }
  | .right => return { values with right? := some (← path text) }
  | .context =>
      return { values with context? := some (← number text) }
  | .format =>
      let format ← choice Format.ofWord? text
      return { values with format? := some format }
  | .listing =>
      let listing ← choice Listing.ofWord? text
      return { values with listing? := some listing }
  | .overwrite | .requireEnd => return values

/- A switch is given. -/
def has
    (values : Values)
    (parameter : Parameter) : Bool :=
  parameter ∈ values.given

/- A value that has to be given. -/
def required
    {α : Type}
    (value? : Option α) : Except UsageError α :=
  match value? with
  | some value => .ok value
  | none => .error .missingArgument

end Values

------------------------------------------------------------
-- Verbs
------------------------------------------------------------

/- The commands of the tool. -/
inductive Verb where
| dumpScript
| buildScript
| checkScripts
| diffScripts
| dumpTable
| listNames
deriving DecidableEq, Repr

namespace Verb

/- The parameters of a command. -/
def parameters : Verb → List Parameter
| dumpScript => [.file, .format, .requireEnd]
| buildScript => [.input, .file, .overwrite]
| checkScripts => [.directory, .requireEnd]
| diffScripts => [.left, .right, .context]
| dumpTable => [.file, .format]
| listNames => [.listing]

/- The unchanged commands that a comparison usually shows. -/
def usualContext : Nat := 2

/- The invocation that a command makes of its values. -/
def invocation
    (values : Values) : Verb → Except UsageError Invocation
| dumpScript => do
    let file ← Values.required values.file?
    return .dumpScript file (values.format?.getD .text)
      (values.has .requireEnd)
| buildScript => do
    let input ← Values.required values.input?
    let file ← Values.required values.file?
    return .buildScript input file (values.has .overwrite)
| checkScripts => do
    let directory ← Values.required values.directory?
    return .checkScripts directory (values.has .requireEnd)
| diffScripts => do
    let left ← Values.required values.left?
    let right ← Values.required values.right?
    return .diffScripts left right
      (values.context?.getD usualContext)
| dumpTable => do
    let file ← Values.required values.file?
    return .dumpTable file (values.format?.getD .text)
| listNames => return .listNames values.listing?

end Verb

------------------------------------------------------------
-- Scanning
------------------------------------------------------------

/- An option whose value is not judged yet. -/
structure Pending where
  parameter : Parameter
  value? : Option Text

/-
  A command line that is being read.  Behind two dashes no
  argument is an option.
-/
structure Scan where
  values : Values
  pending? : Option Pending
  positional : Bool

namespace Scan

/- A command line of which nothing is read. -/
def start : Scan where
  values := .empty
  pending? := none
  positional := false

/- Judge the value of the last option. -/
def settle (scan : Scan) : Except UsageError Scan :=
  match scan.pending? with
  | none => .ok scan
  | some { parameter, value? := some text } => do
      let values ← scan.values.set parameter text
      return { scan with values, pending? := none }
  | some { parameter := _, value? := none } =>
      .error .invalidValue

/-
  Take an option that was recognized, with the value that is
  attached to it.
-/
def take
    (scan : Scan)
    (parameter : Parameter)
    (attached? : Option Text) : Except UsageError Scan := do
  match parameter.hasValue, attached? with
  | true, some text =>
      let scan ← scan.settle
      let values ← scan.values.set parameter text
      return { scan with values }
  | true, none =>
      let scan ← scan.settle
      return { scan with
        pending? := some { parameter, value? := none } }
  | false, some _ => throw .unexpectedValue
  | false, none =>
      let scan ← scan.settle
      let values ← scan.values.set parameter []
      return { scan with values }

/- A text up to its first equals sign and behind it. -/
def splitAtEquals (text : Text) : Text × Option Text :=
  match text.dropWhile (· ≠ '=') with
  | [] => (text, none)
  | _ :: value => (text.takeWhile (· ≠ '='), some value)

/- Take an option with a long name. -/
def long
    (scan : Scan)
    (parameters : List Parameter)
    (text : Text) : Except UsageError Scan :=
  let (name, attached?) := splitAtEquals text
  match parameters.find? (·.long.toList = name) with
  | some parameter => scan.take parameter attached?
  | none => .error .unknownArgument

/-
  Take an option with a letter.  Its value can follow at once
  or behind an equals sign.
-/
def short
    (scan : Scan)
    (parameters : List Parameter)
    (letter : Char)
    (rest : Text) : Except UsageError Scan :=
  match parameters.find? (·.short? = some letter) with
  | none => .error .unknownArgument
  | some parameter =>
      match rest with
      | [] => scan.take parameter none
      | '=' :: value => scan.take parameter (some value)
      | value => scan.take parameter (some value)

/- Take an argument that is no option. -/
def plain
    (scan : Scan)
    (text : Text) : Except UsageError Scan :=
  match scan.pending? with
  | some { parameter, value? := none } =>
      .ok { scan with
        pending? := some { parameter, value? := some text } }
  | _ => .error .unknownArgument

/- Read one argument. -/
def step
    (parameters : List Parameter)
    (scan : Scan)
    (argument : Text) : Except UsageError Scan :=
  if scan.positional then
    .error .unknownArgument
  else
    match argument with
    | ['-', '-'] => .ok { scan with positional := true }
    | '-' :: '-' :: text => scan.long parameters text
    | '-' :: letter :: rest =>
        scan.short parameters letter rest
    | text => scan.plain text

end Scan

/- Read the arguments of a command. -/
def Verb.ofArguments
    (verb : Verb)
    (arguments : List Text) :
    Except UsageError Invocation := do
  let scan ←
    arguments.foldlM (Scan.step verb.parameters) .start
  let scan ← scan.settle
  verb.invocation scan.values

------------------------------------------------------------
-- Commands
------------------------------------------------------------

/- A command, or a name in front of other commands. -/
inductive Menu where
| verb (verb : Verb)
| menu (entries : List (String × Verb))

/- The names of the tool. -/
def mainMenu : List (String × Menu) := [
  ("script", .menu [
    ("dump", .dumpScript),
    ("build", .buildScript),
    ("check", .checkScripts),
    ("diff", .diffScripts)]),
  ("table", .menu [("dump", .dumpTable)]),
  ("symbols", .verb .listNames)]

/- Choose by the first argument. -/
def choose
    {α : Type}
    (entries : List (String × α))
    (arguments : List Text) :
    Except UsageError (α × List Text) :=
  let chosen? (name : Text) :=
    entries.find? (·.1.toList = name)
  match arguments with
  | [] => .error .missingCommand
  | ['-', '-'] :: [] => .error .missingCommand
  | ['-', '-'] :: name :: _ =>
      if (chosen? name).isSome then
        .error .unknownArgument
      else
        .error .unknownCommand
  | name :: rest =>
      match chosen? name, name with
      | some entry, _ => .ok (entry.2, rest)
      | none, '-' :: _ :: _ => .error .unknownArgument
      | none, _ => .error .unknownCommand

/- Read a command line without the name of the tool. -/
def Invocation.ofArguments
    (arguments : List Text) :
    Except UsageError Invocation := do
  let (menu, arguments) ← choose mainMenu arguments
  match menu with
  | .verb verb => verb.ofArguments arguments
  | .menu entries =>
      let (verb, arguments) ← choose entries arguments
      verb.ofArguments arguments

end Cli

end SceneScript
