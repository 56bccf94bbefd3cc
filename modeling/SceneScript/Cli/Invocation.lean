import SceneScript.Files.Path
import SceneScript.Symbol

/-
  What can be asked of the command line tool.

  Key definitions include:
    * `Cli.Format`
    * `Cli.Listing`
    * `Cli.Invocation`
    * `Cli.UsageError`
-/

namespace SceneScript

namespace Cli

------------------------------------------------------------
-- Choices
------------------------------------------------------------

/- The form in which contents are printed. -/
inductive Format where
| text
| json
deriving DecidableEq, Repr

/- The word for a format on the command line. -/
def Format.word : Format → String
| text => "text"
| json => "json"

/- The format that a word stands for. -/
def Format.ofWord? (word : String) : Option Format :=
  [text, json].find? (·.word == word)

/- A list of names that can be printed. -/
inductive Listing where
| symbols (kind : SymbolKind)
| placements
deriving DecidableEq, Repr

namespace Listing

/- Every list in the order of printing. -/
def all : List Listing := [
  symbols .sound,
  symbols .background,
  symbols .character,
  symbols .transition,
  placements]

/- The word for the things in a list. -/
def word : Listing → String
| symbols kind => kind.word
| placements => "position"

/- The list that a word stands for. -/
def ofWord? (word : String) : Option Listing :=
  all.find? (·.word == word)

end Listing

------------------------------------------------------------
-- Invocations
------------------------------------------------------------

/- A use of the tool. -/
inductive Invocation where
| dumpScript (file : Path) (format : Format) (requireEnd : Bool)
| buildScript (input file : Path) (overwrite : Bool)
| checkScripts (directory : Path) (requireEnd : Bool)
| diffScripts (left right : Path) (context : Nat)
| dumpTable (file : Path) (format : Format)
| listNames (only? : Option Listing)
deriving DecidableEq, Repr

/- What is wrong with a command line. -/
inductive UsageError where
| missingArgument
| unknownArgument
| invalidValue
| invalidNumber
| unexpectedValue
| repeated
| unknownCommand
| missingCommand
deriving DecidableEq, Repr

/- The text shown for a command line that is wrong. -/
def UsageError.message : UsageError → String
| missingArgument => "a required argument is missing"
| unknownArgument => "there is an unknown argument"
| invalidValue => "an option has no value or a wrong one"
| invalidNumber => "a value is not a number"
| unexpectedValue => "a switch has a value"
| repeated => "an option is given twice"
| unknownCommand => "there is no such command"
| missingCommand => "a command is missing"

end Cli

end SceneScript
