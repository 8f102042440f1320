/-! Commands: what the arguments of the program ask for. -/
namespace Highlight

inductive Task
  | listing
  | json
  | check
deriving DecidableEq, Repr

inductive Command
  | report (task : Task) (files : List String)
  | version
  | help
deriving DecidableEq, Repr

namespace Command

/-- The options and files after the name of a command. -/
structure Operands where
  json : Bool := false
  files : List String := []
deriving DecidableEq, Repr

/-- A file has a name. -/
def Operands.addFile? (o : Operands) (name : String) : Option Operands :=
  if name.isEmpty then none else some { o with files := o.files ++ [name] }

/-- What arguments come to. The option for help is obeyed where it stands, whatever follows it. -/
inductive Parse
  | operands (o : Operands)
  | help
  | misuse
deriving DecidableEq, Repr

/-- After `--` all arguments are files. -/
def Operands.addFiles (o : Operands) : List String → Parse
  | [] => .operands o
  | name :: names =>
    match o.addFile? name with
    | some o => o.addFiles names
    | none => .misuse

def asksHelp (arg : String) : Bool :=
  arg = "--help" || arg.startsWith "-h"

/-- Options and files in any order. A lone `-` is a file. Where `--json` is allowed, it may stand
once. -/
def Operands.parse (allowsJson : Bool) (o : Operands) : List String → Parse
  | [] => .operands o
  | arg :: args =>
    if arg = "--" then o.addFiles args
    else if asksHelp arg then .help
    else if arg = "--json" && allowsJson && !o.json then
      parse allowsJson { o with json := true } args
    else if arg.startsWith "-" && arg != "-" then .misuse
    else match o.addFile? arg with
      | some o => parse allowsJson o args
      | none => .misuse

/-- A task needs a file. -/
def ofParse? (task : Operands → Task) : Parse → Option Command
  | .operands o => if o.files.isEmpty then none else some (.report (task o) o.files)
  | .help => some .help
  | .misuse => none

/-- The command that the arguments ask for, unless the program is not to be used in this way. -/
def ofArguments? : List String → Option Command
  | [] => none
  | "tokens" :: args =>
    ofParse? (fun o => if o.json then .json else .listing) (Operands.parse true {} args)
  | "check" :: args => ofParse? (fun _ => .check) (Operands.parse false {} args)
  | ["help"] | ["help", "tokens"] | ["help", "check"] | ["help", "help"] => some .help
  | arg :: _ =>
    if arg = "--version" || arg.startsWith "-V" then some .version
    else if asksHelp arg then some .help
    else none

def files : Command → List String
  | .report _ files => files
  | .version | .help => []

end Command
end Highlight
