import Highlight.CommandLine.Command
import Highlight.Listing
import Highlight.Source
import Highlight.Token.Data

/-! Reports: what the program writes for a command, and whether it fails. The files are gone through
in the order of the arguments. A file without tokens does not keep the others from being read. -/
namespace Highlight

inductive ReadError
  | missing
  | directory
  | notUtf8
  | other (message : String)
deriving DecidableEq, Repr

def ReadError.message : ReadError → String
  | .missing => "No such file or directory (os error 2)"
  | .directory => "Is a directory (os error 21)"
  | .notUtf8 => "stream did not contain valid UTF-8"
  | .other message => message

def decodeText (bytes : ByteArray) : Except ReadError String :=
  match String.fromUTF8? bytes with
  | some text => .ok text
  | none => .error .notUtf8

structure SourceFile where
  name : String
  text : Except ReadError String

def SourceFile.tokens (file : SourceFile) : Except String (List Token) :=
  match file.text with
  | .error e => .error e.message
  | .ok text =>
    match Highlight.tokens text with
    | .error e => .error e.message
    | .ok ts => .ok ts

/-- What has been written, and whether an error has been met. -/
structure Report where
  stdout : String := ""
  stderr : String := ""
  failed : Bool := false
deriving DecidableEq, Repr

namespace Report

def exitCode (r : Report) : Nat :=
  if r.failed then 1 else 0

def print (r : Report) (text : String) : Report :=
  { r with stdout := r.stdout ++ text }

def note (r : Report) (file : SourceFile) (message : String) : Report :=
  { r with stderr := r.stderr ++ (file.name ++ ": " ++ message ++ "\n") }

end Report

namespace Task

/-- A listing has the file's name above it if the file is not the only one. -/
def reportTokens (task : Task) (alone : Bool) (r : Report) (file : SourceFile)
    (ts : List Token) : Report :=
  match task with
  | .listing =>
    let titled := if alone then r else r.print ("==> " ++ file.name ++ " <==\n")
    titled.print (Highlight.listing ts)
  | .json => r.print (jsonText ts ++ "\n")
  | .check => r.note file ("ok (" ++ toString ts.length ++ " token(s))")

/-- The report goes on with a file. Once an error has been met, it stays known. -/
def reportNext (task : Task) (alone : Bool) (r : Report) (file : SourceFile) : Report :=
  match file.tokens with
  | .ok ts => task.reportTokens alone r file ts
  | .error message => { r.note file message with failed := true }

def reportFiles (task : Task) (files : List SourceFile) : Report :=
  files.foldl (task.reportNext (files.length ≤ 1)) {}

end Task

namespace Command

def versionText : String := "cfhl 0.1.0\n"

def helpText : String :=
  "Classify C-family declarations into highlighting tokens\n\n" ++
  "Usage: cfhl <COMMAND>\n\n" ++
  "Commands:\n" ++
  "  tokens  Print the classified tokens of each file\n" ++
  "  check   Check that each file classifies without errors\n" ++
  "  help    Print this message or the help of the given subcommand(s)\n\n" ++
  "Options:\n" ++
  "  -h, --help     Print help\n" ++
  "  -V, --version  Print version\n"

/-- The report of a command, when its files are the given ones. -/
def run (files : List SourceFile) : Command → Report
  | .report task _ => task.reportFiles files
  | .version => { stdout := versionText }
  | .help => { stdout := helpText }

end Command
end Highlight
