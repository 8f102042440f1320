import Highlight.CommandLine.Report

/-! The program: reads the files that its arguments name and writes the report on them. -/
namespace Highlight

def readText (name : String) : IO (Except ReadError String) := do
  match ← (IO.FS.readBinFile name).toBaseIO with
  | .ok bytes => return decodeText bytes
  | .error (.noFileOrDirectory ..) => return .error .missing
  | .error (.inappropriateType ..) => return .error .directory
  | .error e => return .error (.other (toString e))

def usageText : String :=
  "Usage: cfhl <COMMAND>\n\nFor more information, try '--help'.\n"

def runProgram (args : List String) : IO UInt32 := do
  match Command.ofArguments? args with
  | none =>
    (← IO.getStderr).putStr usageText
    return 2
  | some command =>
    let files ← command.files.mapM fun name => return ⟨name, ← readText name⟩
    let report := command.run files
    (← IO.getStdout).putStr report.stdout
    (← IO.getStderr).putStr report.stderr
    return report.exitCode.toUInt32

end Highlight

def main (args : List String) : IO UInt32 :=
  Highlight.runProgram args
