import VmCell.Encoding.Utf8
import VmCell.Provider.QemuConfig

/-! The identity of a live process on Linux, from what the system shows of it. -/

set_option autoImplicit false
namespace VmCell

open Text (toStringLossy)

/-- What `/proc` answers about one process. The token is asked for three times. -/
structure ProcessSight where
  startToken : Fin 3 → Option Nat
  groupId : Option Nat
  executable : Option PathBuf
  executableSha256 : Option String
  commandLine : Option Bytes

/-- The arguments behind the program in the text of `/proc/<pid>/cmdline`. -/
def commandLineArguments (commandLine : Bytes) : List Bytes :=
  ((commandLine.splitOn 0).filter (!·.isEmpty)).drop 1

/-- `process_matches`; what `canonicalize` answers is a fact of the file system. -/
def processMatches (encoders : Encoders) (canonicalize : PathBuf → Option PathBuf)
    (sight : ProcessSight) (processId startToken : Nat) (program : PathBuf)
    (commandSha256 executableSha256 : String) (jobName : Option String) : Bool :=
  if jobName.isSome || sight.startToken 0 ≠ some startToken ||
      sight.groupId ≠ some processId then false
  else
    match sight.executable with
    | none => false
    | some executable =>
        let executableMatches : Bool :=
          if program.isAbsolute then canonicalize executable = canonicalize program
          else executable.fileName = program.fileName
        if !executableMatches then false
        else if sight.executableSha256 ≠ some executableSha256 ||
            sight.startToken 1 ≠ some startToken then false
        else
          match sight.commandLine with
          | none => false
          | some commandLine =>
              let arguments := (commandLineArguments commandLine).map toStringLossy
              argumentDigest encoders arguments = commandSha256 &&
                sight.startToken 2 = some startToken

end VmCell
