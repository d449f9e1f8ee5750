import VmCell.Encoding.Base64
import VmCell.Interaction.Fallible
import VmCell.Provider.Qemu

/-! What the transport of the guest agent does with a connected client.

A program asks the client to execute a command of the agent, reads the clock and
sleeps. Output and file contents travel as Base64. Loops are cut at some number of
rounds.
-/

set_option autoImplicit false
namespace VmCell

open Interaction Fallible
open QemuProvider (asStr)

section Requests

inductive QgaOp where
  | execute (command : String) (arguments : Option Json)
  | now
  | sleep (time : Duration)

def QgaOp.Reply : QgaOp → Type
  | .execute .. => Except GuestIoError Json
  | .now => Nat
  | .sleep _ => Unit

def qgaSignature : Signature := ⟨QgaOp, QgaOp.Reply⟩

abbrev Qga := Fallible qgaSignature GuestIoError

/-- The client over its stream. -/
def QgaClient.handler (codec : JsonCodec) : Handler qgaSignature QgaClient
  | .execute command arguments, client => client.execute codec command arguments
  | .now, client => (client.line.now, client)
  | .sleep time, client =>
      ((), { client with line := { client.line with now := client.line.now + time } })

end Requests

section Values

def Json.asBool : Json → Option Bool
  | .bool value => some value
  | _ => none

def Json.asI64 : Json → Option Int
  | .number value => if -2 ^ 63 ≤ value ∧ value < 2 ^ 63 then some value else none
  | _ => none

/-- `i32::try_from(value).ok()`. -/
def asI32 (value : Int) : Option Int :=
  if -2 ^ 31 ≤ value ∧ value < 2 ^ 31 then some value else none

/-- `String::from_utf8`. -/
def fromUtf8 (bytes : Bytes) : Option String := String.fromUTF8? ⟨bytes.toArray⟩

def orInvalid {A : Type} : Option A → Except GuestIoError A
  | some value => .ok value
  | none => .error .invalidResponse

def encodeBase64 (bytes : Bytes) : String := String.ofList (Base64.encode bytes)

def decodeBase64 (text : String) : Option Bytes := Base64.decode text.toList

end Values

namespace Qga

def execute (command : String) (arguments : Option Json) : Qga Json :=
  effect (I := qgaSignature) (.execute command arguments) id

def now : Qga Nat := effect (I := qgaSignature) .now fun (instant : Nat) => .ok instant

def sleep (time : Duration) : Qga Unit := effect (I := qgaSignature) (.sleep time) fun _ => .ok ()

section Exec

def decodeOutput (status : Json) (field : String) (limit : Nat) : Except GuestIoError Bytes :=
  match (status.get field).bind asStr with
  | none => .ok []
  | some value =>
      if value.utf8ByteSize > min (limit * 2) (2 ^ 64 - 1) then .error .outputLimit
      else match decodeBase64 value with
        | none => .error .invalidResponse
        | some bytes => if bytes.length > limit then .error .outputLimit else .ok bytes

/-- A flag that is neither absent nor false stands for missing output. -/
def untruncated (status : Json) (field : String) : Bool :=
  match status.get field with
  | none | some (.bool false) => true
  | _ => false

def exited (status : Json) : Bool := (status.get "exited").bind Json.asBool = some true

/-- The result of a command that has exited. -/
def commandResult (command : GuestCommand) (status : Json) :
    Except GuestIoError GuestCommandResult := do
  if untruncated status "out-truncated" = false then throw .invalidResponse
  if untruncated status "err-truncated" = false then throw .invalidResponse
  let stdout ← decodeOutput status "out-data" command.maxOutputBytes
  let stderr ← decodeOutput status "err-data" command.maxOutputBytes
  if stdout.length + stderr.length > command.maxOutputBytes then throw .outputLimit
  let stdout ← orInvalid (fromUtf8 stdout)
  let stderr ← orInvalid (fromUtf8 stderr)
  let exitCode ← orInvalid (((status.get "exitcode").bind Json.asI64).bind asI32)
  pure
    { exitCode := exitCode
      stdout := stdout
      stderr := stderr
      encoding := "utf-8"
      stdoutBytes := stdout.utf8ByteSize
      stderrBytes := stderr.utf8ByteSize
      truncated := false }

def execArguments (command : GuestCommand) : Json :=
  .object [("path", .string command.program), ("arg", .array (command.args.map .string)),
    ("capture-output", .bool true)]

def statusArguments (pid : Nat) : Json := .object [("pid", .number pid)]

/-- The status of the process is asked for until it has exited. -/
def awaitStatus (command : GuestCommand) (pid deadline : Nat) : Nat → Qga GuestCommandResult
  | 0 => hang
  | rounds + 1 => do
      let status ← execute "guest-exec-status" (some (statusArguments pid))
      if exited status = true then lift (commandResult command status)
      else
        let instant ← now
        if deadline ≤ instant then fail .timeout
        else
          sleep (millis 50)
          awaitStatus command pid deadline rounds

def exec (rounds : Nat) (command : GuestCommand) : Qga GuestCommandResult := do
  let response ← execute "guest-exec" (some (execArguments command))
  let pid ← lift (orInvalid ((response.get "pid").bind Json.asU64))
  let instant ← now
  awaitStatus command pid (instant + command.timeout) rounds

def execExitCode (rounds : Nat) (program : String) (args : List String) (timeout : Duration) :
    Qga Int := do
  let result ← exec rounds ⟨program, args, timeout, 64 * 1024⟩
  pure result.exitCode

def execSimple (rounds : Nat) (program : String) (args : List String) (timeout : Duration) :
    Qga Unit := do
  let code ← execExitCode rounds program args timeout
  ensure (code = 0) .transport

end Exec

section Files

def fileChunk : Nat := 48 * 1024

def fileOpen (path mode : String) : Qga Int := do
  let response ← execute "guest-file-open"
    (some (.object [("path", .string path), ("mode", .string mode)]))
  lift (orInvalid response.asI64)

def handleArguments (handle : Int) : Json := .object [("handle", .number handle)]

def fileClose (handle : Int) : Qga Unit := do
  let _ ← execute "guest-file-close" (some (handleArguments handle))
  pure ()

def writeArguments (handle : Int) (chunk : Bytes) : Json :=
  .object [("handle", .number handle), ("buf-b64", .string (encodeBase64 chunk))]

/-- `slice::chunks`, with as many rounds as there are bytes. -/
def chunksFrom (size : Nat) : Nat → Bytes → List Bytes
  | 0, _ => []
  | rounds + 1, content =>
      if content = [] then [] else content.take size :: chunksFrom size rounds (content.drop size)

def chunks (size : Nat) (content : Bytes) : List Bytes := chunksFrom size content.length content

def writeChunks (handle : Int) : List Bytes → Qga Unit
  | [] => pure ()
  | chunk :: rest => do
      let response ← execute "guest-file-write" (some (writeArguments handle chunk))
      ensure ((response.get "count").bind Json.asU64 = some chunk.length) .partialCopy
      writeChunks handle rest

def fileWriteAll (handle : Int) (content : Bytes) : Qga Unit := do
  writeChunks handle (chunks fileChunk content)
  let _ ← execute "guest-file-flush" (some (handleArguments handle))
  pure ()

def readArguments (handle : Int) : Json :=
  .object [("handle", .number handle), ("count", .number fileChunk)]

/-- The bytes of a reply and whether they are the last. -/
def readReply (response : Json) : Except GuestIoError (Bytes × Bool) := do
  let chunk ←
    match (response.get "buf-b64").bind asStr with
    | none => pure []
    | some text => orInvalid (decodeBase64 text)
  let count ← orInvalid ((response.get "count").bind Json.asU64)
  let eof ← orInvalid ((response.get "eof").bind Json.asBool)
  if count ≠ chunk.length ∨ count > fileChunk then throw .partialCopy
  pure (chunk, eof)

def readChunks (handle : Int) (maxBytes : Nat) : Nat → Bytes → Qga Bytes
  | 0, _ => hang
  | rounds + 1, output => do
      let response ← execute "guest-file-read" (some (readArguments handle))
      let (chunk, eof) ← lift (readReply response)
      let output := output ++ chunk
      ensure (output.length ≤ maxBytes) .outputLimit
      if eof = true then pure output
      else if chunk = [] then fail .invalidResponse
      else readChunks handle maxBytes rounds output

def fileReadAll (rounds : Nat) (handle : Int) (maxBytes : Nat) : Qga Bytes :=
  readChunks handle maxBytes rounds []

end Files

section Copying

def workspaceRoot (cellId : CellId) : String := "/var/lib/vmcell/" ++ cellId.toText

/-- What comes before the last separator. -/
def parentOf (path root : String) : String :=
  match path.toList.reverse.dropWhile (· ≠ '/') with
  | [] => root
  | _ :: before => String.ofList before.reverse

def commitCopyIn (rounds : Nat) (temporary destination : String) (overwrite : OverwritePolicy)
    (timeout : Duration) : Qga Unit := do
  match overwrite with
  | .deny =>
      let committed ← execExitCode rounds "/bin/ln" ["-T", "--", temporary, destination] timeout
      if committed ≠ 0 then
        execSimple rounds "/bin/rm" ["--", temporary] timeout
        fail .pathViolation
      else execSimple rounds "/bin/rm" ["--", temporary] timeout
  | .replace => execSimple rounds "/bin/mv" ["-f", "--", temporary, destination] timeout

/-- `copy_in` of a connected client. The file is closed whether or not it was written. -/
def copyIn (rounds : Nat) (cellId : CellId) (operationId : Uuid) (destination : String)
    (content : Bytes) (overwrite : OverwritePolicy) (timeout : Duration) : Qga Unit := do
  let root := workspaceRoot cellId
  let destination := root ++ "/" ++ destination
  execSimple rounds "/bin/mkdir" ["-p", parentOf destination root] timeout
  let temporary := destination ++ ".vmcell-" ++ operationId.toText ++ ".tmp"
  let handle ← fileOpen temporary "w"
  let written ← attempt (fileWriteAll handle content)
  let closed ← attempt (fileClose handle)
  lift written
  lift closed
  commitCopyIn rounds temporary destination overwrite timeout

/-- `copy_out` of a connected client. -/
def copyOut (rounds : Nat) (cellId : CellId) (source : String) (maxBytes : Nat) : Qga Bytes := do
  let handle ← fileOpen (workspaceRoot cellId ++ "/" ++ source) "r"
  let read ← attempt (fileReadAll rounds handle maxBytes)
  let closed ← attempt (fileClose handle)
  let bytes ← lift read
  lift closed
  pure bytes

end Copying

end Qga

end VmCell
