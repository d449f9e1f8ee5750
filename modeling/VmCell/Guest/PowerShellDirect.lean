import VmCell.Encoding.Frames
import VmCell.Encoding.Text
import VmCell.Guest.Commands

/-! The transport that talks to a guest through a script on the host.

The action, the credentials and a payload are written to the script as four frames.
The script has its own limit for each of them. -/

set_option autoImplicit false
namespace VmCell

open Text (isWhitespace isControl isBlank utf8 utf16Length)

section CommandLines

/-- One character of the loop that quotes an argument: the output and the
backslashes that are not written yet. -/
def quoteStep (state : List Char × Nat) (character : Char) : List Char × Nat :=
  let (output, backslashes) := state
  if character = '\\' then (output, backslashes + 1)
  else if character = '"' then
    (output ++ List.replicate (backslashes * 2 + 1) '\\' ++ ['"'], 0)
  else (output ++ List.replicate backslashes '\\' ++ [character], 0)

def quoteWindowsArgument (argument : String) : String :=
  if !argument.isEmpty && !argument.toList.any (fun value => isWhitespace value || value == '"') then
    argument
  else
    let (output, backslashes) := argument.toList.foldl quoteStep (['"'], 0)
    String.ofList (output ++ List.replicate (backslashes * 2) '\\' ++ ['"'])

def windowsCommandLine (arguments : List String) : String :=
  " ".intercalate (arguments.map quoteWindowsArgument)

end CommandLines

section Credentials

structure GuestCredentials where
  username : String
  password : String
  deriving DecidableEq

def GuestCredentials.new (username password : String) : Except GuestIoError GuestCredentials :=
  if isBlank username || decide (username.utf8ByteSize > 256) || containsNul username ||
      username.toList.any isControl then
    .error (.invalidRequest "guest username is outside the supported bounds")
  else if password.isEmpty || decide (password.utf8ByteSize > 4096) || containsNul password then
    .error (.invalidRequest "guest password is outside the supported bounds")
  else .ok ⟨username, password⟩

end Credentials

section Serialisation

def lowerHex : List Char := "0123456789abcdef".toList

/-- How a character stands in a JSON string. -/
def Json.escape (character : Char) : List Char :=
  if character = '"' then ['\\', '"']
  else if character = '\\' then ['\\', '\\']
  else if character.toNat = 0x08 then ['\\', 'b']
  else if character.toNat = 0x09 then ['\\', 't']
  else if character.toNat = 0x0A then ['\\', 'n']
  else if character.toNat = 0x0C then ['\\', 'f']
  else if character.toNat = 0x0D then ['\\', 'r']
  else if character.toNat < 0x20 then
    ['\\', 'u', '0', '0', lowerHex.getD (character.toNat / 16) '0',
      lowerHex.getD (character.toNat % 16) '0']
  else [character]

def Json.quoted (text : String) : List Char := '"' :: text.toList.flatMap Json.escape ++ ['"']

def Json.enclosed (opening closing : Char) (parts : List (List Char)) : List Char :=
  opening :: List.intercalate [','] parts ++ [closing]

mutual

/-- JSON without white space, as the library writes it. -/
def Json.compact : Json → List Char
  | .null => "null".toList
  | .bool value => (if value then "true" else "false").toList
  | .number value => (toString value).toList
  | .fraction digits => digits.toList
  | .string text => Json.quoted text
  | .array items => Json.enclosed '[' ']' (Json.compactItems items)
  | .object members => Json.enclosed (Char.ofNat 0x7B) (Char.ofNat 0x7D) (Json.compactMembers members)

def Json.compactItems : List Json → List (List Char)
  | [] => []
  | item :: items => Json.compact item :: Json.compactItems items

def Json.compactMembers : List (String × Json) → List (List Char)
  | [] => []
  | (key, value) :: members =>
      (Json.quoted key ++ ':' :: Json.compact value) :: Json.compactMembers members

end

inductive PowerShellDirectAction where
  | probeReady (cellId : CellId) (expected : ProviderVm)
  | exec (cellId : CellId) (expected : ProviderVm) (program commandLine : String)
      (timeoutMs maxOutputBytes : Nat)
  | copyIn (cellId : CellId) (operationId : GuestOperationId) (expected : ProviderVm)
      (destination : String) (overwrite : OverwritePolicy)
  | copyOut (cellId : CellId) (operationId : GuestOperationId) (expected : ProviderVm)
      (source : String) (maxBytes : Nat)
  deriving DecidableEq

def ProviderPowerState.text : ProviderPowerState → String
  | .off => "off"
  | .running => "running"
  | .paused => "paused"
  | .saved => "saved"
  | .other value => value

def OverwritePolicy.text : OverwritePolicy → String
  | .deny => "deny"
  | .replace => "replace"

-- The text that a path was made from; a path here is only its parts.
variable (spelling : PathBuf → String)

def ProviderVm.toJson (vm : ProviderVm) : Json := .object [
  ("id", .string vm.id),
  ("name", .string vm.name),
  ("power_state", .string vm.powerState.text),
  ("ownership_marker", .string vm.ownershipMarker),
  ("configuration_path", .string (spelling vm.configurationPath)),
  ("attached_disks", .array (vm.attachedDisks.map fun disk => .string (spelling disk))),
  ("network_adapter_count", .number vm.networkAdapterCount),
  ("cpu_count", .number vm.cpuCount),
  ("memory_mib", .number vm.memoryMib)]

def PowerShellDirectAction.toJson : PowerShellDirectAction → Json
  | .probeReady cellId expected => .object [
      ("action", .string "probe_ready"),
      ("cell_id", .string cellId.toText),
      ("expected", expected.toJson spelling)]
  | .exec cellId expected program commandLine timeoutMs maxOutputBytes => .object [
      ("action", .string "exec"),
      ("cell_id", .string cellId.toText),
      ("expected", expected.toJson spelling),
      ("program", .string program),
      ("command_line", .string commandLine),
      ("timeout_ms", .number timeoutMs),
      ("max_output_bytes", .number maxOutputBytes)]
  | .copyIn cellId operationId expected destination overwrite => .object [
      ("action", .string "copy_in"),
      ("cell_id", .string cellId.toText),
      ("operation_id", .string operationId.toText),
      ("expected", expected.toJson spelling),
      ("destination", .string destination),
      ("overwrite", .string overwrite.text)]
  | .copyOut cellId operationId expected source maxBytes => .object [
      ("action", .string "copy_out"),
      ("cell_id", .string cellId.toText),
      ("operation_id", .string operationId.toText),
      ("expected", expected.toJson spelling),
      ("source", .string source),
      ("max_bytes", .number maxBytes)]

end Serialisation

section Transport

def windowsCommandLineLimit : Nat := 32766

def durationMillis (duration : Duration) : Except GuestIoError Nat :=
  if duration / 1000000 < 2 ^ 64 then .ok (duration / 1000000)
  else .error (.invalidRequest "guest timeout cannot be represented in milliseconds")

/-- The action that the transport makes of a request, and its payload. -/
def powerShellDirectAction (authority : GuestActionAuthority) (operationId : GuestOperationId) :
    TransportAction → Except GuestIoError (PowerShellDirectAction × Option Bytes)
  | .probeReady _ => do
      authority.validate
      .ok (.probeReady authority.record.id authority.expected, none)
  | .exec command => do
      authority.validate
      command.validate
      let commandLine := windowsCommandLine command.args
      if utf16Length command.program > windowsCommandLineLimit ∨
          utf16Length commandLine > windowsCommandLineLimit then
        .error (.invalidRequest "guest command exceeds the Windows process command-line limit")
      else
        let timeoutMs ← durationMillis command.timeout
        .ok (.exec authority.record.id authority.expected command.program commandLine timeoutMs
          command.maxOutputBytes, none)
  | .copyIn destination content overwrite _ => do
      authority.validate
      .ok (.copyIn authority.record.id operationId authority.expected destination.text overwrite,
        some content)
  | .copyOut source maxBytes _ => do
      authority.validate
      .ok (.copyOut authority.record.id operationId authority.expected source.text maxBytes, none)

def appendFrame (target bytes : Bytes) : Except GuestIoError Bytes :=
  match Frames.frame bytes with
  | none => .error .transport
  | some framed => .ok (target ++ framed)

/-- What `execute_powershell_direct` writes to the script. -/
def powerShellDirectInput (codec : JsonCodec) (spelling : PathBuf → String)
    (action : PowerShellDirectAction) (credentials : GuestCredentials) (payload : Option Bytes) :
    Except GuestIoError Bytes := do
  let actionJson := codec.toVec (action.toJson spelling)
  let input ← appendFrame [] actionJson
  let input ← appendFrame input (utf8 credentials.username)
  let input ← appendFrame input (utf8 credentials.password)
  appendFrame input (payload.getD [])

end Transport

section Script

inductive ScriptError where
  /-- The end of the input within a length. -/
  | endOfStream
  | thrown (message : String)
  /-- The strict decoder of UTF-8. -/
  | decoding
  /-- `ConvertFrom-Json`. -/
  | conversion
  deriving DecidableEq

def ScriptError.ofRefusal (name : String) : Frames.Refusal → ScriptError
  | .endOfStream => .endOfStream
  | .oversized => .thrown ("GUEST_SESSION_FAILED: " ++ name ++ " frame exceeds limit")
  | .truncated => .thrown "GUEST_SESSION_FAILED: truncated stdin frame"

/-- The input ended too early. -/
def ScriptError.IsTruncation (error : ScriptError) : Prop :=
  error = .endOfStream ∨ error = .thrown "GUEST_SESSION_FAILED: truncated stdin frame"

def readScriptFrame (name : String) (limit : Nat) (input : Bytes) :
    Except ScriptError (Bytes × Bytes) :=
  (Frames.read limit input).mapError (ScriptError.ofRefusal name)

def getString (bytes : Bytes) : Except ScriptError String :=
  match fromUtf8 bytes with
  | some text => .ok text
  | none => .error .decoding

variable {V : Type}

/-- What the script holds when it has read its input. -/
structure ScriptRequest (V : Type) where
  request : V
  guestUsername : String
  guestPasswordBytes : Bytes
  guestPayloadBytes : Bytes

def actionFrameLimit : Nat := 1048576
def usernameFrameLimit : Nat := 256
def passwordFrameLimit : Nat := 4096
def payloadFrameLimit : Nat := 67108864

/-- The reading of the four frames in `common.ps1`. -/
def readScriptInput (convertFromJson : String → Option V) (input : Bytes) :
    Except ScriptError (ScriptRequest V) := do
  let (action, input) ← readScriptFrame "action" actionFrameLimit input
  let text ← getString action
  let request ← match convertFromJson text with
    | some value => .ok value
    | none => .error .conversion
  let (username, input) ← readScriptFrame "username" usernameFrameLimit input
  let guestUsername ← getString username
  let (guestPasswordBytes, input) ← readScriptFrame "password" passwordFrameLimit input
  let (guestPayloadBytes, _) ← readScriptFrame "payload" payloadFrameLimit input
  .ok ⟨request, guestUsername, guestPasswordBytes, guestPayloadBytes⟩

end Script

end VmCell
