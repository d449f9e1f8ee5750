import VmCell.Engine.Guest

/-! The client of the guest agent, over a stream whose bytes arrive in time.

Time passes only while the client waits: for a byte, for a refused connection or
for its deadline. JSON is read and written by a library, of which the client uses
two functions.
-/

set_option autoImplicit false
namespace VmCell

section Json

inductive Json where
  | null
  | bool (value : Bool)
  | number (value : Int)
  | fraction (digits : String)
  | string (value : String)
  | array (items : List Json)
  | object (members : List (String × Json))

def Json.get (key : String) : Json → Option Json
  | .object members => members.lookup key
  | _ => none

def Json.asU64 : Json → Option Nat
  | .number value => if 0 ≤ value ∧ value < 2 ^ 64 then some value.toNat else none
  | _ => none

/-- The library that reads and writes JSON. -/
structure JsonCodec where
  toVec : Json → Bytes
  fromSlice : Bytes → Option Json

end Json

section Streams

inductive IoErrorKind where
  | timedOut
  | wouldBlock
  | other
  deriving DecidableEq

def qgaIoError : IoErrorKind → GuestIoError
  | .timedOut | .wouldBlock => .timeout
  | .other => .transport

/-- A byte or an error, and the instant at which a read returns it. -/
structure Arrival where
  instant : Nat
  content : Except IoErrorKind UInt8

/-- A connected stream. What the peer sends in answer to a write depends on
everything it has been sent. -/
structure Line where
  now : Nat
  incoming : List Arrival
  /-- After the last byte the peer has closed the stream, or else it is silent. -/
  closed : Bool
  respond : List Bytes → Except IoErrorKind (List Arrival)
  sent : List Bytes

/-- `write_all` and `flush`. -/
def Line.write (line : Line) (bytes : Bytes) : Except GuestIoError Unit × Line :=
  match line.respond (line.sent ++ [bytes]) with
  | .error kind => (.error (qgaIoError kind), line)
  | .ok arrivals => (.ok (), { line with
      incoming := line.incoming ++ arrivals, sent := line.sent ++ [bytes] })

/-- What answers at a control path: some refused connections, each after some
time, and then a stream. -/
structure Endpoint where
  refusals : List Nat
  accept : Nat → Line

def millis (count : Nat) : Duration := count * 1000000

def connectionTimeout : ProviderError := .timeout "QEMU control endpoint connection timed out"

def connectFrom (accept : Nat → Line) (deadline : Nat) :
    List Nat → Nat → Except ProviderError Line × Nat
  | [], now =>
      if deadline ≤ now then (.error connectionTimeout, now) else (.ok (accept now), now)
  | refusal :: rest, now =>
      if deadline ≤ now then (.error connectionTimeout, now)
      else if now + refusal < deadline then
        connectFrom accept deadline rest (now + refusal + millis 25)
      else (.error connectionTimeout, now + refusal)

def connectEndpoint (endpoint : Endpoint) (timeout : Duration) (now : Nat) :
    Except ProviderError Line × Nat :=
  connectFrom endpoint.accept (now + timeout) endpoint.refusals now

def providerToGuest : ProviderError → GuestIoError
  | .ownershipChanged _ | .authority _ => .ownershipChanged
  | .invalidResponse _ => .invalidResponse
  | _ => .guestNotReady

end Streams

section Client

def qgaFrameLimit : Nat := 24 * 1024 * 1024

structure QgaClient where
  line : Line
  deadline : Nat

/-- The variables of the receiving loop. -/
structure Frame where
  bytes : Bytes
  started : Bool
  skipped : Nat

def Frame.empty : Frame := ⟨[], false, 0⟩

def openBrace : UInt8 := 123
def newline : UInt8 := 10
def delimiter : UInt8 := 255

variable (codec : JsonCodec)

/-- The receiving loop: the result, the instant of the return and what is left. -/
def receiveFrom (closed : Bool) (deadline : Nat) :
    List Arrival → Nat → Frame → Except GuestIoError Json × Nat × List Arrival
  | [], now, _ =>
      if deadline ≤ now then (.error .timeout, now, [])
      else if closed then (.error .invalidResponse, now, [])
      else (.error .timeout, deadline, [])
  | arrival :: rest, now, frame =>
      if deadline ≤ now then (.error .timeout, now, arrival :: rest)
      else if deadline ≤ arrival.instant then (.error .timeout, deadline, arrival :: rest)
      else
        let now := max now arrival.instant
        match arrival.content with
        | .error kind => (.error (qgaIoError kind), now, rest)
        | .ok byte =>
            if frame.started = false ∧ byte ≠ openBrace then
              if frame.skipped + 1 ≥ qgaFrameLimit then (.error .outputLimit, now, rest)
              else receiveFrom closed deadline rest now { frame with skipped := frame.skipped + 1 }
            else if byte = newline then
              match codec.fromSlice frame.bytes with
              | some value => (.ok value, now, rest)
              | none => (.error .invalidResponse, now, rest)
            else if frame.bytes.length ≥ qgaFrameLimit then (.error .outputLimit, now, rest)
            else receiveFrom closed deadline rest now
              { frame with started := true, bytes := frame.bytes ++ [byte] }

namespace QgaClient
variable (client : QgaClient)

def receive : Except GuestIoError Json × QgaClient :=
  let received := receiveFrom codec client.line.closed client.deadline client.line.incoming
    client.line.now .empty
  (received.1, { client with line := { client.line with
    now := received.2.1, incoming := received.2.2 } })

/-- The value of a response. -/
def returned (response : Json) : Except GuestIoError Json :=
  if (response.get "error").isSome then .error .transport
  else match response.get "return" with
    | some value => .ok value
    | none => .error .invalidResponse

def request (command : String) (arguments : Option Json) : Json :=
  match arguments with
  | none => .object [("execute", .string command)]
  | some arguments => .object [("execute", .string command), ("arguments", arguments)]

/-- A response is awaited after the request has been written. -/
def awaitResponse : Except GuestIoError Json × QgaClient :=
  match client.receive codec with
  | (.error error, client) => (.error error, client)
  | (.ok response, client) =>
      if client.deadline ≤ client.line.now then (.error .timeout, client)
      else (returned response, client)

def execute (command : String) (arguments : Option Json) :
    Except GuestIoError Json × QgaClient :=
  if client.deadline ≤ client.line.now then (.error .timeout, client)
  else
    let bytes := codec.toVec (request command arguments)
    if bytes.length > qgaFrameLimit then (.error .outputLimit, client)
    else match client.line.write (bytes ++ [newline]) with
      | (.error error, line) => (.error error, { client with line := line })
      | (.ok (), line) => awaitResponse codec { client with line := line }

/-- The exchange that follows a connection. -/
def synchronise (syncId : Nat) : Except GuestIoError QgaClient × Nat :=
  if client.deadline ≤ client.line.now then (.error .timeout, client.line.now)
  else match client.line.write [delimiter] with
    | (.error error, line) => (.error error, line.now)
    | (.ok (), line) =>
        match execute codec { client with line := line } "guest-sync-delimited"
          (some (.object [("id", .number syncId)])) with
        | (.error error, client) => (.error error, client.line.now)
        | (.ok response, client) =>
            if response.asU64 = some syncId then (.ok client, client.line.now)
            else (.error .invalidResponse, client.line.now)

end QgaClient

/-- `Uuid::new_v4().as_u128() as u64`. -/
def syncIdentifier (value : Uuid) : Nat := value.asU128 % 2 ^ 64

def seconds (count : Nat) : Duration := count * nanosPerSecond

/-- `QgaClient::connect` with the identifier it draws. -/
def QgaClient.connect (endpoint : Endpoint) (timeout : Duration) (syncId : Nat) (now : Nat) :
    Except GuestIoError QgaClient × Nat :=
  if timeout = 0 then (.error .timeout, now)
  else match connectEndpoint endpoint (min timeout (seconds 5)) now with
    | (.error error, now) => (.error (providerToGuest error), now)
    | (.ok line, _) => QgaClient.synchronise codec ⟨line, now + timeout⟩ syncId

def probe (endpoint : Endpoint) (timeout : Duration) (syncId : Nat) (now : Nat) :
    Except GuestIoError Unit × Nat :=
  match QgaClient.connect codec endpoint timeout syncId now with
  | (.error error, now) => (.error error, now)
  | (.ok client, _) =>
      match client.execute codec "guest-info" none with
      | (.error error, client) => (.error error, client.line.now)
      | (.ok _, client) => (.ok (), client.line.now)

end Client

section Transport

def GuestActionAuthority.validate (authority : GuestActionAuthority) : Except GuestIoError Unit :=
  match GuestActionAuthority.new authority.record authority.expected authority.installation
    authority.runtime with
  | .ok _ => .ok ()
  | .error _ => .error .ownershipChanged

/-- What meets one probe of the guest. -/
structure Encounter where
  /-- The proof of the virtual machine and the time it takes. -/
  proof : Except GuestIoError Unit
  proving : Nat
  endpoint : Endpoint
  syncId : Nat

/-- An endpoint that cannot be used yet is one that is not ready. -/
def readiness : Except GuestIoError Unit → Except GuestIoError GuestReadiness
  | .ok () => .ok .ready
  | .error .guestNotReady | .error .transport => .ok .guestNotReady
  | .error error => .error error

/-- `QemuGuestAgentTransport::probe_ready`. -/
def probeReady (codec : JsonCodec) (authority : GuestActionAuthority) (encounter : Encounter)
    (timeout : Duration) (now : Nat) : Except GuestIoError GuestReadiness × Nat :=
  match authority.validate with
  | .error error => (.error error, now)
  | .ok () =>
      if authority.record.provider ≠ "qemu" then (.error .ownershipChanged, now)
      else match encounter.proof with
        | .error error => (.error error, now + encounter.proving)
        | .ok () =>
            let probed := probe codec encounter.endpoint timeout encounter.syncId
              (now + encounter.proving)
            (readiness probed.1, probed.2)

end Transport

end VmCell
