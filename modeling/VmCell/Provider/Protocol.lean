import VmCell.Guest.Agent

/-! The client of the machine's control channel.

Messages are lines of JSON. A request carries a number that its response has to
repeat; events that come between them are passed over.
-/

set_option autoImplicit false
namespace VmCell

section Lines

def protocolMessageLimit : Nat := 1024 * 1024

def protocolIoError (operation : String) : IoErrorKind → ProviderError
  | .timedOut | .wouldBlock => .timeout ("QEMU protocol " ++ operation ++ " timed out")
  | .other => .command ("QEMU protocol " ++ operation ++ " failed: input/output error")

def oversizedRequest : ProviderError :=
  .invalidResponse "QEMU protocol request exceeded the message limit"

def oversizedResponse : ProviderError :=
  .outputLimit "QEMU protocol response exceeded the message limit"

variable (codec : JsonCodec)

/-- `JsonLineProtocol::send`. -/
def sendMessage (value : Json) (deadline : Nat) (line : Line) : Except ProviderError Unit × Line :=
  let bytes := codec.toVec value
  if bytes.length > protocolMessageLimit then (.error oversizedRequest, line)
  else if deadline ≤ line.now then (.error (protocolIoError "write" .timedOut), line)
  else match line.respond (line.sent ++ [bytes ++ [newline]]) with
    | .error kind => (.error (protocolIoError "write" kind), line)
    | .ok arrivals => (.ok (), { line with
        incoming := line.incoming ++ arrivals, sent := line.sent ++ [bytes ++ [newline]] })

/-- The receiving loop: the result, the instant of the return and what is left. -/
def receiveLine (closed : Bool) (deadline : Nat) :
    List Arrival → Nat → Bytes → Except ProviderError Json × Nat × List Arrival
  | [], now, _ =>
      if deadline ≤ now then (.error (protocolIoError "read" .timedOut), now, [])
      else if closed then
        (.error (.invalidResponse "QEMU protocol closed before a complete response"), now, [])
      else (.error (protocolIoError "read" .timedOut), deadline, [])
  | arrival :: rest, now, bytes =>
      if deadline ≤ now then (.error (protocolIoError "read" .timedOut), now, arrival :: rest)
      else if deadline ≤ arrival.instant then
        (.error (protocolIoError "read" .timedOut), deadline, arrival :: rest)
      else
        let now := max now arrival.instant
        match arrival.content with
        | .error kind => (.error (protocolIoError "read" kind), now, rest)
        | .ok byte =>
            if byte = newline then
              if bytes = [] then receiveLine closed deadline rest now []
              else match codec.fromSlice bytes with
                | some value => (.ok value, now, rest)
                | none => (.error (.invalidResponse "QEMU protocol response is not JSON"), now, rest)
            else if bytes.length ≥ protocolMessageLimit then (.error oversizedResponse, now, rest)
            else receiveLine closed deadline rest now (bytes ++ [byte])

/-- `JsonLineProtocol::receive`. -/
def receiveMessage (deadline : Nat) (line : Line) : Except ProviderError Json × Line :=
  let received := receiveLine codec line.closed deadline line.incoming line.now []
  (received.1, { line with now := received.2.1, incoming := received.2.2 })

end Lines

structure QmpClient where
  line : Line
  nextId : Nat
  deadline : Nat

namespace QmpClient
variable (codec : JsonCodec)

def expired : ProviderError := .timeout "QMP operation exceeded its deadline"

def maxEvents : Nat := 64

def request (command : String) (id : Nat) (arguments : Option Json) : Json :=
  match arguments with
  | none => .object [("execute", .string command), ("id", .number id)]
  | some arguments =>
      .object [("execute", .string command), ("id", .number id), ("arguments", arguments)]

/-- What a response that is no event comes to. -/
def answer (command : String) (id : Nat) (response : Json) : Except ProviderError Json :=
  if (response.get "id").bind Json.asU64 ≠ some id then
    .error (.invalidResponse "QMP response id did not match the request")
  else if (response.get "error").isSome then
    .error (.command ("QMP command " ++ command ++ " failed"))
  else match response.get "return" with
    | some value => .ok value
    | none => .error (.invalidResponse "QMP response omitted return")

/-- The wait for the response, with the number of events that may still come. -/
def awaitAnswer (command : String) (id : Nat) :
    Nat → QmpClient → Except ProviderError Json × QmpClient
  | events, client =>
      if client.deadline ≤ client.line.now then (.error expired, client)
      else match receiveMessage codec client.deadline client.line with
        | (.error error, line) => (.error error, { client with line := line })
        | (.ok response, line) =>
            if (response.get "event").isSome then
              match events with
              | 0 => (.error (.invalidResponse "QMP emitted too many events before the response"),
                  { client with line := line })
              | events + 1 => awaitAnswer command id events { client with line := line }
            else (answer command id response, { client with line := line })

def execute (command : String) (arguments : Option Json) (client : QmpClient) :
    Except ProviderError Json × QmpClient :=
  if client.deadline ≤ client.line.now then (.error expired, client)
  else
    let id := client.nextId
    let client := { client with nextId := id + 1 }
    match sendMessage codec (request command id arguments) client.deadline client.line with
    | (.error error, line) => (.error error, { client with line := line })
    | (.ok (), line) => awaitAnswer codec command id maxEvents { client with line := line }

def isObject : Json → Bool
  | .object _ => true
  | _ => false

def negotiate (line : Line) (timeout : Duration) : Except ProviderError QmpClient × Line :=
  let deadline := line.now + timeout
  match receiveMessage codec deadline line with
  | (.error error, line) => (.error error, line)
  | (.ok greeting, line) =>
      if (greeting.get "QMP").any isObject = true then
        match execute codec "qmp_capabilities" none ⟨line, 1, deadline⟩ with
        | (.error error, client) => (.error error, client.line)
        | (.ok _, client) => (.ok client, client.line)
      else (.error (.invalidResponse "QMP greeting was invalid"), line)

end QmpClient

end VmCell
