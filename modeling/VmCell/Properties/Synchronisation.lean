import VmCell.Guest.Agent

/-! Whether a new session of the guest agent's client finds its own replies behind
what an earlier session left in the channel. -/

set_option autoImplicit false
namespace VmCell

section Receiving
variable {codec : JsonCodec} {closed : Bool} {deadline now instant : Nat} {bytes body : Bytes}
  {rest : List Arrival}

/-- Bytes that arrive together. -/
def arriving (instant : Nat) (bytes : Bytes) : List Arrival :=
  bytes.map fun byte => ⟨instant, .ok byte⟩

/-- Nothing that arrives is late or an error. -/
structure Prompt (deadline : Nat) (arrivals : List Arrival) (bytes : Bytes) : Prop where
  contents : arrivals.map (·.content) = bytes.map .ok
  early : ∀ arrival ∈ arrivals, arrival.instant < deadline

theorem prompt_arriving (early : instant < deadline) :
    Prompt deadline (arriving instant bytes) bytes where
  contents := by simp [arriving, Function.comp_def]
  early := by
    intro arrival member
    obtain ⟨_, _, rfl⟩ := List.mem_map.mp member
    exact early

theorem Prompt.append {first second : List Arrival} {left right : Bytes}
    (before : Prompt deadline first left) (after : Prompt deadline second right) :
    Prompt deadline (first ++ second) (left ++ right) where
  contents := by simp [before.contents, after.contents]
  early := by
    intro arrival member
    rcases List.mem_append.mp member with early | late
    · exact before.early arrival early
    · exact after.early arrival late

theorem Prompt.cons {arrivals : List Arrival} {byte : UInt8} {others : Bytes}
    (prompt : Prompt deadline arrivals (byte :: others)) :
    ∃ instant tail, arrivals = ⟨instant, .ok byte⟩ :: tail ∧ instant < deadline ∧
      Prompt deadline tail others := by
  cases arrivals with
  | nil => cases prompt.contents
  | cons arrival tail =>
      obtain ⟨content, contents⟩ := List.cons.inj prompt.contents
      refine ⟨arrival.instant, tail, ?_, prompt.early _ List.mem_cons_self, contents, ?_⟩
      · change arrival.content = _ at content
        rw [← content]
      · exact fun other member => prompt.early other (List.mem_cons_of_mem _ member)

theorem Prompt.nil {arrivals : List Arrival} (prompt : Prompt deadline arrivals []) :
    arrivals = [] := List.map_eq_nil_iff.mp prompt.contents

section Steps
variable {byte : UInt8} {frame : Frame}

theorem receiveFrom_skip (timely : now < deadline) (early : instant < deadline)
    (waiting : frame.started = false) (other : byte ≠ openBrace)
    (room : frame.skipped + 1 < qgaFrameLimit) :
    receiveFrom codec closed deadline (⟨instant, .ok byte⟩ :: rest) now frame =
      receiveFrom codec closed deadline rest (max now instant)
        { frame with skipped := frame.skipped + 1 } := by
  rw [receiveFrom, if_neg (by omega), if_neg (by simp only; omega)]
  simp only [waiting, ne_eq, other, not_false_eq_true, and_self, if_true]
  rw [if_neg (by omega)]

theorem receiveFrom_full (timely : now < deadline) (early : instant < deadline)
    (waiting : frame.started = false) (other : byte ≠ openBrace)
    (full : qgaFrameLimit ≤ frame.skipped + 1) :
    receiveFrom codec closed deadline (⟨instant, .ok byte⟩ :: rest) now frame =
      (.error .outputLimit, max now instant, rest) := by
  rw [receiveFrom, if_neg (by omega), if_neg (by simp only; omega)]
  simp only [waiting, ne_eq, other, not_false_eq_true, and_self, if_true]
  rw [if_pos full]

theorem receiveFrom_take (timely : now < deadline) (early : instant < deadline)
    (begins : frame.started = true ∨ byte = openBrace) (inner : byte ≠ newline) :
    receiveFrom codec closed deadline (⟨instant, .ok byte⟩ :: rest) now frame =
      if frame.bytes.length ≥ qgaFrameLimit then (.error .outputLimit, max now instant, rest)
      else receiveFrom codec closed deadline rest (max now instant)
        { frame with started := true, bytes := frame.bytes ++ [byte] } := by
  have begun : ¬(frame.started = false ∧ byte ≠ openBrace) := by
    rintro ⟨waiting, other⟩
    rcases begins with started | brace
    · rw [waiting] at started
      cases started
    · exact other brace
  rw [receiveFrom, if_neg (by omega), if_neg (by simp only; omega)]
  simp only [begun, inner, if_false]

theorem receiveFrom_end (timely : now < deadline) (early : instant < deadline)
    (started : frame.started = true) :
    receiveFrom codec closed deadline (⟨instant, .ok newline⟩ :: rest) now frame =
      match codec.fromSlice frame.bytes with
      | some value => (.ok value, max now instant, rest)
      | none => (.error .invalidResponse, max now instant, rest) := by
  have begun : ¬(frame.started = false ∧ newline ≠ openBrace) := by simp [started]
  rw [receiveFrom, if_neg (by omega), if_neg (by simp only; omega)]
  exact (if_neg begun).trans (if_pos rfl)

end Steps

section Segments
variable {arrivals : List Arrival} {skipped : Nat} {taken : Bytes}

/-- Bytes without an opening brace are skipped. -/
theorem receiveFrom_skips (prompt : Prompt deadline arrivals bytes) (timely : now < deadline)
    (none : openBrace ∉ bytes) (room : skipped + bytes.length < qgaFrameLimit) :
    ∃ later, later < deadline ∧
      receiveFrom codec closed deadline (arrivals ++ rest) now ⟨[], false, skipped⟩ =
        receiveFrom codec closed deadline rest later ⟨[], false, skipped + bytes.length⟩ := by
  induction bytes generalizing arrivals now skipped with
  | nil =>
      rw [prompt.nil]
      exact ⟨now, timely, rfl⟩
  | cons byte others ih =>
      obtain ⟨instant, tail, rfl, early, following⟩ := prompt.cons
      rw [List.length_cons] at room
      have other : byte ≠ openBrace := fun same => none (same ▸ List.mem_cons_self)
      obtain ⟨later, within, continues⟩ := @ih (max now instant) tail (skipped + 1) following
        (by omega) (fun member => none (List.mem_cons_of_mem _ member)) (by omega)
      refine ⟨later, within, ?_⟩
      rw [List.cons_append, receiveFrom_skip timely early rfl other (by simp only; omega), continues,
        List.length_cons]
      simp only [show skipped + 1 + others.length = skipped + (others.length + 1) by omega]

/-- The bytes of a line are taken up to the limit. -/
theorem receiveFrom_takes (prompt : Prompt deadline arrivals bytes) (timely : now < deadline)
    (none : newline ∉ bytes) (room : taken.length + bytes.length ≤ qgaFrameLimit) :
    ∃ later, later < deadline ∧
      receiveFrom codec closed deadline (arrivals ++ rest) now ⟨taken, true, skipped⟩ =
        receiveFrom codec closed deadline rest later ⟨taken ++ bytes, true, skipped⟩ := by
  induction bytes generalizing arrivals now taken with
  | nil =>
      rw [prompt.nil, List.append_nil]
      exact ⟨now, timely, rfl⟩
  | cons byte others ih =>
      obtain ⟨instant, tail, rfl, early, following⟩ := prompt.cons
      rw [List.length_cons] at room
      have inner : byte ≠ newline := fun same => none (same ▸ List.mem_cons_self)
      have fits : (taken ++ [byte]).length + others.length ≤ qgaFrameLimit := by
        simp only [List.length_append, List.length_singleton]
        omega
      obtain ⟨later, within, continues⟩ := @ih (max now instant) tail (taken ++ [byte]) following
        (by omega) (fun member => none (List.mem_cons_of_mem _ member)) fits
      refine ⟨later, within, ?_⟩
      rw [List.cons_append, receiveFrom_take timely early (Or.inl rfl) inner,
        if_neg (by simp only; omega), continues, List.append_assoc, List.singleton_append]

/-- A frame that is read lies between the first opening brace and the first newline
after it. -/
theorem receiveFrom_ok_taken {value : Json} {later : Nat} {left : List Arrival}
    (prompt : Prompt deadline arrivals bytes) (timely : now < deadline)
    (received : receiveFrom codec closed deadline arrivals now ⟨taken, true, skipped⟩ =
      (.ok value, later, left)) :
    ∃ body tail, bytes = body ++ newline :: tail ∧ newline ∉ body ∧
      codec.fromSlice (taken ++ body) = some value ∧ Prompt deadline left tail ∧
      later < deadline := by
  induction bytes generalizing arrivals now taken with
  | nil =>
      rw [prompt.nil, receiveFrom, if_neg (by omega)] at received
      split at received <;> cases received
  | cons byte others ih =>
      obtain ⟨instant, tail, rfl, early, following⟩ := prompt.cons
      by_cases ends : byte = newline
      · subst ends
        rw [receiveFrom_end timely early rfl] at received
        split at received
        · rename_i found parsed
          obtain ⟨rfl, rfl, rfl⟩ : found = value ∧ max now instant = later ∧ tail = left := by
            simpa using received
          exact ⟨[], others, rfl, by simp, by simpa using parsed, following, by omega⟩
        · cases received
      · rw [receiveFrom_take timely early (Or.inl rfl) ends] at received
        split at received
        · cases received
        · obtain ⟨body, tail, rfl, clean, parsed, left⟩ := ih following (by omega) received
          refine ⟨byte :: body, tail, rfl, ?_, ?_, left⟩
          · simp only [List.mem_cons, not_or]
            exact ⟨fun same => ends same.symm, clean⟩
          · simpa using parsed

theorem receiveFrom_ok {value : Json} {later : Nat} {left : List Arrival}
    (prompt : Prompt deadline arrivals bytes) (timely : now < deadline)
    (small : skipped < qgaFrameLimit)
    (received : receiveFrom codec closed deadline arrivals now ⟨[], false, skipped⟩ =
      (.ok value, later, left)) :
    ∃ before body tail, bytes = before ++ openBrace :: (body ++ newline :: tail) ∧
      openBrace ∉ before ∧ newline ∉ body ∧ skipped + before.length < qgaFrameLimit ∧
      codec.fromSlice (openBrace :: body) = some value ∧ Prompt deadline left tail ∧
      later < deadline := by
  induction bytes generalizing arrivals now skipped with
  | nil =>
      rw [prompt.nil, receiveFrom, if_neg (by omega)] at received
      split at received <;> cases received
  | cons byte others ih =>
      obtain ⟨instant, tail, rfl, early, following⟩ := prompt.cons
      by_cases brace : byte = openBrace
      · subst brace
        rw [receiveFrom_take timely early (Or.inr rfl) (by decide),
          if_neg (by simp [qgaFrameLimit])] at received
        obtain ⟨body, tail, rfl, clean, parsed, left⟩ :=
          receiveFrom_ok_taken following (by omega) received
        exact ⟨[], body, tail, rfl, by simp, clean, small, by simpa using parsed, left⟩
      · by_cases room : skipped + 1 < qgaFrameLimit
        · rw [receiveFrom_skip timely early rfl brace room] at received
          obtain ⟨before, body, tail, rfl, first, clean, few, rest⟩ :=
            ih following (by omega) room received
          refine ⟨byte :: before, body, tail, rfl, ?_, clean, ?_, rest⟩
          · simp only [List.mem_cons, not_or]
            exact ⟨fun same => brace same.symm, first⟩
          · rw [List.length_cons]
            omega
        · rw [receiveFrom_full timely early rfl brace (by simp only; omega)] at received
          cases received

/-- A line that is complete does not depend on what follows it. -/
theorem receiveFrom_complete {frame : Frame} {others : List Arrival}
    (prompt : Prompt deadline arrivals bytes) (timely : now < deadline)
    (complete : if frame.started then newline ∈ bytes
      else ∃ before body, bytes = before ++ openBrace :: body ∧ newline ∈ body) :
    (receiveFrom codec closed deadline (arrivals ++ rest) now frame).1 =
        (receiveFrom codec closed deadline (arrivals ++ others) now frame).1 ∧
      (receiveFrom codec closed deadline (arrivals ++ rest) now frame).2.1 =
        (receiveFrom codec closed deadline (arrivals ++ others) now frame).2.1 := by
  induction bytes generalizing arrivals now frame with
  | nil => cases started : frame.started <;> simp [started] at complete
  | cons byte following ih =>
      obtain ⟨instant, tail, rfl, early, rest⟩ := prompt.cons
      rw [List.cons_append, List.cons_append]
      by_cases waiting : frame.started = false ∧ byte ≠ openBrace
      · by_cases room : frame.skipped + 1 < qgaFrameLimit
        · rw [receiveFrom_skip timely early waiting.1 waiting.2 room,
            receiveFrom_skip timely early waiting.1 waiting.2 room]
          refine ih rest (by omega) ?_
          obtain ⟨before, body, split, ends⟩ : ∃ before body,
              byte :: following = before ++ openBrace :: body ∧ newline ∈ body := by
            simpa [waiting.1] using complete
          cases before with
          | nil => exact absurd (List.cons.inj split).1 waiting.2
          | cons first before =>
              obtain ⟨_, rfl⟩ := List.cons.inj split
              simp only [waiting.1]
              exact ⟨before, body, rfl, ends⟩
        · rw [receiveFrom_full timely early waiting.1 waiting.2 (by omega),
            receiveFrom_full timely early waiting.1 waiting.2 (by omega)]
          exact ⟨rfl, rfl⟩
      · have begins : frame.started = true ∨ byte = openBrace := by
          by_cases started : frame.started = true
          · exact Or.inl started
          · simp only [Bool.not_eq_true] at started
            exact Or.inr (not_not.mp fun other => waiting ⟨started, other⟩)
        by_cases ends : byte = newline
        · subst ends
          have started : frame.started = true := begins.resolve_right (by decide)
          rw [receiveFrom_end timely early started, receiveFrom_end timely early started]
          cases codec.fromSlice frame.bytes <;> exact ⟨rfl, rfl⟩
        · rw [receiveFrom_take timely early begins ends, receiveFrom_take timely early begins ends]
          split
          · exact ⟨rfl, rfl⟩
          · refine ih rest (by omega) ?_
            simp only [if_true]
            cases started : frame.started with
            | true =>
                rw [started] at complete
                exact (List.mem_cons.mp complete).resolve_left fun same => ends same.symm
            | false =>
                rw [started] at complete
                obtain ⟨before, body, split, inside⟩ := complete
                have member : newline ∈ byte :: following := by
                  rw [split]
                  exact List.mem_append_right _ (List.mem_cons_of_mem _ inside)
                exact (List.mem_cons.mp member).resolve_left fun same => ends same.symm

end Segments

end Receiving

section Sessions
variable (codec : JsonCodec)

/-- One line that the library reads as a value. -/
structure Reply where
  bytes : Bytes
  value : Json
  opens : bytes.head? = some openBrace
  single : newline ∉ bytes
  short : bytes.length ≤ qgaFrameLimit
  parses : codec.fromSlice bytes = some value

/-- A request that can be sent, the agent's reply to it and the instant it arrives. -/
structure Exchange where
  command : String
  arguments : Option Json
  sendable : (codec.toVec (QgaClient.request command arguments)).length ≤ qgaFrameLimit
  reply : Reply codec
  instant : Nat

variable {codec}

def Exchange.arrivals (exchange : Exchange codec) : List Arrival :=
  arriving exchange.instant (exchange.reply.bytes ++ [newline])

/-- What is to come of an agent that answers each request in turn. -/
structure Agent (codec : JsonCodec) where
  sync : Reply codec
  syncInstant : Nat
  session : List (Exchange codec)

def Agent.syncArrivals (agent : Agent codec) : List Arrival :=
  arriving agent.syncInstant (delimiter :: (agent.sync.bytes ++ [newline]))

/-- The first write is the client's delimiter and the second its synchronisation. -/
def Agent.respond (agent : Agent codec) (sent : List Bytes) : List Arrival :=
  match sent.length with
  | 0 | 1 => []
  | 2 => agent.syncArrivals
  | count + 3 => (agent.session[count]?.map Exchange.arrivals).getD []

/-- A client that is connected to the agent. -/
def Agent.client (agent : Agent codec) (deadline now : Nat) (incoming : List Arrival)
    (sent : List Bytes) : QgaClient where
  line := ⟨now, incoming, false, fun sent => .ok (agent.respond sent), sent⟩
  deadline := deadline

/-- The channel of the agent with data of an earlier session in it. -/
def Agent.line (agent : Agent codec) (stale : Bytes) (now : Nat) : Line :=
  ⟨now, arriving now stale, false, fun sent => .ok (agent.respond sent), []⟩

/-- The results of one request after the other. -/
def executes : List (Exchange codec) → QgaClient → List (Except GuestIoError Json)
  | [], _ => []
  | exchange :: rest, client =>
      let executed := client.execute codec exchange.command exchange.arguments
      executed.1 :: executes rest executed.2

def Reply.result (reply : Reply codec) : Except GuestIoError Json := QgaClient.returned reply.value

/-- The client connects, and every request after that gets its own reply. -/
def Resynchronises (agent : Agent codec) (stale : Bytes) (timeout : Duration) (syncId now : Nat) :
    Prop :=
  ∃ client later,
    QgaClient.connect codec ⟨[], agent.line stale⟩ timeout syncId now = (.ok client, later) ∧
      executes agent.session client = agent.session.map (·.reply.result)

end Sessions

section Executing
variable {codec : JsonCodec} {agent : Agent codec} {deadline now : Nat} {incoming : List Arrival}
  {sent : List Bytes} {command : String} {arguments : Option Json}

/-- The result of a request whose response was read. -/
def awaited (deadline : Nat) (received : Except GuestIoError Json × Nat × List Arrival) :
    Except GuestIoError Json :=
  match received.1 with
  | .error error => .error error
  | .ok response => if deadline ≤ received.2.1 then .error .timeout else QgaClient.returned response

/-- A request is one frame read behind what the agent then sends. -/
theorem Agent.execute (timely : now < deadline)
    (sendable : (codec.toVec (QgaClient.request command arguments)).length ≤ qgaFrameLimit) :
    (agent.client deadline now incoming sent).execute codec command arguments =
      let bytes := codec.toVec (QgaClient.request command arguments) ++ [newline]
      let received := receiveFrom codec false deadline
        (incoming ++ agent.respond (sent ++ [bytes])) now .empty
      (awaited deadline received,
        agent.client deadline received.2.1 received.2.2 (sent ++ [bytes])) := by
  have early : ¬(agent.client deadline now incoming sent).deadline ≤
      (agent.client deadline now incoming sent).line.now := Nat.not_le.mpr timely
  unfold QgaClient.execute
  rw [if_neg early]
  simp only
  rw [if_neg (Nat.not_lt.mpr sendable)]
  simp only [Agent.client, Line.write, QgaClient.awaitResponse, QgaClient.receive]
  unfold awaited
  split
  · rename_i failed
    obtain ⟨failure, rfl⟩ := Prod.mk.inj failed
    rw [failure]
  · rename_i answered
    obtain ⟨response, rfl⟩ := Prod.mk.inj answered
    rw [response]
    simp only
    split <;> rfl

end Executing

section Replies
variable {codec : JsonCodec} {agent : Agent codec} {deadline now skipped : Nat}
  {rest : List Arrival}

theorem Reply.shape (reply : Reply codec) : ∃ others, reply.bytes = openBrace :: others := by
  have opens := reply.opens
  cases bytes : reply.bytes with
  | nil =>
      rw [bytes] at opens
      cases opens
  | cons first others =>
      rw [bytes] at opens
      exact ⟨others, by rw [Option.some.inj opens]⟩

/-- A reply at the start of a frame is read whole. -/
theorem receiveFrom_reply (reply : Reply codec) {instant : Nat} (early : instant < deadline)
    (timely : now < deadline) :
    ∃ later, later < deadline ∧ receiveFrom codec false deadline
      (arriving instant (reply.bytes ++ [newline]) ++ rest) now ⟨[], false, skipped⟩ =
        (.ok reply.value, later, rest) := by
  obtain ⟨others, shape⟩ := reply.shape
  have single := reply.single
  have short := reply.short
  have parses := reply.parses
  rw [shape] at single short parses ⊢
  rw [List.length_cons] at short
  have arrivals : arriving instant (openBrace :: others ++ [newline]) ++ rest =
      ⟨instant, .ok openBrace⟩ :: (arriving instant others ++
        (⟨instant, .ok newline⟩ :: rest)) := by simp [arriving]
  have following : [openBrace].length + others.length ≤ qgaFrameLimit := by
    rw [List.length_singleton]
    omega
  obtain ⟨later, within, takes⟩ := @receiveFrom_takes codec false deadline (max now instant) others
    (⟨instant, .ok newline⟩ :: rest) _ skipped [openBrace] (prompt_arriving early)
    (by omega) (fun member => single (List.mem_cons_of_mem _ member)) following
  refine ⟨max later instant, by omega, ?_⟩
  rw [arrivals, receiveFrom_take timely early (Or.inr rfl) (by decide),
    if_neg (by simp [qgaFrameLimit]), List.nil_append, takes, receiveFrom_end within early rfl]
  simp only [List.singleton_append, parses]

/-- With nothing left over, every request gets its own reply. -/
theorem executes_replies {sent : List Bytes} {count : Nat} {remaining : List (Exchange codec)}
    (follows : agent.session.drop count = remaining) (length : sent.length = count + 2)
    (timely : now < deadline) (prompt : ∀ exchange ∈ remaining, exchange.instant < deadline) :
    executes remaining (agent.client deadline now [] sent) =
      remaining.map (·.reply.result) := by
  induction remaining generalizing count now sent with
  | nil => rfl
  | cons exchange others ih =>
      have here : agent.session[count]? = some exchange := by
        rw [← List.head?_drop, follows]
        rfl
      have next : agent.session.drop (count + 1) = others := by
        rw [← List.tail_drop, follows]
        rfl
      have answered : ∀ bytes, agent.respond (sent ++ [bytes]) = exchange.arrivals := by
        intro bytes
        have written : (sent ++ [bytes]).length = count + 3 := by
          rw [List.length_append, length, List.length_singleton]
        unfold Agent.respond
        rw [written]
        simp only [here, Option.map_some, Option.getD_some]
      obtain ⟨later, within, read⟩ := @receiveFrom_reply codec deadline now 0 [] exchange.reply _
        (prompt exchange List.mem_cons_self) timely
      rw [List.append_nil] at read
      have executed := @Agent.execute codec agent deadline now [] sent _ _ timely exchange.sendable
      simp only [List.nil_append, answered, Exchange.arrivals, Frame.empty, read] at executed
      rw [executes, executed]
      simp only [List.map_cons]
      rw [ih next (by simp [length]) within fun other member =>
        prompt other (List.mem_cons_of_mem _ member)]
      simp only [awaited, Reply.result, if_neg (Nat.not_le.mpr within)]

end Replies

section Synchronisation
variable {codec : JsonCodec} {agent : Agent codec} {stale : Bytes} {timeout : Duration}
  {syncId now : Nat}

def syncRequest (syncId : Nat) : Json :=
  QgaClient.request "guest-sync-delimited" (some (.object [("id", .number syncId)]))

/-- What the client reads before its first reply. -/
def Agent.opening (agent : Agent codec) (stale : Bytes) (now : Nat) : List Arrival :=
  arriving now stale ++ agent.syncArrivals

/-- What the client has sent when it is connected. -/
def greeting (codec : JsonCodec) (syncId : Nat) : List Bytes :=
  [[delimiter], codec.toVec (syncRequest syncId) ++ [newline]]

/-- What a connection comes to, given what its synchronisation did. -/
def synchronised (syncId : Nat) :
    Except GuestIoError Json × QgaClient → Except GuestIoError QgaClient × Nat
  | (.error error, client) => (.error error, client.line.now)
  | (.ok response, client) =>
      if response.asU64 = some syncId then (.ok client, client.line.now)
      else (.error .invalidResponse, client.line.now)

/-- A connection is made at once, and what follows is the synchronisation. -/
theorem connect_synchronises (positive : 0 < timeout) :
    QgaClient.connect codec ⟨[], agent.line stale⟩ timeout syncId now =
      synchronised syncId ((agent.client (now + timeout) now (arriving now stale)
        [[delimiter]]).execute codec "guest-sync-delimited"
          (some (.object [("id", .number syncId)]))) := by
  have patience : 0 < min timeout (seconds 5) := lt_min positive (by decide)
  have timely : now < now + timeout := Nat.lt_add_of_pos_right positive
  have dialled : connectEndpoint ⟨[], agent.line stale⟩ (min timeout (seconds 5)) now =
      (.ok (agent.line stale now), now) := by
    simp only [connectEndpoint, connectFrom]
    rw [if_neg (Nat.not_le.mpr (Nat.lt_add_of_pos_right patience))]
  have early : ¬(⟨agent.line stale now, now + timeout⟩ : QgaClient).deadline ≤
      (⟨agent.line stale now, now + timeout⟩ : QgaClient).line.now := Nat.not_le.mpr timely
  have first : Line.write (agent.line stale now) [delimiter] = (.ok (),
      (agent.client (now + timeout) now (arriving now stale) [[delimiter]]).line) := by
    simp [Line.write, Agent.line, Agent.client, Agent.respond]
  unfold QgaClient.connect
  rw [if_neg positive.ne', dialled]
  simp only
  unfold QgaClient.synchronise
  rw [if_neg early]
  simp only [first]
  rfl

/-- The synchronisation is a request behind the stale data. -/
theorem connect_eq (positive : 0 < timeout)
    (sendable : (codec.toVec (syncRequest syncId)).length ≤ qgaFrameLimit) :
    QgaClient.connect codec ⟨[], agent.line stale⟩ timeout syncId now =
      let received := receiveFrom codec false (now + timeout) (agent.opening stale now) now .empty
      match awaited (now + timeout) received with
      | .error error => (.error error, received.2.1)
      | .ok value =>
          if value.asU64 = some syncId then
            (.ok (agent.client (now + timeout) received.2.1 received.2.2 (greeting codec syncId)),
              received.2.1)
          else (.error .invalidResponse, received.2.1) := by
  have timely : now < now + timeout := Nat.lt_add_of_pos_right positive
  have executed := @Agent.execute codec agent (now + timeout) now (arriving now stale)
    [[delimiter]] "guest-sync-delimited" (some (.object [("id", .number syncId)])) timely sendable
  have opening : arriving now stale ++ agent.respond ([[delimiter]] ++
      [codec.toVec (syncRequest syncId) ++ [newline]]) = agent.opening stale now := rfl
  rw [connect_synchronises positive, executed]
  simp only
  rw [show QgaClient.request "guest-sync-delimited" (some (.object [("id", .number syncId)])) =
    syncRequest syncId from rfl, opening]
  cases awaited (now + timeout) (receiveFrom codec false (now + timeout)
    (agent.opening stale now) now .empty) <;> rfl

variable {sync : Reply codec} {syncInstant : Nat}

/-- JSON is text, in which the delimiter never occurs. -/
def JsonCodec.Textual (codec : JsonCodec) : Prop :=
  ∀ bytes value, codec.fromSlice bytes = some value → delimiter ∉ bytes

theorem prompt_opening (positive : 0 < timeout) (prompt : agent.syncInstant < now + timeout) :
    Prompt (now + timeout) (agent.opening stale now)
      (stale ++ delimiter :: (agent.sync.bytes ++ [newline])) :=
  (prompt_arriving (Nat.lt_add_of_pos_right positive)).append (prompt_arriving prompt)

/-- Stale data without an opening brace is skipped, if there is room for it. -/
theorem receiveFrom_opening (positive : 0 < timeout) (prompt : agent.syncInstant < now + timeout)
    (none : openBrace ∉ stale) (room : stale.length + 1 < qgaFrameLimit) :
    ∃ later, later < now + timeout ∧ receiveFrom codec false (now + timeout)
      (agent.opening stale now) now .empty = (.ok agent.sync.value, later, []) := by
  have timely : now < now + timeout := Nat.lt_add_of_pos_right positive
  have split : agent.opening stale now =
      (arriving now stale ++ arriving agent.syncInstant [delimiter]) ++
        (arriving agent.syncInstant (agent.sync.bytes ++ [newline]) ++ []) := by
    simp [Agent.opening, Agent.syncArrivals, arriving]
  have clear : openBrace ∉ stale ++ [delimiter] := by
    rw [List.mem_append, List.mem_singleton, not_or]
    exact ⟨none, by decide⟩
  obtain ⟨skipped, within, skips⟩ := @receiveFrom_skips codec false (now + timeout) now _
    (arriving agent.syncInstant (agent.sync.bytes ++ [newline]) ++ []) _ 0
    ((prompt_arriving timely).append (prompt_arriving prompt)) timely clear (by simpa using room)
  obtain ⟨later, ended, read⟩ := @receiveFrom_reply codec (now + timeout) skipped
    (0 + (stale ++ [delimiter]).length) [] agent.sync _ prompt within
  exact ⟨later, ended, by rw [split, Frame.empty, skips, read]⟩

/-- Where a frame lies that starts inside the stale data. -/
theorem frame_within_stale {before body tail rest : Bytes}
    (split : stale ++ delimiter :: rest = before ++ openBrace :: (body ++ newline :: tail))
    (first : openBrace ∉ before) (text : delimiter ∉ openBrace :: body)
    (brace : openBrace ∈ stale) : ∃ between, tail = between ++ delimiter :: rest := by
  rcases List.append_eq_append_iff.mp split with ⟨more, whole, _⟩ | ⟨inner, _, whole⟩
  · exact absurd (whole ▸ List.mem_append_left more brace) first
  · rw [← List.cons_append] at whole
    rcases List.append_eq_append_iff.mp whole with ⟨after, _, ends⟩ | ⟨within, frame, ends⟩
    · cases after with
      | nil => exact absurd (List.cons.inj ends).1 (by decide)
      | cons letter between => exact ⟨between, (List.cons.inj ends).2⟩
    · cases within with
      | nil => exact absurd (List.cons.inj ends).1 (by decide)
      | cons letter others =>
          refine absurd ?_ text
          rw [frame, ← (List.cons.inj ends).1]
          exact List.mem_append_right _ List.mem_cons_self

/-- A frame that starts behind the stale data leaves room for it and the delimiter. -/
theorem length_before_frame {before after rest : Bytes}
    (split : stale ++ delimiter :: rest = before ++ openBrace :: after)
    (none : openBrace ∉ stale) : stale.length + 1 ≤ before.length := by
  rcases List.append_eq_append_iff.mp split with ⟨more, rfl, ends⟩ | ⟨inner, rfl, ends⟩
  · cases more with
    | nil => exact absurd (List.cons.inj ends).1 (by decide)
    | cons letter others => simp
  · cases inner with
    | nil => exact absurd (List.cons.inj ends).1 (by decide)
    | cons letter others =>
        refine absurd ?_ none
        rw [(List.cons.inj ends).1]
        simp

/-- A connection that succeeds has read a frame. -/
theorem connect_received {client : QgaClient} {later : Nat} (positive : 0 < timeout)
    (sendable : (codec.toVec (syncRequest syncId)).length ≤ qgaFrameLimit)
    (connected : QgaClient.connect codec ⟨[], agent.line stale⟩ timeout syncId now =
      (.ok client, later)) :
    ∃ response left, receiveFrom codec false (now + timeout) (agent.opening stale now) now .empty =
        (.ok response, later, left) ∧
      client = agent.client (now + timeout) later left (greeting codec syncId) := by
  rw [connect_eq positive sendable] at connected
  generalize found : receiveFrom codec false (now + timeout) (agent.opening stale now) now
    .empty = received at connected
  obtain ⟨result, instant, left⟩ := received
  cases result with
  | error error => cases connected
  | ok response =>
      simp only at connected
      split at connected
      · cases connected
      · split at connected
        · obtain ⟨same, rfl⟩ := Prod.mk.inj connected
          exact ⟨response, left, rfl, (Except.ok.inj same).symm⟩
        · cases connected

/-- What follows a complete line is not read. -/
theorem executes_stale {left : List Arrival} {tail : Bytes} {later : Nat}
    {first second : Reply codec} (prompt : Prompt (now + timeout) left tail)
    (timely : later < now + timeout)
    (complete : ∃ before body, tail = before ++ openBrace :: body ∧ newline ∈ body)
    (sendable : (codec.toVec (syncRequest syncId)).length ≤ qgaFrameLimit)
    (gets : ∀ reply : Reply codec, ∀ exchange : Exchange codec, exchange.reply = reply →
      exchange.instant < now + timeout →
      executes [exchange] (Agent.client ⟨sync, syncInstant, [exchange]⟩ (now + timeout) later left
        (greeting codec syncId)) = [reply.result]) : first.result = second.result := by
  have answer : ∀ reply : Reply codec, ∃ following, awaited (now + timeout)
      (receiveFrom codec false (now + timeout) (left ++ following) later .empty) = reply.result := by
    intro reply
    have exchanged := gets reply ⟨"guest-sync-delimited",
      some (.object [("id", .number syncId)]), sendable, reply, later⟩ rfl timely
    rw [executes, Agent.execute timely sendable] at exchanged
    exact ⟨_, (List.cons.inj exchanged).1⟩
  obtain ⟨next, one⟩ := answer first
  obtain ⟨other, two⟩ := answer second
  have same := @receiveFrom_complete codec false (now + timeout) later tail next left .empty other
    prompt timely complete
  rw [← one, ← two]
  unfold awaited
  rw [same.1, same.2]

/-- Own replies are found only behind data without an opening brace. -/
theorem clear_of_resynchronises {first second : Reply codec} (textual : codec.Textual)
    (sendable : (codec.toVec (syncRequest syncId)).length ≤ qgaFrameLimit)
    (differ : first.result ≠ second.result) (positive : 0 < timeout)
    (prompt : syncInstant < now + timeout)
    (resynchronises : ∀ session : List (Exchange codec),
      (∀ exchange ∈ session, exchange.instant < now + timeout) →
      Resynchronises ⟨sync, syncInstant, session⟩ stale timeout syncId now) :
    openBrace ∉ stale ∧ stale.length + 1 < qgaFrameLimit := by
  obtain ⟨client, later, connected, _⟩ := resynchronises [] (by simp)
  obtain ⟨response, left, received, rfl⟩ := connect_received positive sendable connected
  have timely : now < now + timeout := Nat.lt_add_of_pos_right positive
  obtain ⟨before, body, tail, split, none, _, few, parsed, rest, within⟩ :=
    receiveFrom_ok (prompt_opening positive prompt) timely (by simp [qgaFrameLimit]) received
  have clear : openBrace ∉ stale := by
    intro brace
    obtain ⟨between, rfl⟩ := frame_within_stale split none (textual _ _ parsed) brace
    obtain ⟨others, shape⟩ := sync.shape
    -- the reply to the synchronisation is still to be read
    have complete : ∃ early late, between ++ delimiter :: (sync.bytes ++ [newline]) =
        early ++ openBrace :: late ∧ newline ∈ late :=
      ⟨between ++ [delimiter], others ++ [newline], by simp [shape], by simp⟩
    refine differ (@executes_stale codec timeout syncId now sync syncInstant left _ later first
      second rest within complete sendable ?_)
    rintro reply exchange rfl early
    obtain ⟨client, instant, connected, executed⟩ := resynchronises [exchange] (by simpa)
    obtain ⟨_, _, again, rfl⟩ := connect_received positive sendable connected
    obtain ⟨_, rfl, rfl⟩ := Prod.mk.inj (again.symm.trans received)
    exact executed
  have long := length_before_frame split clear
  exact ⟨clear, by omega⟩

theorem resynchronises_of_clear {session : List (Exchange codec)}
    (sendable : (codec.toVec (syncRequest syncId)).length ≤ qgaFrameLimit)
    (bounded : syncId < 2 ^ 64) (answers : sync.value = .object [("return", .number syncId)])
    (positive : 0 < timeout) (prompt : syncInstant < now + timeout)
    (early : ∀ exchange ∈ session, exchange.instant < now + timeout) (clear : openBrace ∉ stale)
    (room : stale.length + 1 < qgaFrameLimit) :
    Resynchronises ⟨sync, syncInstant, session⟩ stale timeout syncId now := by
  obtain ⟨later, within, received⟩ := @receiveFrom_opening codec ⟨sync, syncInstant, session⟩ stale
    timeout now positive prompt clear room
  have returned : QgaClient.returned sync.value = .ok (.number syncId) := by
    rw [answers]
    rfl
  have identifier : (Json.number syncId).asU64 = some syncId := by
    simp [Json.asU64]
    omega
  refine ⟨_, later, ?_, @executes_replies codec ⟨sync, syncInstant, session⟩ (now + timeout) later
    (greeting codec syncId) 0 session rfl rfl within early⟩
  rw [connect_eq positive sendable, received]
  simp only [awaited, if_neg (Nat.not_le.mpr within), returned, identifier, if_true]

/-- A session finds its own replies exactly when the stale data holds no opening
brace and leaves room for the delimiter. -/
theorem resynchronises_iff {first second : Reply codec} (textual : codec.Textual)
    (sendable : (codec.toVec (syncRequest syncId)).length ≤ qgaFrameLimit)
    (differ : first.result ≠ second.result) (bounded : syncId < 2 ^ 64)
    (answers : sync.value = .object [("return", .number syncId)]) (positive : 0 < timeout)
    (prompt : syncInstant < now + timeout) :
    (∀ session : List (Exchange codec), (∀ exchange ∈ session, exchange.instant < now + timeout) →
      Resynchronises ⟨sync, syncInstant, session⟩ stale timeout syncId now) ↔
    openBrace ∉ stale ∧ stale.length + 1 < qgaFrameLimit := by
  constructor
  · exact clear_of_resynchronises textual sendable differ positive prompt
  · rintro ⟨clear, room⟩ session early
    exact resynchronises_of_clear sendable bounded answers positive prompt early clear room

end Synchronisation

namespace Exemplar

def ascii (text : String) : Bytes := text.toList.map fun letter => UInt8.ofNat letter.toNat

/-- The line of a reply that returns the text. -/
def returnLine (text : String) : Bytes := ascii ("\x7b\"return\":" ++ text ++ "\x7d")

/-- The JSON of a short session. -/
def json : JsonCodec where
  toVec
    | .object [("execute", .string command), ("arguments", .object [(key, .number value)])] =>
        ascii ("\x7b\"arguments\":\x7b\"" ++ key ++ "\":" ++ toString value ++
          "\x7d,\"execute\":\"" ++ command ++ "\"\x7d")
    | .object [("execute", .string command)] =>
        ascii ("\x7b\"execute\":\"" ++ command ++ "\"\x7d")
    | _ => []
  fromSlice bytes :=
    if bytes = returnLine "7" then some (.object [("return", .number 7)])
    else if bytes = returnLine "\x7b\x7d" then some (.object [("return", .object [])])
    else none

def syncReply : Reply json where
  bytes := returnLine "7"
  value := .object [("return", .number 7)]
  opens := by decide
  single := by decide
  short := by decide
  parses := by simp [json]

def emptyReply : Reply json where
  bytes := returnLine "\x7b\x7d"
  value := .object [("return", .object [])]
  opens := by decide
  single := by decide
  short := by decide
  parses := by
    have other : returnLine "\x7b\x7d" ≠ returnLine "7" := by decide
    simp [json, other]

theorem json_textual : json.Textual := by
  intro bytes value parsed
  simp only [json] at parsed
  split at parsed
  · rename_i same
    rw [same]
    decide
  · split at parsed
    · rename_i same
      rw [same]
      decide
    · cases parsed

theorem replies_differ : syncReply.result ≠ emptyReply.result := by
  intro same
  have values : Json.number 7 = Json.object [] := Except.ok.inj same
  cases values

end Exemplar

theorem Exemplar.sync_sendable :
    (json.toVec (syncRequest 7)).length ≤ qgaFrameLimit := by decide

def Exemplar.ping : Exchange json where
  command := "guest-ping"
  arguments := none
  sendable := by decide
  reply := emptyReply
  instant := 0

theorem resynchronises_behind_newlines :
    Resynchronises ⟨Exemplar.syncReply, 0, [Exemplar.ping]⟩ [newline, newline] 1 7 0 := by
  have positive : 0 < 1 := by decide
  refine (resynchronises_iff Exemplar.json_textual Exemplar.sync_sendable Exemplar.replies_differ
    ?_ rfl positive positive).mpr ⟨?_, ?_⟩ [Exemplar.ping] ?_
  · decide
  · decide
  · decide
  · intro exchange member
    rw [List.mem_singleton.mp member]
    exact positive

/-- A reply that an earlier session did not read is taken for the new one. -/
theorem stale_reply_breaks_session :
    let stale := Exemplar.returnLine "\x7b\x7d" ++ [newline]
    delimiter ∉ stale ∧ stale.length < qgaFrameLimit ∧
      ¬∀ session : List (Exchange Exemplar.json),
        (∀ exchange ∈ session, exchange.instant < 0 + 1) →
        Resynchronises ⟨Exemplar.syncReply, 0, session⟩ stale 1 7 0 := by
  have positive : 0 < 1 := by decide
  refine ⟨by decide, by decide, fun resynchronises => ?_⟩
  have clear := clear_of_resynchronises Exemplar.json_textual Exemplar.sync_sendable
    Exemplar.replies_differ positive positive resynchronises
  exact absurd (by decide) clear.1

end VmCell
