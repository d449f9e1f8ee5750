import VmCell.Properties.Synchronisation
import VmCell.Provider.Protocol

/-! Requests on the control channel and the replies that are taken for theirs.

A call reads whole lines from where the one before it stopped, so that every byte
of the peer is read by one call at most.
-/

set_option autoImplicit false
namespace VmCell

section Receiving
variable {codec : JsonCodec} {closed : Bool} {deadline now later : Nat} {bytes : Bytes}
  {arrivals left rest : List Arrival} {value : Json}

/-- Some empty lines and then the line of a value. -/
def Delivers (codec : JsonCodec) (segment : List Arrival) (value : Json) : Prop :=
  ∃ blanks body, segment.map (·.content) =
      (List.replicate blanks newline ++ (body ++ [newline])).map .ok ∧
    newline ∉ body ∧ body ≠ [] ∧ body.length ≤ protocolMessageLimit ∧
    codec.fromSlice body = some value

/-- One byte of a stream that is read in time. -/
theorem receiveLine_cons {arrival : Arrival} (timely : now < deadline)
    (early : arrival.instant < deadline) :
    receiveLine codec closed deadline (arrival :: rest) now bytes =
      match arrival.content with
      | .error kind => (.error (protocolIoError "read" kind), max now arrival.instant, rest)
      | .ok byte =>
          if byte = newline then
            if bytes = [] then
              receiveLine codec closed deadline rest (max now arrival.instant) []
            else match codec.fromSlice bytes with
              | some value => (.ok value, max now arrival.instant, rest)
              | none => (.error (.invalidResponse "QEMU protocol response is not JSON"),
                  max now arrival.instant, rest)
          else if bytes.length ≥ protocolMessageLimit then
            (.error oversizedResponse, max now arrival.instant, rest)
          else receiveLine codec closed deadline rest (max now arrival.instant)
            (bytes ++ [byte]) := by
  rw [receiveLine, if_neg (Nat.not_le.mpr timely)]
  exact if_neg (Nat.not_le.mpr early)

/-- A byte is read in time, or the result is an error. -/
theorem receiveLine_timely {arrival : Arrival}
    (received : receiveLine codec closed deadline (arrival :: rest) now bytes =
      (.ok value, later, left)) : now < deadline ∧ arrival.instant < deadline := by
  rw [receiveLine] at received
  split at received
  · cases received
  · rename_i timely
    split at received
    · cases received
    · rename_i early
      exact ⟨Nat.not_le.mp timely, Nat.not_le.mp early⟩

theorem receiveLine_nil : ∃ error instant, receiveLine codec closed deadline [] now bytes =
    (.error error, instant, []) := by
  unfold receiveLine
  split
  · exact ⟨_, _, rfl⟩
  · split <;> exact ⟨_, _, rfl⟩

/-- A value is read from a line, of which the loop may already hold the beginning. -/
theorem receiveLine_ok (taken : newline ∉ bytes) (short : bytes.length ≤ protocolMessageLimit)
    (received : receiveLine codec closed deadline arrivals now bytes = (.ok value, later, left)) :
    ∃ segment blanks body, arrivals = segment ++ left ∧
      segment.map (·.content) =
        (List.replicate blanks newline ++ (body ++ [newline])).map .ok ∧
      newline ∉ bytes ++ body ∧ bytes ++ body ≠ [] ∧
      (bytes ++ body).length ≤ protocolMessageLimit ∧
      codec.fromSlice (bytes ++ body) = some value ∧ (bytes ≠ [] → blanks = 0) := by
  induction arrivals generalizing now bytes with
  | nil =>
      obtain ⟨error, instant, fails⟩ := @receiveLine_nil codec closed deadline now bytes
      rw [fails] at received
      cases received
  | cons arrival rest ih =>
      obtain ⟨timely, early⟩ := receiveLine_timely received
      rw [receiveLine_cons timely early] at received
      cases content : arrival.content with
      | error kind =>
          rw [content] at received
          cases received
      | ok byte =>
          rw [content] at received
          simp only at received
          split at received
          · rename_i ends
            subst ends
            split at received
            · rename_i empty
              subst empty
              obtain ⟨segment, blanks, body, rfl, contents, single, nonempty, fits, parsed, _⟩ :=
                ih (by simp) (Nat.zero_le _) received
              refine ⟨arrival :: segment, blanks + 1, body, rfl, ?_, single, nonempty, fits, parsed,
                fun absurd => (absurd rfl).elim⟩
              rw [List.map_cons, contents, content, List.replicate_succ]
              rfl
            · rename_i nonempty
              split at received
              · rename_i parsed
                obtain ⟨⟨rfl⟩, _, rfl⟩ := Prod.mk.inj received
                exact ⟨[arrival], 0, [], rfl, by simp [content], by simpa using taken,
                  by simpa using nonempty, by simpa using short, by simpa using parsed,
                  fun _ => rfl⟩
              · cases received
          · rename_i inner
            split at received
            · cases received
            · rename_i room
              obtain ⟨segment, blanks, body, rfl, contents, single, nonempty, fits, parsed, none⟩ :=
                ih (by simp [taken, Ne.symm inner]) (by simp; omega) received
              obtain rfl := none (by simp)
              rw [List.append_assoc, List.singleton_append] at single nonempty fits parsed
              refine ⟨arrival :: segment, 0, byte :: body, rfl, ?_, single, nonempty, fits, parsed,
                fun _ => rfl⟩
              rw [List.map_cons, contents, content]
              rfl

theorem receiveMessage_ok {line after : Line}
    (received : receiveMessage codec deadline line = (.ok value, after)) :
    ∃ segment, line.incoming = segment ++ after.incoming ∧ Delivers codec segment value ∧
      after = { line with now := after.now, incoming := after.incoming } := by
  obtain ⟨result, rfl⟩ := Prod.mk.inj received
  obtain ⟨segment, blanks, body, split, contents, single, nonempty, fits, parsed, _⟩ :=
    @receiveLine_ok codec line.closed deadline line.now _ [] line.incoming _ value (by simp)
      (Nat.zero_le _) (Prod.ext result rfl)
  exact ⟨segment, split, ⟨blanks, body, contents, single, nonempty, fits, parsed⟩, rfl⟩

/-- What is read is a beginning of what has come. -/
theorem receiveLine_suffix : (receiveLine codec closed deadline arrivals now bytes).2.2 <:+
    arrivals := by
  induction arrivals generalizing now bytes with
  | nil =>
      obtain ⟨error, instant, fails⟩ := @receiveLine_nil codec closed deadline now bytes
      simp only [fails, List.suffix_rfl]
  | cons arrival rest ih =>
      rw [receiveLine]
      have longer : ∀ {others : List Arrival}, others <:+ rest → others <:+ arrival :: rest :=
        fun suffix => suffix.trans (List.suffix_cons _ _)
      split
      · exact List.suffix_rfl
      · split
        · exact List.suffix_rfl
        · simp only
          split
          · exact longer List.suffix_rfl
          · split
            · split
              · exact longer ih
              · split <;> exact longer List.suffix_rfl
            · split
              · exact longer List.suffix_rfl
              · exact longer ih

end Receiving

section Framing
variable {codec : JsonCodec} {closed : Bool} {deadline now : Nat} {arrivals rest : List Arrival}
  {value : Json} {body taken : Bytes}

/-- The library writes a value without a line break, and reads what it writes. -/
structure JsonCodec.Faithful (codec : JsonCodec) (value : Json) : Prop where
  single : newline ∉ codec.toVec value
  nonempty : codec.toVec value ≠ []
  reads : codec.fromSlice (codec.toVec value) = some value

theorem Prompt.split {first second : Bytes} (prompt : Prompt deadline arrivals (first ++ second)) :
    ∃ before after, arrivals = before ++ after ∧ Prompt deadline before first ∧
      Prompt deadline after second := by
  induction first generalizing arrivals with
  | nil => exact ⟨[], arrivals, rfl, ⟨rfl, by simp⟩, prompt⟩
  | cons byte others ih =>
      obtain ⟨instant, tail, rfl, early, following⟩ := prompt.cons
      obtain ⟨before, after, rfl, one, two⟩ := ih following
      refine ⟨⟨instant, .ok byte⟩ :: before, after, rfl, ⟨?_, ?_⟩, two⟩
      · rw [List.map_cons, one.contents, List.map_cons]
      · intro arrival member
        rcases List.mem_cons.mp member with rfl | later
        · exact early
        · exact one.early arrival later

theorem receiveLine_blanks {blanks : Nat}
    (prompt : Prompt deadline arrivals (List.replicate blanks newline)) (timely : now < deadline) :
    ∃ later, later < deadline ∧ receiveLine codec closed deadline (arrivals ++ rest) now [] =
      receiveLine codec closed deadline rest later [] := by
  induction blanks generalizing arrivals now with
  | zero => exact ⟨now, timely, by rw [prompt.nil, List.nil_append]⟩
  | succ blanks ih =>
      obtain ⟨instant, tail, rfl, early, following⟩ := prompt.cons
      obtain ⟨later, within, continues⟩ := ih following (max_lt timely early)
      refine ⟨later, within, ?_⟩
      rw [List.cons_append, receiveLine_cons timely early]
      exact continues

theorem receiveLine_body (prompt : Prompt deadline arrivals body) (timely : now < deadline)
    (single : newline ∉ body) (fits : taken.length + body.length ≤ protocolMessageLimit) :
    ∃ later, later < deadline ∧ receiveLine codec closed deadline (arrivals ++ rest) now taken =
      receiveLine codec closed deadline rest later (taken ++ body) := by
  induction body generalizing arrivals now taken with
  | nil => exact ⟨now, timely, by rw [prompt.nil, List.nil_append, List.append_nil]⟩
  | cons byte others ih =>
      obtain ⟨instant, tail, rfl, early, following⟩ := prompt.cons
      rw [List.length_cons] at fits
      have inner : byte ≠ newline := fun same => single (same ▸ List.mem_cons_self)
      obtain ⟨later, within, continues⟩ := @ih (max now instant) tail (taken ++ [byte]) following
        (max_lt timely early) (fun member => single (List.mem_cons_of_mem _ member))
        (by rw [List.length_append, List.length_singleton]; omega)
      refine ⟨later, within, ?_⟩
      rw [List.cons_append, receiveLine_cons timely early]
      simp only
      rw [if_neg inner, if_neg (by omega), continues, List.append_assoc, List.singleton_append]

/-- The line of a value is read as the value, behind any number of empty lines. -/
theorem receiveLine_delivered (faithful : codec.Faithful value) {blanks : Nat}
    (small : (codec.toVec value).length ≤ protocolMessageLimit)
    (prompt : Prompt deadline arrivals
      (List.replicate blanks newline ++ (codec.toVec value ++ [newline])))
    (timely : now < deadline) :
    ∃ later, receiveLine codec closed deadline (arrivals ++ rest) now [] =
      (.ok value, later, rest) := by
  obtain ⟨empty, others, rfl, before, after⟩ := prompt.split
  obtain ⟨text, ending, rfl, written, closing⟩ := after.split
  obtain ⟨instant, tail, rfl, early, none⟩ := closing.cons
  obtain rfl := none.nil
  obtain ⟨first, timely, skips⟩ := @receiveLine_blanks codec closed deadline now empty
    ((text ++ [⟨instant, .ok newline⟩]) ++ rest) blanks before timely
  obtain ⟨second, within, takes⟩ := @receiveLine_body codec closed deadline first text
    ([⟨instant, .ok newline⟩] ++ rest) _ [] written timely faithful.single
    (by simpa using small)
  refine ⟨max second instant, ?_⟩
  rw [List.append_assoc, skips, List.append_assoc, takes, List.nil_append, List.singleton_append,
    receiveLine_cons within early]
  simp only [if_true, if_neg (faithful.nonempty), faithful.reads]

/-- A longer line is an error, whenever its bytes come. -/
theorem receiveLine_long (single : newline ∉ body)
    (long : protocolMessageLimit < taken.length + body.length)
    (short : taken.length ≤ protocolMessageLimit)
    (contents : arrivals.map (·.content) = body.map .ok) :
    ∃ error, (receiveLine codec closed deadline (arrivals ++ rest) now taken).1 = .error error := by
  induction body generalizing arrivals now taken with
  | nil =>
      rw [List.length_nil] at long
      omega
  | cons byte others ih =>
      cases arrivals with
      | nil => cases contents
      | cons arrival tail =>
          obtain ⟨content, following⟩ := List.cons.inj contents
          have inner : byte ≠ newline := fun same => single (same ▸ List.mem_cons_self)
          rw [List.length_cons] at long
          rw [List.cons_append, receiveLine]
          split
          · exact ⟨_, rfl⟩
          · split
            · exact ⟨_, rfl⟩
            · have content : arrival.content = .ok byte := content
              simp only [content]
              rw [if_neg inner]
              split
              · exact ⟨_, rfl⟩
              · refine ih (fun member => single (List.mem_cons_of_mem _ member)) ?_ ?_ following
                · rw [List.length_append, List.length_singleton]
                  omega
                · rw [List.length_append, List.length_singleton]
                  omega

/-- Empty lines in front of a longer line do not help. -/
theorem receiveLine_long_behind {blanks : Nat} (single : newline ∉ body)
    (long : protocolMessageLimit < body.length)
    (contents : arrivals.map (·.content) = (List.replicate blanks newline ++ body).map .ok) :
    ∃ error, (receiveLine codec closed deadline (arrivals ++ rest) now []).1 = .error error := by
  induction blanks generalizing arrivals now with
  | zero => exact receiveLine_long single (by simpa using long) (Nat.zero_le _) contents
  | succ blanks ih =>
      cases arrivals with
      | nil => cases contents
      | cons arrival tail =>
          obtain ⟨content, following⟩ := List.cons.inj contents
          rw [List.cons_append, receiveLine]
          split
          · exact ⟨_, rfl⟩
          · split
            · exact ⟨_, rfl⟩
            · have content : arrival.content = .ok newline := content
              simp only [content, if_true]
              exact ih following

end Framing

section Calls

structure QmpCall where
  command : String
  arguments : Option Json

/-- A call that has returned: the number of its request, what it sent, what came in
answer, what it read and its result. -/
structure QmpReturn where
  call : QmpCall
  id : Nat
  sent : List Bytes
  fresh : List Arrival
  read : List Arrival
  result : Except ProviderError Json

variable (codec : JsonCodec)

/-- The message of a call. -/
def QmpCall.message (call : QmpCall) (id : Nat) : Bytes :=
  codec.toVec (QmpClient.request call.command id call.arguments) ++ [newline]

/-- One call, and what it did to the line. -/
def QmpClient.perform (client : QmpClient) (call : QmpCall) : QmpReturn × QmpClient :=
  let executed := client.execute codec call.command call.arguments
  let sent := executed.2.line.sent.drop client.line.sent.length
  let fresh :=
    if sent = [] then []
    else match client.line.respond (client.line.sent ++ sent) with
      | .ok arrivals => arrivals
      | .error _ => []
  let available := client.line.incoming ++ fresh
  (⟨call, client.nextId, sent, fresh,
    available.take (available.length - executed.2.line.incoming.length), executed.1⟩, executed.2)

/-- One call after the other. -/
def QmpClient.performAll : QmpClient → List QmpCall → List QmpReturn × QmpClient
  | client, [] => ([], client)
  | client, call :: calls =>
      let performed := client.perform codec call
      let others := performed.2.performAll calls
      (performed.1 :: others.1, others.2)

end Calls

section Steps
variable {codec : JsonCodec} {client : QmpClient} {call : QmpCall} {command : String} {id : Nat}

/-- The events that a call passes over. -/
def Passed (codec : JsonCodec) (segments : List (List Arrival)) : Prop :=
  ∀ segment ∈ segments, ∃ event, Delivers codec segment event ∧ (event.get "event").isSome = true

/-- What the wait for a response did to the line. -/
structure Waited (codec : JsonCodec) (command : String) (id events : Nat) (client : QmpClient)
    (result : Except ProviderError Json) (after : QmpClient) : Prop where
  nextId : after.nextId = client.nextId
  sent : after.line.sent = client.line.sent
  left : after.line.incoming <:+ client.line.incoming
  answered : ∀ value, result = .ok value → ∃ skipped reply response,
    client.line.incoming = skipped.flatten ++ (reply ++ after.line.incoming) ∧
      skipped.length ≤ events ∧ Passed codec skipped ∧ Delivers codec reply response ∧
      response.get "event" = none ∧ QmpClient.answer command id response = .ok value

theorem Waited.failed {events : Nat} {error : ProviderError} {after : QmpClient}
    (nextId : after.nextId = client.nextId) (sent : after.line.sent = client.line.sent)
    (left : after.line.incoming <:+ client.line.incoming) :
    Waited codec command id events client (.error error) after :=
  ⟨nextId, sent, left, fun value same => by cases same⟩

/-- An event that may still come is passed over. -/
theorem Waited.behind_event {events : Nat} {line : Line} {event : Json} {after : QmpClient}
    {result : Except ProviderError Json}
    (received : receiveMessage codec client.deadline client.line = (.ok event, line))
    (marked : (event.get "event").isSome = true)
    (waited : Waited codec command id events { client with line := line } result after) :
    Waited codec command id (events + 1) client result after := by
  obtain ⟨segment, split, delivers, same⟩ := receiveMessage_ok received
  refine ⟨waited.nextId, ?_, ?_, fun value ends => ?_⟩
  · rw [waited.sent, same]
  · rw [split]
    exact waited.left.trans (List.suffix_append _ _)
  · obtain ⟨skipped, reply, response, rest, few, passed, replied, plain, answered⟩ :=
      waited.answered value ends
    refine ⟨segment :: skipped, reply, response, ?_, Nat.succ_le_succ few, ?_, replied, plain,
      answered⟩
    · rw [split, List.flatten_cons, List.append_assoc]
      exact congrArg (segment ++ ·) rest
    · intro other member
      rcases List.mem_cons.mp member with rfl | later
      · exact ⟨event, delivers, marked⟩
      · exact passed other later

theorem awaitAnswer_waited (events : Nat) :
    Waited codec command id events client (client.awaitAnswer codec command id events).1
      (client.awaitAnswer codec command id events).2 := by
  fun_induction QmpClient.awaitAnswer codec command id events client with
  | case1 events client late => exact Waited.failed rfl rfl List.suffix_rfl
  | case2 events client timely error line received =>
      obtain ⟨_, rfl⟩ := Prod.mk.inj received
      exact Waited.failed rfl rfl receiveLine_suffix
  | case3 client timely event line received marked =>
      obtain ⟨_, rfl⟩ := Prod.mk.inj received
      exact Waited.failed rfl rfl receiveLine_suffix
  | case4 client timely event line received marked events ih =>
      exact Waited.behind_event received marked ih
  | case5 events client timely response line received plain =>
      obtain ⟨segment, split, delivers, same⟩ := receiveMessage_ok received
      refine ⟨rfl, by rw [same], ?_, fun value ends => ?_⟩
      · rw [split]
        exact List.suffix_append _ _
      · exact ⟨[], segment, response, split, Nat.zero_le _, by simp [Passed], delivers,
          by simpa using plain, ends⟩

theorem sendMessage_cases {value : Json} {deadline : Nat} {line after : Line}
    {result : Except ProviderError Unit}
    (sends : sendMessage codec value deadline line = (result, after)) :
    (∃ error, result = .error error ∧ after = line) ∨
      (result = .ok () ∧ ∃ arrivals,
        line.respond (line.sent ++ [codec.toVec value ++ [newline]]) = .ok arrivals ∧
        after = { line with
          incoming := line.incoming ++ arrivals
          sent := line.sent ++ [codec.toVec value ++ [newline]] }) := by
  unfold sendMessage at sends
  simp only at sends
  split at sends
  · obtain ⟨rfl, rfl⟩ := Prod.mk.inj sends
    exact Or.inl ⟨_, rfl, rfl⟩
  · split at sends
    · obtain ⟨rfl, rfl⟩ := Prod.mk.inj sends
      exact Or.inl ⟨_, rfl, rfl⟩
    · split at sends
      · obtain ⟨rfl, rfl⟩ := Prod.mk.inj sends
        exact Or.inl ⟨_, rfl, rfl⟩
      · rename_i arrivals responds
        obtain ⟨rfl, rfl⟩ := Prod.mk.inj sends
        exact Or.inr ⟨rfl, arrivals, responds, rfl⟩

/-- A call sends nothing, or it sends its message and waits for the response. -/
theorem execute_cases :
    (∃ error number, client.nextId ≤ number ∧
      client.execute codec call.command call.arguments =
        (.error error, { client with nextId := number })) ∨
      ∃ arrivals line, line.incoming = client.line.incoming ++ arrivals ∧
        line.sent = client.line.sent ++ [call.message codec client.nextId] ∧
        client.line.respond line.sent = .ok arrivals ∧
        client.execute codec call.command call.arguments =
          QmpClient.awaitAnswer codec call.command client.nextId QmpClient.maxEvents
            { client with line := line, nextId := client.nextId + 1 } := by
  unfold QmpClient.execute
  split
  · exact Or.inl ⟨_, client.nextId, Nat.le_refl _, rfl⟩
  · simp only
    split
    · rename_i error line sends
      rcases sendMessage_cases sends with ⟨_, _, rfl⟩ | ⟨failed, _⟩
      · exact Or.inl ⟨_, client.nextId + 1, Nat.le_succ _, rfl⟩
      · cases failed
    · rename_i line sends
      rcases sendMessage_cases sends with ⟨_, failed, _⟩ | ⟨_, arrivals, responds, rfl⟩
      · cases failed
      · exact Or.inr ⟨arrivals, _, rfl, rfl, responds, rfl⟩

/-- The result of a call is what the first message that is no event returns. -/
def Answers (codec : JsonCodec) (returned : QmpReturn) (value : Json) : Prop :=
  returned.sent = [returned.call.message codec returned.id] ∧
    ∃ skipped reply response, returned.read = skipped.flatten ++ reply ∧
      skipped.length ≤ QmpClient.maxEvents ∧ Passed codec skipped ∧
      Delivers codec reply response ∧ response.get "event" = none ∧
      (response.get "id").bind Json.asU64 = some returned.id ∧
      response.get "error" = none ∧ response.get "return" = some value

theorem answer_ok {response value : Json} (answered : QmpClient.answer command id response = .ok value) :
    (response.get "id").bind Json.asU64 = some id ∧ response.get "error" = none ∧
      response.get "return" = some value := by
  unfold QmpClient.answer at answered
  split at answered
  · cases answered
  · rename_i same
    split at answered
    · cases answered
    · rename_i fine
      split at answered
      · rename_i found
        obtain rfl := Except.ok.inj answered
        exact ⟨not_not.mp same, by simpa using fine, found⟩
      · cases answered

/-- What one call does to the stream and to the numbers. -/
structure Performed (codec : JsonCodec) (client : QmpClient) (returned : QmpReturn)
    (after : QmpClient) : Prop where
  numbered : returned.id = client.nextId
  ascending : client.nextId ≤ after.nextId
  counted : ∀ value, returned.result = .ok value → client.nextId < after.nextId
  stream : client.line.incoming ++ returned.fresh = returned.read ++ after.line.incoming
  answers : ∀ value, returned.result = .ok value → Answers codec returned value

theorem take_of_suffix {A : Type} {whole left : List A} (suffix : left <:+ whole) :
    whole = whole.take (whole.length - left.length) ++ left := by
  obtain ⟨read, rfl⟩ := suffix
  simp

theorem perform_performed :
    Performed codec client (client.perform codec call).1 (client.perform codec call).2 := by
  rcases @execute_cases codec client call with ⟨error, number, ascending, fails⟩ |
    ⟨arrivals, line, incoming, sent, responds, waits⟩
  · unfold QmpClient.perform
    rw [fails]
    refine ⟨rfl, ascending, ?_, by simp, ?_⟩
    · intro value same
      cases same
    · intro value same
      cases same
  · have waited := @awaitAnswer_waited codec { client with line := line, nextId := client.nextId + 1 }
      call.command client.nextId QmpClient.maxEvents
    rw [← waits] at waited
    have left : (client.execute codec call.command call.arguments).2.line.incoming <:+
        client.line.incoming ++ arrivals := by
      rw [← incoming]
      exact waited.left
    have message : (client.execute codec call.command call.arguments).2.line.sent.drop
        client.line.sent.length = [call.message codec client.nextId] := by
      rw [waited.sent]
      simp only [sent, List.drop_left]
    have shape : (client.perform codec call).1 = ⟨call, client.nextId,
        [call.message codec client.nextId], arrivals,
        (client.line.incoming ++ arrivals).take ((client.line.incoming ++ arrivals).length -
          (client.execute codec call.command call.arguments).2.line.incoming.length),
        (client.execute codec call.command call.arguments).1⟩ := by
      unfold QmpClient.perform
      simp only [message, ← sent, responds, List.cons_ne_nil, if_false]
    rw [shape]
    refine ⟨rfl, ?_, fun value _ => ?_, take_of_suffix left, fun value ends => ⟨rfl, ?_⟩⟩
    · exact (Nat.le_succ _).trans_eq waited.nextId.symm
    · exact (Nat.lt_succ_self _).trans_eq waited.nextId.symm
    · obtain ⟨skipped, reply, response, split, few, passed, replied, plain, answered⟩ :=
        waited.answered value ends
      refine ⟨skipped, reply, response, ?_, few, passed, replied, plain, answer_ok answered⟩
      have whole := take_of_suffix left
      have parts : client.line.incoming ++ arrivals = (skipped.flatten ++ reply) ++
          (client.execute codec call.command call.arguments).2.line.incoming := by
        rw [← incoming, List.append_assoc]
        exact split
      exact List.append_cancel_right (whole.symm.trans parts)

end Steps

section Runs
variable {codec : JsonCodec} {client after : QmpClient} {calls : List QmpCall}

/-- What the calls of a client did, one after the other. Each read its own part of
the stream, from where the one before it stopped. -/
structure Matched (codec : JsonCodec) (client : QmpClient) (calls : List QmpCall)
    (returns : List QmpReturn) (after : QmpClient) : Prop where
  called : returns.map (·.call) = calls
  ascending : ∀ returned ∈ returns, client.nextId ≤ returned.id
  distinct : returns.Pairwise fun earlier later =>
    ∀ value, earlier.result = .ok value → earlier.id < later.id
  stream : client.line.incoming ++ returns.flatMap (·.fresh) =
    returns.flatMap (·.read) ++ after.line.incoming
  answers : ∀ returned ∈ returns, ∀ value, returned.result = .ok value →
    Answers codec returned value

theorem Matched.nil : Matched codec client [] [] client where
  called := rfl
  ascending := by simp
  distinct := List.Pairwise.nil
  stream := by simp
  answers := by simp

theorem Matched.cons {returned : QmpReturn} {between : QmpClient} {returns : List QmpReturn}
    (performed : Performed codec client returned between)
    (others : Matched codec between calls returns after) :
    Matched codec client (returned.call :: calls) (returned :: returns) after where
  called := by rw [List.map_cons, others.called]
  ascending := by
    intro other member
    rcases List.mem_cons.mp member with rfl | later
    · exact performed.numbered.ge
    · exact performed.ascending.trans (others.ascending other later)
  distinct := by
    refine List.pairwise_cons.mpr ⟨fun other member value ends => ?_, others.distinct⟩
    calc returned.id = client.nextId := performed.numbered
      _ < between.nextId := performed.counted value ends
      _ ≤ other.id := others.ascending other member
  stream := by
    calc client.line.incoming ++ (returned :: returns).flatMap (·.fresh)
        = (client.line.incoming ++ returned.fresh) ++ returns.flatMap (·.fresh) := by
          rw [List.flatMap_cons, List.append_assoc]
      _ = returned.read ++ (between.line.incoming ++ returns.flatMap (·.fresh)) := by
          rw [performed.stream, List.append_assoc]
      _ = (returned :: returns).flatMap (·.read) ++ after.line.incoming := by
          rw [others.stream, List.flatMap_cons, List.append_assoc]
  answers := by
    intro other member
    rcases List.mem_cons.mp member with rfl | later
    · exact performed.answers
    · exact others.answers other later

theorem performAll_matched : Matched codec client calls (client.performAll codec calls).1
    (client.performAll codec calls).2 := by
  induction calls generalizing client with
  | nil => exact Matched.nil
  | cons call calls ih => exact Matched.cons perform_performed ih

/-- The lines of one side are read as the values of the other. -/
structure Framed (codec : JsonCodec) : Prop where
  writes : ∀ value deadline line arrivals,
    (codec.toVec value).length ≤ protocolMessageLimit → line.now < deadline →
    line.respond (line.sent ++ [codec.toVec value ++ [newline]]) = .ok arrivals →
      sendMessage codec value deadline line = (.ok (), { line with
        incoming := line.incoming ++ arrivals
        sent := line.sent ++ [codec.toVec value ++ [newline]] })
  reads : ∀ value deadline blanks (line : Line) arrivals rest, codec.Faithful value →
    (codec.toVec value).length ≤ protocolMessageLimit → line.now < deadline →
    Prompt deadline arrivals (List.replicate blanks newline ++ (codec.toVec value ++ [newline])) →
    line.incoming = arrivals ++ rest →
      ∃ later, receiveMessage codec deadline line =
        (.ok value, { line with now := later, incoming := rest })
  refuses : ∀ deadline blanks body (line : Line) arrivals rest, newline ∉ body →
    protocolMessageLimit < body.length →
    arrivals.map (·.content) = (List.replicate blanks newline ++ body).map .ok →
    line.incoming = arrivals ++ rest →
      ∃ error, (receiveMessage codec deadline line).1 = .error error

theorem framed : Framed codec where
  writes := by
    intro value deadline line arrivals fits timely responds
    unfold sendMessage
    simp only
    rw [if_neg (Nat.not_lt.mpr fits), if_neg (Nat.not_le.mpr timely), responds]
  reads := by
    intro value deadline blanks line arrivals rest faithful fits timely prompt incoming
    obtain ⟨later, reads⟩ := @receiveLine_delivered codec line.closed deadline line.now arrivals
      rest value faithful blanks fits prompt timely
    refine ⟨later, ?_⟩
    unfold receiveMessage
    rw [incoming, reads]
  refuses := by
    intro deadline blanks body line arrivals rest single long contents incoming
    unfold receiveMessage
    rw [incoming]
    exact receiveLine_long_behind single long contents

end Runs

/-- Every call is answered by its own response, and lines carry values faithfully. -/
theorem requests_are_matched (codec : JsonCodec) :
    (∀ client calls, Matched codec client calls (client.performAll codec calls).1
      (client.performAll codec calls).2) ∧ Framed codec :=
  ⟨fun _ _ => performAll_matched, framed⟩

namespace Exemplar

def emptyReturn : Json := .object [("return", .object [])]

/-- JSON with one response. -/
def returning : JsonCodec where
  toVec
    | .object [("return", .object [])] => returnLine "\x7b\x7d"
    | _ => []
  fromSlice bytes := if bytes = returnLine "\x7b\x7d" then some emptyReturn else none

theorem returning_faithful : returning.Faithful emptyReturn where
  single := by decide
  nonempty := by decide
  reads := by simp [returning, emptyReturn]

/-- Two empty lines and a response. -/
def chatter : List Arrival :=
  arriving 0 (List.replicate 2 newline ++ (returning.toVec emptyReturn ++ [newline]))

end Exemplar

theorem requests_are_matched_behind_blanks :
    ∃ later, receiveMessage Exemplar.returning 1
        ⟨0, Exemplar.chatter ++ [⟨0, .ok openBrace⟩], false, fun _ => .ok [], []⟩ =
      (.ok Exemplar.emptyReturn, ⟨later, [⟨0, .ok openBrace⟩], false, fun _ => .ok [], []⟩) := by
  have small : (Exemplar.returning.toVec Exemplar.emptyReturn).length ≤ protocolMessageLimit := by
    decide
  have prompt : Prompt 1 Exemplar.chatter (List.replicate 2 newline ++
      (Exemplar.returning.toVec Exemplar.emptyReturn ++ [newline])) := prompt_arriving Nat.one_pos
  exact (requests_are_matched Exemplar.returning).2.reads Exemplar.emptyReturn 1 2
    ⟨0, Exemplar.chatter ++ [⟨0, .ok openBrace⟩], false, fun _ => .ok [], []⟩ Exemplar.chatter
    [⟨0, .ok openBrace⟩] Exemplar.returning_faithful small Nat.one_pos prompt rfl

end VmCell
