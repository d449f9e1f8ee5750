import VmCell.Properties.Authority
import VmCell.Properties.Synchronisation

/-! Waiting for a guest over its agent.

The engine probes the guest until a deadline, and each probe is an encounter with
the agent's endpoint. Whether the engine keeps waiting depends on what the
transport makes of an endpoint that accepts the connection and says nothing.
-/

set_option autoImplicit false
namespace VmCell

open Interaction Fallible

section Encounters
variable {codec : JsonCodec} {encounter : Encounter} {timeout : Duration} {now : Nat}

/-- The endpoint accepts the connection and then says nothing. -/
structure Silent (codec : JsonCodec) (encounter : Encounter) : Prop where
  proven : encounter.proof = .ok ()
  accepted : encounter.endpoint.refusals = []
  sendable : (codec.toVec (syncRequest encounter.syncId)).length ≤ qgaFrameLimit
  quiet : ∀ now, encounter.endpoint.accept now = ⟨now, [], false, fun _ => .ok [], []⟩

/-- The agent answers a connection made at this instant, all of it in time. -/
structure Answered (codec : JsonCodec) (encounter : Encounter) (now : Nat) (timeout : Duration) :
    Prop where
  proven : encounter.proof = .ok ()
  accepted : encounter.endpoint.refusals = []
  bounded : encounter.syncId < 2 ^ 64
  sendable : (codec.toVec (syncRequest encounter.syncId)).length ≤ qgaFrameLimit
  answer : ∃ (sync : Reply codec) (syncInstant : Nat) (exchange : Exchange codec) (value : Json),
    encounter.endpoint.accept now = Agent.line ⟨sync, syncInstant, [exchange]⟩ [] now ∧
      sync.value = .object [("return", .number encounter.syncId)] ∧
      syncInstant < now + timeout ∧ exchange.command = "guest-info" ∧
      exchange.arguments = none ∧ exchange.instant < now + timeout ∧
      exchange.reply.result = .ok value

/-- A silent endpoint is met with a timeout at the deadline of the probe. -/
theorem Silent.probe (silent : Silent codec encounter) (positive : 0 < timeout) :
    probe codec encounter.endpoint timeout encounter.syncId now =
      (.error .timeout, now + timeout) := by
  have patience : ¬now + min timeout (seconds 5) ≤ now :=
    Nat.not_le.mpr (Nat.lt_add_of_pos_right (lt_min positive (by decide)))
  have timely : ¬now + timeout ≤ now := Nat.not_le.mpr (Nat.lt_add_of_pos_right positive)
  have short : ¬(codec.toVec (QgaClient.request "guest-sync-delimited"
      (some (.object [("id", .number encounter.syncId)])))).length > qgaFrameLimit :=
    Nat.not_lt.mpr silent.sendable
  have dialled : connectEndpoint encounter.endpoint (min timeout (seconds 5)) now =
      (.ok ⟨now, [], false, fun _ => .ok [], []⟩, now) := by
    simp only [connectEndpoint, silent.accepted, connectFrom, if_neg patience, silent.quiet]
  simp only [VmCell.probe, QgaClient.connect, if_neg positive.ne', dialled, QgaClient.synchronise,
    if_neg timely, Line.write, QgaClient.execute, if_neg short, QgaClient.awaitResponse,
    QgaClient.receive, List.append_nil, receiveFrom, Bool.false_eq_true, if_false]

/-- An endpoint that answers is ready. -/
theorem Answered.probe (answered : Answered codec encounter now timeout) (positive : 0 < timeout) :
    ∃ later, probe codec encounter.endpoint timeout encounter.syncId now = (.ok (), later) := by
  obtain ⟨sync, syncInstant, exchange, value, accepts, answers, prompt, command, arguments, early,
    result⟩ := answered.answer
  have patience : ¬now + min timeout (seconds 5) ≤ now :=
    Nat.not_le.mpr (Nat.lt_add_of_pos_right (lt_min positive (by decide)))
  have same : ∀ connection : QgaClient × Nat,
      QgaClient.connect codec ⟨[], Agent.line ⟨sync, syncInstant, [exchange]⟩ []⟩ timeout
        encounter.syncId now = (.ok connection.1, connection.2) →
      QgaClient.connect codec encounter.endpoint timeout encounter.syncId now =
        (.ok connection.1, connection.2) := by
    intro connection connected
    rw [← connected]
    simp only [QgaClient.connect, connectEndpoint, answered.accepted, connectFrom, if_neg patience,
      accepts]
  obtain ⟨client, later, connected, executed⟩ := @resynchronises_of_clear codec [] timeout
    encounter.syncId now sync syncInstant [exchange] answered.sendable answered.bounded answers
    positive prompt (by simpa) (by simp) (by simp [qgaFrameLimit])
  have replied : (client.execute codec "guest-info" none).1 = .ok value := by
    rw [← command, ← arguments, ← result]
    exact (List.cons.inj executed).1
  refine ⟨(client.execute codec "guest-info" none).2.line.now, ?_⟩
  unfold VmCell.probe
  rw [same (client, later) connected]
  simp only
  split
  · rename_i failed
    rw [failed] at replied
    cases replied
  · rename_i done
    rw [done]

end Encounters

section Waiting

/-- The instant and the number of probes so far. -/
structure Watch where
  instant : Nat
  attempts : Nat

/-- A host whose guest is reached over its agent; the rest of it is any other host. -/
def agentHost (codec : JsonCodec) (schedule : Nat → Encounter) (other : Host Watch) :
    Host Watch :=
  { other with
    transport := fun authority operationId action watch =>
      match action with
      | .probeReady timeout =>
          let probed := probeReady codec authority (schedule watch.attempts) timeout watch.instant
          (probed.1, ⟨probed.2, watch.attempts + 1⟩)
      | action => other.transport authority operationId action watch
    answer := fun o watch =>
      match o with
      | .instant => (watch.instant, watch)
      | .sleep duration => ((), { watch with instant := watch.instant + duration })
      | o => other.answer o watch }

variable (codec : JsonCodec) (schedule : Nat → Encounter) (policy : ReadinessPolicy)
  (opening : Nat)

/-- How long the probe that starts at this instant may take. -/
def attemptTimeout (start : Nat) : Duration :=
  min (opening + policy.timeout - start) (15 * nanosPerSecond)

/-- When a probe starts, if all before it were met with silence and waited for. -/
def attemptStart : Nat → Nat
  | 0 => opening
  | count + 1 =>
      let start := attemptStart count
      let answered := start + (schedule count).proving + attemptTimeout policy opening start
      answered + min policy.pollInterval (opening + policy.timeout - answered)

/-- The guest answers the probe of this number and none before it, or no probe. -/
def Follows : Option Nat → Prop
  | none => ∀ count, Silent codec (schedule count)
  | some count => (∀ earlier, earlier < count → Silent codec (schedule earlier)) ∧
      attemptStart schedule policy opening count < opening + policy.timeout ∧
      Answered codec (schedule count)
        (attemptStart schedule policy opening count + (schedule count).proving)
        (attemptTimeout policy opening (attemptStart schedule policy opening count))

/-- A guest that answers in time is waited for, and one that does not is not ready. -/
def Met (result : Option (Except EngineError Unit)) : Option Nat → Prop
  | none => result = some (.error (.guest .guestNotReady))
  | some _ => result = some (.ok ())

variable {codec schedule policy} {other : Host Watch} {site : Site} {w : World Watch}
  {authority : GuestActionAuthority} {operationId : GuestOperationId} {rounds : Nat}

theorem validateReadinessPolicy_positive (valid : validateReadinessPolicy policy = .ok ()) :
    0 < policy.timeout := by
  simp only [validateReadinessPolicy, require_ok, Bool.and_eq_true, decide_eq_true_eq] at valid
  exact Nat.pos_of_ne_zero valid.1.1

/-- The first probe decides, unless it finds the guest not ready. -/
theorem meets_waitForGuestReady {good : Unit → World Watch → Prop}
    {bad : EngineError → World Watch → Prop} (valid : validateReadinessPolicy policy = .ok ())
    (first : match (probeReady codec authority (schedule w.hidden.attempts)
        (attemptTimeout policy w.hidden.instant w.hidden.instant) w.hidden.instant).1 with
      | .ok .ready => ∀ t, good () t
      | .ok _ => False
      | .error error => ∀ t, bad (.guest error) t) :
    Meets ((agentHost codec schedule other).handler site) Acts good bad
      (waitForGuestReady (rounds + 1) authority operationId policy) w := by
  have positive := validateReadinessPolicy_positive valid
  refine Meets.bind (Meets.lift (fun _ _ => ?_) fun error failed => ?_)
  · refine Meets.bind (Meets.effect (I := signature) trivial ?_)
    change Meets _ _ _ _ (pollGuestReady authority operationId policy
      (w.hidden.instant + policy.timeout) (rounds + 1) .guestNotReady) w
    refine Meets.bind (Meets.effect (I := signature) trivial ?_)
    change Meets _ _ _ _ (if w.hidden.instant + policy.timeout - w.hidden.instant = 0 then _
      else _) w
    refine Meets.ite (fun ended => absurd ended ?_) fun _ => ?_
    · rw [Nat.add_sub_cancel_left]
      exact positive.ne'
    · refine Meets.bind (Meets.effect (I := signature) trivial ?_)
      -- the reply of the transport is that of the first probe
      generalize found : probeReady codec authority (schedule w.hidden.attempts)
        (attemptTimeout policy w.hidden.instant w.hidden.instant) w.hidden.instant = probed at first
      change Ends _ _ ((probeReady codec authority (schedule w.hidden.attempts)
        (attemptTimeout policy w.hidden.instant w.hidden.instant) w.hidden.instant).1.mapError
          EngineError.guest) _
      rw [found]
      obtain ⟨reply, later⟩ := probed
      cases reply with
      | error error => exact first _
      | ok status =>
          cases status with
          | ready => exact first _
          | guestNotReady => exact first.elim
          | authenticationFailed => exact first.elim
          | sessionFailed => exact first.elim
  · rw [valid] at failed
    cases failed

theorem attemptTimeout_positive (valid : validateReadinessPolicy policy = .ok ()) :
    0 < attemptTimeout policy w.hidden.instant w.hidden.instant := by
  refine lt_min ?_ (by decide)
  rw [Nat.add_sub_cancel_left]
  exact validateReadinessPolicy_positive valid

/-- The first probe answers what the encounter with the endpoint comes to. -/
theorem probeReady_first {result : Except GuestIoError Unit × Nat}
    (authorised : authority.validate = .ok ()) (qemu : authority.record.provider = "qemu")
    (fresh : w.hidden.attempts = 0) (proven : (schedule 0).proof = .ok ())
    (probed : probe codec (schedule 0).endpoint
      (attemptTimeout policy w.hidden.instant w.hidden.instant) (schedule 0).syncId
      (w.hidden.instant + (schedule 0).proving) = result) :
    (probeReady codec authority (schedule w.hidden.attempts)
      (attemptTimeout policy w.hidden.instant w.hidden.instant) w.hidden.instant).1 =
      readiness result.1 := by
  simp only [probeReady, authorised, qemu, fresh, proven, probed, ne_eq, not_true_eq_false,
    if_false]

/-- Silence at the first probe ends the wait with a timeout. -/
theorem wait_silent (valid : validateReadinessPolicy policy = .ok ())
    (authorised : authority.validate = .ok ()) (qemu : authority.record.provider = "qemu")
    (fresh : w.hidden.attempts = 0) (silent : Silent codec (schedule 0)) :
    ((waitForGuestReady (rounds + 1) authority operationId policy).run
      ((agentHost codec schedule other).handler site) true w).1 =
      some (.error (.guest .timeout)) := by
  have first := @probeReady_first codec schedule policy w authority _ authorised qemu fresh
    silent.proven (silent.probe (attemptTimeout_positive valid))
  have ends := @meets_waitForGuestReady codec schedule policy other site w authority operationId
    rounds (fun _ _ => False) (fun error _ => error = .guest .timeout) valid
    (by rw [first]; exact fun _ => rfl)
  obtain ⟨result, t, runs, ended⟩ := Does.run ends
  rw [runs]
  cases result with
  | ok value => exact ended.elim
  | error error =>
      obtain rfl : error = .guest .timeout := ended
      rfl

/-- An answer to the first probe ends the wait with success. -/
theorem wait_answered (valid : validateReadinessPolicy policy = .ok ())
    (authorised : authority.validate = .ok ()) (qemu : authority.record.provider = "qemu")
    (fresh : w.hidden.attempts = 0)
    (answered : Answered codec (schedule 0) (w.hidden.instant + (schedule 0).proving)
      (attemptTimeout policy w.hidden.instant w.hidden.instant)) :
    ((waitForGuestReady (rounds + 1) authority operationId policy).run
      ((agentHost codec schedule other).handler site) true w).1 = some (.ok ()) := by
  obtain ⟨later, probed⟩ := answered.probe (attemptTimeout_positive valid)
  have first := @probeReady_first codec schedule policy w authority _ authorised qemu fresh
    answered.proven probed
  have ends := @meets_waitForGuestReady codec schedule policy other site w authority operationId
    rounds (fun _ _ => True) (fun _ _ => False) valid (by rw [first]; exact fun _ => trivial)
  obtain ⟨result, t, runs, ended⟩ := Does.run ends
  rw [runs]
  cases result with
  | ok value => rfl
  | error error => exact ended.elim

/-- The wait succeeds, or ends not ready, as it should exactly when the guest
answers the first probe. -/
theorem readiness_met_iff {answered : Option Nat} (valid : validateReadinessPolicy policy = .ok ())
    (authorised : authority.validate = .ok ()) (qemu : authority.record.provider = "qemu")
    (fresh : w.hidden.attempts = 0)
    (follows : Follows codec schedule policy w.hidden.instant answered) :
    Met ((waitForGuestReady (rounds + 1) authority operationId policy).run
      ((agentHost codec schedule other).handler site) true w).1 answered ↔ answered = some 0 := by
  constructor
  · intro met
    have silence : Silent codec (schedule 0) → False := by
      intro silent
      rw [wait_silent valid authorised qemu fresh silent] at met
      cases answered with
      | none => cases met
      | some count => cases met
    cases answered with
    | none => exact (silence (follows 0)).elim
    | some count =>
        cases count with
        | zero => rfl
        | succ count => exact (silence (follows.1 0 (Nat.succ_pos count))).elim
  · rintro rfl
    exact wait_answered valid authorised qemu fresh follows.2.2

end Waiting

namespace Exemplar

/-- The authority over the running machine of the exemplary cell. -/
def guestAuthority : GuestActionAuthority :=
  ⟨authority.record, { machine with powerState := .running }, authority.installation,
    authority.runtime⟩

def infoExchange (instant : Nat) : Exchange json :=
  ⟨"guest-info", none, by decide, emptyReply, instant⟩

/-- An endpoint whose agent answers at once. -/
def promptEncounter : Encounter :=
  ⟨.ok (), 0, ⟨[], fun now => Agent.line ⟨syncReply, now, [infoExchange now]⟩ [] now⟩, 7⟩

/-- An endpoint whose agent has not started. -/
def silentEncounter : Encounter :=
  ⟨.ok (), 0, ⟨[], fun now => ⟨now, [], false, fun _ => .ok [], []⟩⟩, 7⟩

theorem promptEncounter_answered {now : Nat} {timeout : Duration} (positive : 0 < timeout) :
    Answered json promptEncounter now timeout where
  proven := rfl
  accepted := rfl
  bounded := by decide
  sendable := sync_sendable
  answer := ⟨syncReply, now, infoExchange now, .object [], rfl, rfl,
    Nat.lt_add_of_pos_right positive, rfl, rfl, Nat.lt_add_of_pos_right positive, rfl⟩

theorem silentEncounter_silent : Silent json silentEncounter := ⟨rfl, rfl, sync_sendable, fun _ => rfl⟩

/-- A host on which only the time and the guest matter. -/
def stillHost : Host Watch where
  act a action w := ((host.act a action none).1, w)
  transport a id action w := ((host.transport a id action none).1, w)
  inspect lookup w := ((host.inspect lookup none).1, w)
  answer o w := ((host.answer o none).1, w)
  delay _ := 0
  draw w := ((host.draw none).1, w)

def minute : ReadinessPolicy := ⟨60 * nanosPerSecond, nanosPerSecond⟩

theorem guestAuthority_valid : guestAuthority.validate = .ok () := by decide +kernel

end Exemplar

theorem readiness_met_at_once :
    Met ((waitForGuestReady 1 Exemplar.guestAuthority ⟨Exemplar.uuid 4⟩ Exemplar.minute).run
      ((agentHost Exemplar.json (fun _ => Exemplar.promptEncounter) Exemplar.stillHost).handler
        Exemplar.site) true ⟨Store.empty, 0, ⟨0, 0⟩⟩).1 (some 0) := by
  have valid : validateReadinessPolicy Exemplar.minute = .ok () := by decide
  have follows : Follows Exemplar.json (fun _ => Exemplar.promptEncounter) Exemplar.minute 0
      (some 0) := by
    refine ⟨?_, ?_, Exemplar.promptEncounter_answered (by decide)⟩
    · exact fun earlier before => absurd before (Nat.not_lt_zero earlier)
    · decide
  exact (readiness_met_iff valid Exemplar.guestAuthority_valid rfl rfl follows).mpr rfl

/-- A guest that would answer the second probe is given up after the first. -/
theorem silent_probe_ends_wait :
    let schedule := fun count => if count = 0 then Exemplar.silentEncounter
      else Exemplar.promptEncounter
    validateReadinessPolicy Exemplar.minute = .ok () ∧
      Follows Exemplar.json schedule Exemplar.minute 0 (some 1) ∧
      ¬Met ((waitForGuestReady 3 Exemplar.guestAuthority ⟨Exemplar.uuid 4⟩ Exemplar.minute).run
        ((agentHost Exemplar.json schedule Exemplar.stillHost).handler Exemplar.site) true
        ⟨Store.empty, 0, ⟨0, 0⟩⟩).1 (some 1) := by
  have valid : validateReadinessPolicy Exemplar.minute = .ok () := by decide
  refine ⟨valid, ⟨?_, ?_, ?_⟩, ?_⟩
  · intro earlier before
    obtain rfl : earlier = 0 := by omega
    exact Exemplar.silentEncounter_silent
  · decide
  · exact Exemplar.promptEncounter_answered (by decide)
  · rw [wait_silent valid Exemplar.guestAuthority_valid rfl rfl Exemplar.silentEncounter_silent]
    intro met
    cases met

end VmCell
