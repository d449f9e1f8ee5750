import Mathlib.Data.Nat.Digits.Defs
import VmCell.Properties.Synchronisation

/-! The identifier with which the guest agent's client synchronises.

The schema of the agent gives it a signed integer of 64 bits. The client takes the
lower half of a random UUID, which begins with the bits of the variant.
-/

set_option autoImplicit false
namespace VmCell

def i64Max : Nat := 2 ^ 63 - 1

section Layout
variable {value : Uuid}

/-- The digits in the order in which numbers are read. -/
theorem asU128_eq (value : Uuid) :
    value.asU128 = Nat.ofDigits 16 (value.digits.reverse.map Fin.val) := by
  unfold Uuid.asU128
  rw [Nat.ofDigits_eq_foldr, List.foldr_map, List.foldr_reverse]
  simp [add_comm]

/-- The lower half holds the last sixteen digits. -/
theorem syncIdentifier_eq (value : Uuid) :
    syncIdentifier value = Nat.ofDigits 16 ((value.digits.drop 16).reverse.map Fin.val) := by
  have below : ∀ digit ∈ value.digits.reverse.map Fin.val, digit < 16 := by
    intro digit member
    obtain ⟨_, _, rfl⟩ := List.mem_map.mp member
    exact Fin.isLt _
  have half : (2 : Nat) ^ 64 = 16 ^ 16 := by norm_num
  unfold syncIdentifier
  rw [asU128_eq, half, Nat.ofDigits_mod_pow_eq_ofDigits_take 16 (by decide) _ below,
    ← List.map_take, List.take_reverse, value.length_digits]

/-- The variant is at the top of the lower half, and its first bit is set. -/
theorem syncIdentifier_above (v4 : value.IsV4) : i64Max < syncIdentifier value := by
  obtain ⟨_, variant, found, least, _⟩ := v4
  have inside : 16 < value.digits.length := by rw [value.length_digits]; decide
  have lower : value.digits.drop 16 = variant :: value.digits.drop 17 := by
    rw [List.drop_eq_getElem_cons inside]
    rw [List.getElem?_eq_getElem inside] at found
    rw [Option.some.inj found]
  have count : ((value.digits.drop 17).reverse.map Fin.val).length = 15 := by
    simp [value.length_digits]
  rw [syncIdentifier_eq, lower, List.reverse_cons, List.map_append, Nat.ofDigits_append, count]
  simp only [List.map_cons, List.map_nil, Nat.ofDigits_singleton, i64Max]
  omega

end Layout

section Handshake
variable {codec : JsonCodec} {agent : Agent codec} {timeout : Duration} {syncId now : Nat}

/-- An agent whose parameter is a signed integer: it echoes what is one, and
answers the rest with an error. -/
def Agent.Conforms (agent : Agent codec) (syncId : Nat) : Prop :=
  if syncId ≤ i64Max then agent.sync.value = .object [("return", .number syncId)]
  else (agent.sync.value.get "error").isSome = true

/-- A reply that is late is not waited for. -/
theorem receiveFrom_late (late : now + timeout ≤ agent.syncInstant) (positive : 0 < timeout) :
    (receiveFrom codec false (now + timeout) (agent.opening [] now) now .empty).1 =
      .error .timeout := by
  have shape : agent.opening [] now = ⟨agent.syncInstant, .ok delimiter⟩ ::
      arriving agent.syncInstant (agent.sync.bytes ++ [newline]) := rfl
  have timely : ¬now + timeout ≤ now := Nat.not_le.mpr (Nat.lt_add_of_pos_right positive)
  rw [shape, receiveFrom, if_neg timely, if_pos late]

/-- A handshake whose request is too long is given up before it is sent. -/
theorem connect_unsendable (positive : 0 < timeout)
    (long : qgaFrameLimit < (codec.toVec (syncRequest syncId)).length) :
    QgaClient.connect codec ⟨[], agent.line []⟩ timeout syncId now = (.error .outputLimit, now) := by
  have early : ¬(agent.client (now + timeout) now (arriving now []) [[delimiter]]).deadline ≤
      (agent.client (now + timeout) now (arriving now []) [[delimiter]]).line.now :=
    Nat.not_le.mpr (Nat.lt_add_of_pos_right positive)
  unfold syncRequest at long
  rw [connect_synchronises positive, QgaClient.execute, if_neg early]
  simp only
  rw [if_pos long]
  rfl

/-- The handshake with a conforming agent that answers in time succeeds exactly for
signed identifiers. -/
theorem connect_conforming (positive : 0 < timeout) (prompt : agent.syncInstant < now + timeout)
    (sendable : (codec.toVec (syncRequest syncId)).length ≤ qgaFrameLimit)
    (conforms : agent.Conforms syncId) :
    (∃ client later, QgaClient.connect codec ⟨[], agent.line []⟩ timeout syncId now =
      (.ok client, later)) ↔ syncId ≤ i64Max := by
  obtain ⟨later, within, received⟩ := @receiveFrom_opening codec agent [] timeout now positive
    prompt (by simp) (by decide)
  rw [connect_eq positive sendable, received]
  unfold Agent.Conforms at conforms
  split at conforms
  · rename_i signed
    have returned : QgaClient.returned agent.sync.value = .ok (.number syncId) := by
      rw [conforms]
      rfl
    have identifier : (Json.number syncId).asU64 = some syncId := by
      simp only [Json.asU64, i64Max] at signed ⊢
      rw [if_pos (by omega), Int.toNat_natCast]
    refine iff_of_true ?_ signed
    simp only [awaited, if_neg (Nat.not_le.mpr within), returned, identifier, if_true]
    exact ⟨_, _, rfl⟩
  · rename_i unsigned
    have refused : QgaClient.returned agent.sync.value = .error .transport := by
      unfold QgaClient.returned
      rw [if_pos conforms]
    refine iff_of_false ?_ unsigned
    simp only [awaited, if_neg (Nat.not_le.mpr within), refused]
    rintro ⟨client, instant, connected⟩
    cases connected

/-- An identifier that is not signed is refused, however late the answer comes. -/
theorem connect_refused (above : i64Max < syncId) (conforms : agent.Conforms syncId) :
    ∃ error later, QgaClient.connect codec ⟨[], agent.line []⟩ timeout syncId now =
      (.error error, later) := by
  rcases Nat.eq_zero_or_pos timeout with rfl | positive
  · exact ⟨_, _, rfl⟩
  rcases Nat.lt_or_ge qgaFrameLimit (codec.toVec (syncRequest syncId)).length with long | sendable
  · exact ⟨_, _, connect_unsendable positive long⟩
  rcases Nat.lt_or_ge agent.syncInstant (now + timeout) with prompt | late
  · have fails := (connect_conforming positive prompt sendable conforms).not.mpr
      (Nat.not_le.mpr above)
    generalize connected : QgaClient.connect codec ⟨[], agent.line []⟩ timeout syncId now = result
    obtain ⟨result, later⟩ := result
    cases result with
    | ok client => exact absurd ⟨client, later, connected⟩ fails
    | error error => exact ⟨error, later, rfl⟩
  · rw [connect_eq positive sendable]
    simp only [awaited, receiveFrom_late late positive]
    exact ⟨_, _, rfl⟩

end Handshake

/-- No identifier that the client can draw is one of the schema, and no conforming
agent completes the handshake. -/
theorem sync_identifier_never_signed (codec : JsonCodec) (value : Uuid) (v4 : value.IsV4) :
    ¬syncIdentifier value ≤ i64Max ∧
      ∀ (agent : Agent codec) (timeout : Duration) (now : Nat),
        agent.Conforms (syncIdentifier value) →
        ∃ error later, QgaClient.connect codec ⟨[], agent.line []⟩ timeout (syncIdentifier value)
          now = (.error error, later) := by
  have above := syncIdentifier_above v4
  exact ⟨Nat.not_le.mpr above, fun agent timeout now conforms => connect_refused above conforms⟩

namespace Exemplar

/-- A UUID of version 4 and variant 10 with otherwise the digit 1. -/
def randomId : Uuid := Uuid.ofNat 0x11111111111141118111111111111111

theorem randomId_v4 : randomId.IsV4 := ⟨by decide, 8, by decide, by decide, by decide⟩

def refusalLine : Bytes := ascii "\x7b\"error\":\x7b\x7d\x7d"

/-- JSON with the one reply that the agent has for an unsigned identifier. -/
def refusing : JsonCodec where
  toVec := json.toVec
  fromSlice bytes := if bytes = refusalLine then some (.object [("error", .object [])]) else none

def refusal : Reply refusing where
  bytes := refusalLine
  value := .object [("error", .object [])]
  opens := by decide
  single := by decide
  short := by decide
  parses := by simp [refusing]

def refuser : Agent refusing := ⟨refusal, 0, []⟩

theorem refuser_conforms : refuser.Conforms (syncIdentifier randomId) := by
  unfold Agent.Conforms
  rw [if_neg (by decide)]
  rfl

end Exemplar

theorem sync_identifier_never_signed_at_ones :
    ¬syncIdentifier Exemplar.randomId ≤ i64Max ∧
      ∃ error later, QgaClient.connect Exemplar.refusing ⟨[], Exemplar.refuser.line []⟩ 1
        (syncIdentifier Exemplar.randomId) 0 = (.error error, later) := by
  have never := sync_identifier_never_signed Exemplar.refusing Exemplar.randomId
    Exemplar.randomId_v4
  exact ⟨never.1, never.2 Exemplar.refuser 1 0 Exemplar.refuser_conforms⟩

/-- A conforming agent refuses the identifier of a random UUID. -/
theorem handshake_refused_at_ones :
    Exemplar.randomId.IsV4 ∧ Exemplar.refuser.Conforms (syncIdentifier Exemplar.randomId) ∧
      syncIdentifier Exemplar.randomId = 0x8111111111111111 ∧
      ¬syncIdentifier Exemplar.randomId ≤ i64Max ∧
      ¬∃ client later, QgaClient.connect Exemplar.refusing ⟨[], Exemplar.refuser.line []⟩ 1
        (syncIdentifier Exemplar.randomId) 0 = (.ok client, later) := by
  refine ⟨Exemplar.randomId_v4, Exemplar.refuser_conforms, by decide, by decide, ?_⟩
  rintro ⟨client, later, connected⟩
  obtain ⟨error, instant, refused⟩ := @connect_refused _ _ 1 _ 0
    (syncIdentifier_above Exemplar.randomId_v4) Exemplar.refuser_conforms
  cases refused.symm.trans connected

end VmCell
