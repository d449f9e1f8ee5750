import VmCell.Engine.Interface

/-! What the world may do with each effect.

A state access behaves as the store's function or, where faults are admitted,
fails and leaves what an interrupted access can leave. The provider, the
transport, the host and the clock answer whatever they like; a provider mutation
may also change the runtime directory of the cell it is authorised for.
-/

set_option autoImplicit false
namespace VmCell

open Interaction

structure Environment where
  site : Site
  /-- Whether state accesses may fail. -/
  faults : Prop
  /-- Identifiers are drawn at random; no two processes draw the same one. -/
  owner : Uuid → Pid

/-- An identifier that names nothing yet. -/
structure Store.Unused (store : Store) (id : Uuid) : Prop where
  cell : store.cells.lookup ⟨id⟩ = none
  operation : store.operations.lookup ⟨id⟩ = none
  copied : store.copied ⟨id⟩ = []

section Interruption

/-- A recursive deletion removes a directory after everything below it. -/
def PartialTree (tree left : RuntimeTree) : Prop :=
  ∀ path kind, left.lookup path = some kind → tree.lookup path = some kind ∧
    ∀ above, above ≠ [] → above <+: path → (tree.lookup above).isSome → (left.lookup above).isSome

def PartialArtifact (found left : ArtifactDirectory) : Prop :=
  (left.manifest = none ∨ left.manifest = found.manifest) ∧
    ∀ leftFiles, left.files = some leftFiles → ∃ files, found.files = some files ∧
      ∀ name bytes, leftFiles.lookup name = some bytes → files.lookup name = some bytes

/-- The states in which a failing or killed access may leave the store: nothing
done, everything done, or one of the intermediate states of an access that is
more than a single rename. -/
inductive Disturbed (site : Site) (store : Store) : Mutation → Store → Prop where
  | before {m : Mutation} : Disturbed site store m store
  | after {m : Mutation} {answer : m.Answer} {next : Store} :
      m.apply site store = .ok (answer, next) → Disturbed site store m next
  | artifactRoot {cellId : CellId} {operationId : GuestOperationId} :
      store.artifacts.lookup (cellId, operationId) = none →
      Disturbed site store (.prepareArtifactRoot cellId operationId)
        (store.putArtifact cellId operationId ⟨none, none⟩)
  /-- A temporary file beside the artifact files. -/
  | artifactFile {cellId : CellId} {operationId : GuestOperationId} {index : Nat}
      {bytes content : Bytes} {found : ArtifactDirectory} {files : Directory String Bytes}
      {stray : String} : store.artifacts.lookup (cellId, operationId) = some found →
      found.files = some files → files.lookup stray = none →
      Disturbed site store (.writeArtifactFile cellId operationId index bytes)
        (store.putArtifact cellId operationId { found with
          files := some (files.insert stray content) })
  | artifactRemoval {cellId : CellId} {operationId : GuestOperationId}
      {found left : ArtifactDirectory} :
      store.artifacts.lookup (cellId, operationId) = some found → PartialArtifact found left →
      Disturbed site store (.removeArtifactRoot cellId operationId)
        (store.putArtifact cellId operationId left)
  | runtimeRoot {cellId : CellId} {configurationPath overlayPath : PathBuf} :
      store.runtime.lookup cellId = none →
      Disturbed site store (.prepareCellRuntimeFor cellId configurationPath overlayPath)
        { store with runtime := store.runtime.insert cellId ∅ }
  | runtimeRemoval {cellId : CellId} {guard : CellRuntimeGuard} {tree left : RuntimeTree}
      {next : Store} : store.removeCellRuntime site cellId guard = .ok next →
      store.runtime.lookup cellId = some tree → PartialTree tree left →
      Disturbed site store (.removeCellRuntime cellId guard)
        { store with runtime := store.runtime.insert cellId left }

end Interruption

/-- The reply of a failing state access. -/
def IsFault {A : Type} (reply : Except StateError A) : Prop :=
  ∃ error : StateError, error.isFault = true ∧ reply = .error error

/-- The access is carried out. -/
def Applied (site : Site) (store : Store) (m : Mutation) (reply : Except StateError m.Answer)
    (next : Store) : Prop :=
  (∃ answer, m.apply site store = .ok (answer, next) ∧ reply = .ok answer) ∨
    (∃ error, m.apply site store = .error error ∧ reply = .error error ∧ next = store)

/-- The runtime directory of one cell may have changed. -/
def RuntimeChanged (cellId : CellId) (store next : Store) : Prop :=
  ∃ runtime, next = { store with runtime := runtime } ∧
    ∀ other, other ≠ cellId → runtime.lookup other = store.runtime.lookup other

def Store.recordCopy (store : Store) (operationId : GuestOperationId) (source : GuestPath)
    (bytes : Bytes) : Store :=
  { store with
    copied := Function.update store.copied operationId
      (store.copied operationId ++ [(source, bytes)]) }

/-- What the transport has returned, after one more answer. -/
def afterTransport (store : Store) (operationId : GuestOperationId) :
    (action : TransportAction) → Except GuestIoError action.Answer → Store
  | .copyOut source _ _, .ok bytes => store.recordCopy operationId source bytes
  | _, _ => store

namespace Environment
variable (env : Environment)

def step (i : Pid) : (op : Op) → Store → op.Reply → Store → Prop
  | .query q, store, reply, next =>
      next = store ∧ (reply = q.eval env.site store ∨ env.faults ∧ IsFault reply)
  | .mutate m, store, reply, next =>
      Applied env.site store m reply next ∨
        (env.faults ∧ IsFault reply ∧ Disturbed env.site store m next)
  | .provider authority _, store, _, next => RuntimeChanged authority.record.id store next
  | .transport _ operationId action, store, reply, next =>
      next = afterTransport store operationId action reply
  | .observe _, store, _, next => next = store
  | .newUuid, store, reply, next => next = store ∧ env.owner reply = i ∧ store.Unused reply

def effects (i : Pid) : Effects signature Store := env.step i

end Environment

end VmCell
