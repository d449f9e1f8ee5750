import VmCell.Interaction.Fallible
import VmCell.State.Runtime

/-! Everything the engine does to the world outside its own memory.

State accesses are the store's functions. Provider and transport calls, the host's
files, the clock and the caller's observer are named with their arguments; what
they answer is left to the environment.
-/

set_option autoImplicit false
namespace VmCell

open Interaction

section State

inductive Query where
  | loadInstallation
  | acquireInstallationAuthority
  | loadImage (id : ImageId)
  | listImages
  | loadCell (id : CellId)
  | listCells
  | loadGuestOperation (id : GuestOperationId)
  | listGuestOperations
  | requireGuestOperationParent (operation : GuestOperationRecord)
  | loadArtifact (cellId : CellId) (operationId : GuestOperationId)
  | artifactRootExists (cellId : CellId) (operationId : GuestOperationId)
  | runtimeEntryExists (cellId : CellId)
  | pinCellRuntimeFor (cellId : CellId) (configurationPath overlayPath : PathBuf)
  | checkCompatibility

def Query.Answer : Query → Type
  | .loadInstallation | .acquireInstallationAuthority => InstallationRecord
  | .loadImage _ => ImageRecord
  | .listImages => List ImageRecord
  | .loadCell _ => CellRecord
  | .listCells => List CellRecord
  | .loadGuestOperation _ => GuestOperationRecord
  | .listGuestOperations => List GuestOperationRecord
  | .requireGuestOperationParent _ => Unit
  | .loadArtifact .. => ArtifactRecord
  | .artifactRootExists .. | .runtimeEntryExists _ => Bool
  | .pinCellRuntimeFor .. => CellRuntimeGuard
  | .checkCompatibility => Store.CompatibilityReport

def Query.eval (site : Site) (store : Store) : (query : Query) → Except StateError query.Answer
  | .loadInstallation | .acquireInstallationAuthority => store.loadInstallation site
  | .loadImage id => store.loadImage site id
  | .listImages => store.listImages site
  | .loadCell id => store.loadCell site id
  | .listCells => store.listCells site
  | .loadGuestOperation id => store.loadGuestOperation site id
  | .listGuestOperations => store.listGuestOperations site
  | .requireGuestOperationParent operation =>
      store.requireGuestOperationParentForMutation site operation
  | .loadArtifact cellId operationId => store.loadArtifact site cellId operationId
  | .artifactRootExists cellId operationId => .ok (store.artifactRootExists cellId operationId)
  | .runtimeEntryExists cellId => .ok (store.runtimeEntryExists cellId)
  | .pinCellRuntimeFor cellId configurationPath overlayPath =>
      store.pinCellRuntimeFor site cellId configurationPath overlayPath
  | .checkCompatibility => store.checkCompatibility site

inductive Mutation where
  | installation (fresh : Uuid)
  | saveImageNew (record : ImageRecord)
  | removeImageRecord (id : ImageId)
  | saveCell (record : CellRecord)
  | saveGuestOperation (record : GuestOperationRecord)
  | prepareArtifactRoot (cellId : CellId) (operationId : GuestOperationId)
  | writeArtifactFile (cellId : CellId) (operationId : GuestOperationId) (index : Nat)
      (bytes : Bytes)
  | saveArtifactNew (cellId : CellId) (operationId : GuestOperationId) (record : ArtifactRecord)
  | removeArtifactRoot (cellId : CellId) (operationId : GuestOperationId)
  | prepareCellRuntimeFor (cellId : CellId) (configurationPath overlayPath : PathBuf)
  | removeCellRuntime (cellId : CellId) (guard : CellRuntimeGuard)

def Mutation.Answer : Mutation → Type
  | .installation _ => InstallationRecord
  | .removeImageRecord _ | .removeArtifactRoot .. => Bool
  | .writeArtifactFile .. => String
  | .prepareCellRuntimeFor .. => CellRuntimeGuard
  | .saveImageNew _ | .saveCell _ | .saveGuestOperation _ | .prepareArtifactRoot ..
  | .saveArtifactNew .. | .removeCellRuntime .. => Unit

/-- A store operation that answers nothing. -/
def written (result : Except StateError Store) : Except StateError (Unit × Store) :=
  result.map fun store => ((), store)

def Mutation.apply (site : Site) (store : Store) :
    (mutation : Mutation) → Except StateError (mutation.Answer × Store)
  | .installation fresh => store.installationWithMutation site fresh
  | .saveImageNew record => written (store.saveImageNew site record)
  | .removeImageRecord id => store.removeImageRecord site id
  | .saveCell record => written (store.saveCell site record)
  | .saveGuestOperation record => written (store.saveGuestOperation site record)
  | .prepareArtifactRoot cellId operationId =>
      .ok ((), store.prepareArtifactRoot cellId operationId)
  | .writeArtifactFile cellId operationId index bytes =>
      store.writeArtifactFile site cellId operationId index bytes
  | .saveArtifactNew cellId operationId record =>
      written (store.saveArtifactNew site cellId operationId record)
  | .removeArtifactRoot cellId operationId => .ok (store.removeArtifactRoot cellId operationId)
  | .prepareCellRuntimeFor cellId configurationPath overlayPath =>
      store.prepareCellRuntimeFor site cellId configurationPath overlayPath
  | .removeCellRuntime cellId guard => written (store.removeCellRuntime site cellId guard)

end State

section Provider

/-- What a provider mutation is authorised by. -/
structure ProviderMutationAuthority where
  record : CellRecord
  installation : InstallationRecord
  runtime : CellRuntimeGuard
  deriving DecidableEq

inductive ProviderAction where
  | createOverlay (request : CreateOverlayRequest)
  | createVm (request : CreateVmRequest)
  | claimVm (request : ClaimVmRequest)
  | configureVm (request : ConfigureVmRequest)
  | startVm (expected : ProviderVm)
  | stopVm (expected : ProviderVm)
  | removeVm (expected : ProviderVm)

def ProviderAction.Answer : ProviderAction → Type
  | .createOverlay _ => ProviderImageInfo
  | .createVm _ => ProviderVmIdentity
  | .claimVm _ | .configureVm _ => ProviderVm
  | .startVm _ | .stopVm _ | .removeVm _ => Unit

/-- The snapshot an action is about; creation has none. -/
def ProviderAction.expected : ProviderAction → Option ProviderVm
  | .createOverlay _ | .createVm _ => none
  | .claimVm request => some request.expected
  | .configureVm request => some request.expected
  | .startVm expected | .stopVm expected | .removeVm expected => some expected

end Provider

section Transport

structure GuestActionAuthority where
  record : CellRecord
  expected : ProviderVm
  installation : InstallationRecord
  runtime : CellRuntimeGuard
  deriving DecidableEq

inductive TransportAction where
  | probeReady (timeout : Duration)
  | exec (command : GuestCommand)
  | copyIn (destination : GuestPath) (content : Bytes) (overwrite : OverwritePolicy)
      (timeout : Duration)
  | copyOut (source : GuestPath) (maxBytes : Nat) (timeout : Duration)

def TransportAction.Answer : TransportAction → Type
  | .probeReady _ => GuestReadiness
  | .exec _ => GuestCommandResult
  | .copyIn .. => Unit
  | .copyOut .. => Bytes

/-- Actions that may have an effect in the guest. -/
def TransportAction.isAction : TransportAction → Bool
  | .probeReady _ => false
  | _ => true

end Transport

section Host

inductive RunCleanupDisposition where
  | nothingCreated
  | destroyed
  | retainedByRequest
  | retainedOnFailure
  | refusedAmbiguous
  | failed
  deriving DecidableEq

inductive RunProgressEvent where
  | imageVerified (image : ImageId)
  | cellCreated (cellId : CellId)
  | providerStarted (cellId : CellId)
  | guestReady (cellId : CellId)
  | commandCompleted (cellId : CellId) (operationId : GuestOperationId) (exitCode : Int)
  | copyInCompleted (cellId : CellId) (operationId : GuestOperationId) (size : Nat)
  | artifactCollected (cellId : CellId) (operationId : GuestOperationId) (fileCount : Nat)
  | cleanupStarted (cellId : CellId)
  | cellDestroyed (cellId : CellId)
  | cellRetained (cellId : CellId) (disposition : RunCleanupDisposition)
  | cleanupRefused (cellId : CellId)
  deriving DecidableEq

inductive RunControl where
  | proceed
  | cancel
  deriving DecidableEq

/-- Effects that change nothing the manager keeps. -/
inductive Observation where
  | probe
  | inspectImage (path : PathBuf)
  | inspectVm (lookup : VmLookup)
  | canonicalImagePath (path : PathBuf)
  | openImmutableParent (path : PathBuf)
  | validatePathIdentity (path : PathBuf)
  | fileSize (path : PathBuf)
  | sha256File (path : PathBuf)
  | readOrdinaryCopySource (source : PathBuf) (maxBytes : Nat)
  | readJobCopySource (root source : PathBuf) (maxBytes : Nat) (sha256 : String) (size : Nat)
  | now
  | instant
  | sleep (duration : Duration)
  | progress (event : RunProgressEvent)

def Observation.Answer : Observation → Type
  | .probe => ProviderProbe
  | .inspectImage _ => Except ProviderError ProviderImageInfo
  | .inspectVm _ => Except ProviderError (Option ProviderVm)
  | .canonicalImagePath _ => Except EngineError PathBuf
  | .openImmutableParent _ | .validatePathIdentity _ => Except EngineError Unit
  | .fileSize _ => Except String Nat
  | .sha256File _ => Except EngineError String
  | .readOrdinaryCopySource .. | .readJobCopySource .. => Except EngineError Bytes
  | .now => DateTime
  | .instant => Nat
  | .sleep _ => Unit
  | .progress _ => RunControl

end Host

inductive Op where
  | query (q : Query)
  | mutate (mutation : Mutation)
  | provider (authority : ProviderMutationAuthority) (action : ProviderAction)
  /-- The operation is the one the engine acts for; `exec` does not transmit it. -/
  | transport (authority : GuestActionAuthority) (operationId : GuestOperationId)
      (action : TransportAction)
  | observe (observation : Observation)
  | newUuid

def Op.Reply : Op → Type
  | .query q => Except StateError q.Answer
  | .mutate mutation => Except StateError mutation.Answer
  | .provider _ action => Except ProviderError action.Answer
  | .transport _ _ action => Except GuestIoError action.Answer
  | .observe observation => observation.Answer
  | .newUuid => Uuid

def signature : Signature where
  Op := Op
  Reply := Op.Reply

/-- An operation of the engine. -/
abbrev Engine (A : Type) := Fallible signature EngineError A

def query (q : Query) : Engine q.Answer :=
  Fallible.effect (I := signature) (Op.query q)
    fun reply : Except StateError q.Answer => reply.mapError .state

def mutate (m : Mutation) : Engine m.Answer :=
  Fallible.effect (I := signature) (Op.mutate m)
    fun reply : Except StateError m.Answer => reply.mapError .state

def callProvider (authority : ProviderMutationAuthority) (action : ProviderAction) :
    Engine action.Answer :=
  Fallible.effect (I := signature) (Op.provider authority action)
    fun reply : Except ProviderError action.Answer => reply.mapError .provider

def callTransport (authority : GuestActionAuthority) (operationId : GuestOperationId)
    (action : TransportAction) : Engine action.Answer :=
  Fallible.effect (I := signature) (Op.transport authority operationId action)
    fun reply : Except GuestIoError action.Answer => reply.mapError .guest

def observe (o : Observation) : Engine o.Answer :=
  Fallible.effect (I := signature) (Op.observe o) fun reply : o.Answer => .ok reply

def newUuid : Engine Uuid := Fallible.effect (I := signature) Op.newUuid
  fun reply : Uuid => .ok reply

def now : Engine DateTime := observe .now

def inspectVm (lookup : VmLookup) : Engine (Option ProviderVm) := do
  let answer : Except ProviderError (Option ProviderVm) ← observe (.inspectVm lookup)
  Fallible.lift (answer.mapError .provider)

def mutationLocked {A : Type} (body : Engine A) : Engine A :=
  Fallible.locked (.state .mutationBusy) body

end VmCell
