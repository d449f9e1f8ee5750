import VmCell.Engine.Images
import VmCell.Engine.Run
import VmCell.Interaction.System

/-! The commands of the manager as processes. -/

set_option autoImplicit false
namespace VmCell

open Interaction

/-- One command with everything its caller chooses. -/
inductive Command where
  | create (provider : String) (spec : CellSpec)
  | start (provider : String) (cellId : CellId)
  | stop (provider : String) (cellId : CellId)
  | destroy (provider : String) (cellId : CellId)
  | gc (provider : String) (evaluatedAt : DateTime)
  | inspect (provider : String) (cellId : CellId)
  | run (provider : String) (transport : GuestTransport) (rounds : Nat)
      (revalidate : RunExecutionPlan → ImageRecord → ProviderProbe → Except RunSelectionError Unit)
      (request : RunCellRequest) (job : Option JobCorrelation) (actions : JobRunActions)
  | exec (provider : String) (transport : GuestTransport) (rounds : Nat)
      (request : GuestExecRequest)
  | copyIn (provider : String) (transport : GuestTransport) (rounds : Nat)
      (request : GuestCopyInRequest)
  | copyOut (provider : String) (transport : GuestTransport) (rounds : Nat)
      (request : GuestCopyOutRequest)
  | collect (provider : String) (transport : GuestTransport) (rounds : Nat)
      (request : ArtifactCollectRequest)
  | showArtifact (cellId : CellId) (operationId : GuestOperationId)
  | reconcileOperation (operationId : GuestOperationId)
  | prune (request : ArtifactPruneRequest)
  | register (provider : String) (request : RegisterImageRequest)
  | unregister (imageId : ImageId)

/-- The result of a command. -/
inductive Response where
  | cell (result : Except EngineError CellRecord)
  | operation (result : Except EngineError OperationReport)
  | gc (result : Except EngineError GcReport)
  | inspection (result : Except EngineError CellInspection)
  | run (result : Except EngineError RunResult)
  | exec (result : Except EngineError GuestExecReport)
  | copyIn (result : Except EngineError GuestCopyInReport)
  | artifact (result : Except EngineError ArtifactReport)
  | manifest (result : Except EngineError ArtifactRecord)
  | recovery (result : Except EngineError GuestOperationRecoveryReport)
  | prune (result : Except EngineError ArtifactPruneReport)
  | image (result : Except EngineError ImageRecord)
  | unregister (result : Except EngineError ImageUnregisterReport)

def respond {A : Type} (wrap : Except EngineError A → Response) (program : Engine A) :
    Proc signature Response :=
  Proc.bind program fun result => .done (wrap result)

def Command.program (site : Site) : Command → Proc signature Response
  | .create provider spec => respond .cell (createCell site provider spec)
  | .start provider cellId => respond .operation (startCell site provider cellId)
  | .stop provider cellId => respond .operation (stopCell site provider cellId)
  | .destroy provider cellId => respond .operation (destroyCell site provider cellId)
  | .gc provider evaluatedAt => respond .gc (gcExpiredAt site provider evaluatedAt)
  | .inspect provider cellId => respond .inspection (inspectCell site provider cellId)
  | .run provider transport rounds revalidate request job actions =>
      respond .run (runCell site provider transport rounds revalidate request job actions)
  | .exec provider transport rounds request =>
      respond .exec (execGuest site provider transport rounds request)
  | .copyIn provider transport rounds request =>
      respond .copyIn (copyIntoGuest site provider transport rounds request)
  | .copyOut provider transport rounds request =>
      respond .artifact (copyOutOfGuest site provider transport rounds request)
  | .collect provider transport rounds request =>
      respond .artifact (collectArtifacts site provider transport rounds request)
  | .showArtifact cellId operationId =>
      respond .manifest (inspectArtifact site cellId operationId)
  | .reconcileOperation operationId =>
      respond .recovery (reconcileGuestOperation operationId)
  | .prune request => respond .prune (pruneArtifacts request)
  | .register provider request => respond .image (registerImage site provider request)
  | .unregister imageId => respond .unregister (unregisterImage imageId)

/-- A process runs one command. -/
def Programs (site : Site) (program : Proc signature Response) : Prop :=
  ∃ command : Command, program = command.program site

end VmCell
