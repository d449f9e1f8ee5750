import VmCell.Engine.Commands
import VmCell.Engine.Sections.Collection
import VmCell.Engine.Sections.Guest
import VmCell.Engine.Sections.Images
import VmCell.Engine.Sections.Recovery
import VmCell.Interaction.Tracking

/-! Every command keeps a discipline that its sections keep, whatever the other
processes do.

The commands are followed once for all disciplines. What a section does is left to
the discipline; a command contributes the order of its sections, and between them
it only looks.
-/

set_option autoImplicit false
namespace VmCell

open Interaction Fallible

section Disciplines
variable {S A : Type}

/-- A section that keeps the discipline. -/
abbrev Keeps (D : Discipline signature S) (i : Pid) (body : Engine A) (s : S) : Prop :=
  Within (D.effects i) (D.allowed i) (fun _ _ => True) (fun _ _ => True) body s

/-- All sections of the commands keep the discipline. `fresh` is what a process
goes on knowing about an identifier that it has drawn for a cell. -/
structure Sections (D : Discipline signature S) (site : Site) (fresh : Pid → CellId → S → Prop) :
    Prop where
  looks : ∀ {op}, Free op → D.free op
  draws : ∀ {i s id}, D.effects i .newUuid s id s → fresh i ⟨id⟩ s
  lasts : ∀ {i cellId s t}, D.rely i s t → fresh i cellId s → fresh i cellId t
  create : ∀ {i s provider spec cellId job}, fresh i cellId s →
    Keeps D i (createCellLocked site provider spec cellId job) s
  start : ∀ {i s provider cellId}, Keeps D i (startCellLocked site provider cellId) s
  stop : ∀ {i s provider cellId}, Keeps D i (stopCellLocked site provider cellId) s
  destroy : ∀ {i s provider cellId}, Keeps D i (destroyCellLocked site provider cellId) s
  destroyForRun : ∀ {i s provider cellId},
    Keeps D i (destroyCellForRunLocked site provider cellId) s
  gc : ∀ {i s provider evaluatedAt}, Keeps D i (gcExpiredLocked site provider evaluatedAt) s
  exec : ∀ {i s provider transport rounds cellId jobId readiness command onReady},
    Passive (I := signature) Free onReady →
    Keeps D i (runGuestOperationLocked site provider transport rounds
      ⟨cellId, jobId, .exec, readiness⟩ (execAction cellId command onReady)) s
  copyIn : ∀ {i s provider transport rounds jobId content} {request : GuestCopyInRequest},
    Keeps D i (runGuestOperationLocked site provider transport rounds
      ⟨request.cellId, jobId, .copyIn, request.readiness⟩ (copyInAction request content)) s
  collect : ∀ {i s provider transport rounds kind jobId} {request : ArtifactCollectRequest},
    Keeps D i (runGuestOperationLocked site provider transport rounds
      ⟨request.cellId, jobId, kind, request.readiness⟩ (collectAction site request jobId)) s
  reconcile : ∀ {i s operationId}, Keeps D i (reconcileGuestOperationLocked operationId) s
  prune : ∀ {i s request evaluatedAt cutoff},
    Keeps D i (pruneArtifactsLocked request evaluatedAt cutoff) s
  register : ∀ {i s provider request}, Keeps D i (registerImageLocked site provider request) s
  unregister : ∀ {i s imageId}, Keeps D i (unregisterImageLocked imageId) s

end Disciplines

section Looks
variable {provider : String} {transport : GuestTransport}

theorem passive_readCopySource {request : GuestCopyInRequest}
    {binding : Option JobCopySourceBinding} :
    Passive (I := signature) Free (readCopySource request binding) := by
  cases binding with
  | none => exact passive_observe.bind fun _ => .lift
  | some binding => exact passive_observe.bind fun _ => .lift

theorem passive_notify {event : RunProgressEvent} : Passive (I := signature) Free (notify event) :=
  passive_observe.bind fun _ => .pure

theorem passive_cancelled {event : RunProgressEvent} :
    Passive (I := signature) Free (cancelled event) :=
  passive_observe.bind fun _ => .pure

theorem passive_notifyRefused {cellId : CellId} {disposition : RunCleanupDisposition} :
    Passive (I := signature) Free (notifyRefused cellId disposition) :=
  .ite passive_notify .pure

theorem passive_observeReady {cellId : CellId} :
    Passive (I := signature) Free (observeReady cellId) :=
  passive_cancelled.bind fun _ => .lift

theorem passive_cancelledUnless {already : Bool} {event : RunProgressEvent} :
    Passive (I := signature) Free (cancelledUnless already event) :=
  .ite .pure passive_cancelled

theorem passive_validateRunRequest {request : RunCellRequest}
    {revalidate : RunExecutionPlan → ImageRecord → ProviderProbe →
      Except RunSelectionError Unit} :
    Passive (I := signature) Free (validateRunRequest provider transport revalidate request) := by
  unfold validateRunRequest revalidateRunRequest
  refine Passive.lift.bind fun _ => Passive.lift.bind fun _ => Passive.lift.bind fun _ => ?_
  refine Passive.lift.bind fun _ => passive_query.bind fun _ => ?_
  exact passive_observe.bind fun _ => .lift

end Looks

section Commands
variable {S A : Type} {D : Discipline signature S} {site : Site}
  {fresh : Pid → CellId → S → Prop} {i : Pid} {s : S} (sections : Sections D site fresh)

theorem orderly_locked {body : Engine A} {good : A → S → Prop}
    (granted : ∀ t, D.rely i s t → Keeps D i body t) (any : ∀ a t, good a t) :
    Outside D i good (mutationLocked body) s :=
  Outside.locked fun t rely => (granted t rely).weaken (fun a u _ => any a u) fun _ _ _ => trivial

theorem orderly_attempt {p : Engine A} {good : Except EngineError A → S → Prop}
    (orderly : Outside D i (fun _ _ => True) p s) (any : ∀ result t, good result t) :
    Outside (E := EngineError) D i good (attempt p) s := Outside.attempt orderly any

/-- A guest command reports the result inside its outcome. -/
theorem orderly_outcome {p : Engine (TrackedOutcome A)}
    (orderly : Outside D i (fun _ _ => True) p s) :
    Outside D i (fun _ _ => True) (p >>= fun outcome => Fallible.lift outcome.result) s :=
  Outside.bind (Outside.weaken orderly fun _ _ _ => Outside.lift fun _ _ => trivial)

theorem safe_respond {wrap : Except EngineError A → Response} {program : Engine A}
    (orderly : Outside D i (fun _ _ => True) program s) :
    D.Safe i (fun _ _ _ => True) (respond wrap program) false s :=
  Discipline.Safe.bind (Discipline.Safe.weaken orderly fun _ _ _ _ => trivial)

include sections

section Steps

theorem orderly_passive {p : Engine A} {good : A → S → Prop}
    (passive : Passive (I := signature) Free p) (ok : ∀ a t, D.rely i s t → good a t) :
    Outside D i good p s :=
  Passive.outside (passive.mono fun _ free => sections.looks free) ok

/-- Drawing an identifier for a cell. -/
theorem orderly_newUuid {good : Uuid → S → Prop} (ok : ∀ id t, fresh i ⟨id⟩ t → good id t) :
    Outside D i good newUuid s :=
  Outside.effect (sections.looks trivial) fun t _ id drawn => ok id t (sections.draws drawn)

end Steps

section Cells
variable {provider : String}

theorem orderly_createCellWithId {spec : CellSpec} {cellId : CellId} {job : Option JobCorrelation}
    {good : CellRecord → S → Prop} (drawn : fresh i cellId s) (any : ∀ a t, good a t) :
    Outside D i good (createCellWithId site provider spec cellId job) s := by
  unfold createCellWithId
  refine Outside.bind (orderly_passive sections passive_requireProviderAvailable
    fun _ t before => ?_)
  refine Outside.bind (orderly_passive sections Passive.lift fun _ u between => ?_)
  refine orderly_locked (fun v after => sections.create ?_) any
  exact sections.lasts after (sections.lasts between (sections.lasts before drawn))

theorem orderly_createCell {spec : CellSpec} :
    Outside D i (fun _ _ => True) (createCell site provider spec) s := by
  unfold createCell
  refine Outside.bind (orderly_newUuid sections fun id t drawn => ?_)
  exact orderly_createCellWithId sections drawn fun _ _ => trivial

/-- A section behind the check of the provider's name. -/
theorem orderly_provided {body : Engine A} {good : A → S → Prop}
    (granted : ∀ t, Keeps D i body t) (any : ∀ a t, good a t) :
    Outside D i good (requireProvider provider >>= fun _ => mutationLocked body) s :=
  Outside.bind (orderly_passive sections passive_requireProvider fun _ _ _ =>
    orderly_locked (fun t _ => granted t) any)

theorem orderly_startCell {cellId : CellId} {good : OperationReport → S → Prop}
    (any : ∀ a t, good a t) : Outside D i good (startCell site provider cellId) s :=
  orderly_provided sections (fun _ => sections.start) any

theorem orderly_stopCell {cellId : CellId} :
    Outside D i (fun _ _ => True) (stopCell site provider cellId) s :=
  orderly_provided sections (fun _ => sections.stop) fun _ _ => trivial

theorem orderly_destroyCell {cellId : CellId} :
    Outside D i (fun _ _ => True) (destroyCell site provider cellId) s :=
  orderly_provided sections (fun _ => sections.destroy) fun _ _ => trivial

theorem orderly_destroyCellForRun {cellId : CellId} {good : OperationReport → S → Prop}
    (any : ∀ a t, good a t) : Outside D i good (destroyCellForRun site provider cellId) s :=
  orderly_provided sections (fun _ => sections.destroyForRun) any

theorem orderly_gcExpiredAt {evaluatedAt : DateTime} :
    Outside D i (fun _ _ => True) (gcExpiredAt site provider evaluatedAt) s :=
  orderly_provided sections (fun _ => sections.gc) fun _ _ => trivial

end Cells

section Guests
variable {provider : String} {transport : GuestTransport} {rounds : Nat}

theorem orderly_runGuestOperationTracked {dispatch : GuestOperationDispatch}
    {action : GuestAction A} {good : TrackedOutcome A → S → Prop}
    (granted : ∀ t, Keeps D i
      (runGuestOperationLocked site provider transport rounds dispatch action) t)
    (any : ∀ a t, good a t) :
    Outside D i good
      (runGuestOperationTracked site provider transport rounds dispatch action) s :=
  orderly_provided sections granted any

theorem orderly_execGuestWithReadyCallback {request : GuestExecRequest} {jobId : Option JobId}
    {onReady : Engine Unit} (ready : Passive (I := signature) Free onReady)
    {good : TrackedOutcome GuestExecReport → S → Prop} (any : ∀ a t, good a t) :
    Outside D i good
      (execGuestWithReadyCallback site provider transport rounds request jobId onReady) s := by
  unfold execGuestWithReadyCallback
  refine Outside.bind (orderly_passive sections Passive.lift fun _ _ _ => ?_)
  refine Outside.bind (orderly_passive sections Passive.lift fun _ _ _ => ?_)
  exact orderly_runGuestOperationTracked sections (fun _ => sections.exec ready) any

theorem orderly_copyIntoGuestWithJob {request : GuestCopyInRequest}
    {binding : Option JobCopySourceBinding} {jobId : Option JobId}
    {good : TrackedOutcome GuestCopyInReport → S → Prop} (any : ∀ a t, good a t) :
    Outside D i good
      (copyIntoGuestWithJob site provider transport rounds request binding jobId) s := by
  unfold copyIntoGuestWithJob
  refine Outside.bind (orderly_passive sections Passive.lift fun _ _ _ => ?_)
  refine Outside.bind (orderly_passive sections Passive.lift fun _ _ _ => ?_)
  refine Outside.bind (orderly_passive sections passive_readCopySource fun content _ _ => ?_)
  exact orderly_runGuestOperationTracked sections (fun _ => sections.copyIn) any

theorem orderly_collectArtifactsWithKind {request : ArtifactCollectRequest}
    {kind : GuestOperationKind} {jobId : Option JobId}
    {good : TrackedOutcome ArtifactReport → S → Prop} (any : ∀ a t, good a t) :
    Outside D i good
      (collectArtifactsWithKind site provider transport rounds request kind jobId) s := by
  unfold collectArtifactsWithKind
  refine Outside.bind (orderly_passive sections Passive.lift fun _ _ _ => ?_)
  exact orderly_runGuestOperationTracked sections (fun _ => sections.collect) any

theorem orderly_reconcileGuestOperation {operationId : GuestOperationId} :
    Outside D i (fun _ _ => True) (reconcileGuestOperation operationId) s := by
  unfold reconcileGuestOperation
  refine Outside.bind (orderly_passive sections passive_query fun operation _ _ => ?_)
  refine Outside.bind (orderly_passive sections passive_query fun _ _ _ => ?_)
  have locked : ∀ t, Outside D i (fun _ _ => True)
      (mutationLocked (reconcileGuestOperationLocked operationId)) t := fun t =>
    orderly_locked (fun _ _ => sections.reconcile) fun _ _ => trivial
  split
  · exact Outside.pure trivial
  · exact Outside.pure trivial
  · exact Outside.pure trivial
  · exact locked _
  · exact locked _

theorem orderly_pruneArtifacts {request : ArtifactPruneRequest} :
    Outside D i (fun _ _ => True) (pruneArtifacts request) s := by
  unfold pruneArtifacts
  refine Outside.bind (orderly_passive sections Passive.lift fun _ _ _ => ?_)
  refine Outside.bind (orderly_passive sections passive_now fun evaluatedAt _ _ => ?_)
  exact orderly_locked (fun _ _ => sections.prune) fun _ _ => trivial

end Guests

section Images
variable {provider : String}

theorem orderly_registerImage {request : RegisterImageRequest} :
    Outside D i (fun _ _ => True) (registerImage site provider request) s := by
  unfold registerImage
  refine Outside.bind (orderly_passive sections passive_requireProviderAvailable fun _ _ _ => ?_)
  exact orderly_locked (fun _ _ => sections.register) fun _ _ => trivial

theorem orderly_unregisterImage {imageId : ImageId} :
    Outside D i (fun _ _ => True) (unregisterImage imageId) s :=
  orderly_locked (fun _ _ => sections.unregister) fun _ _ => trivial

end Images

section Runs
variable {provider : String} {transport : GuestTransport} {rounds : Nat}

theorem orderly_destroyForCleanup {cellId : CellId} {good : CleanupResult → S → Prop}
    (any : ∀ a t, good a t) : Outside D i good (destroyForCleanup site provider cellId) s := by
  unfold destroyForCleanup
  refine Outside.bind (orderly_passive sections passive_notify fun _ _ _ => ?_)
  refine Outside.bind (orderly_attempt
    (orderly_destroyCellForRun sections fun _ _ => trivial) ?_)
  rintro (error | report) t
  · exact Outside.bind (orderly_passive sections passive_notifyRefused
      fun _ u _ => Outside.pure (any _ u))
  · exact Outside.bind (orderly_passive sections passive_notify
      fun _ u _ => Outside.pure (any _ u))

theorem orderly_cleanupFailedRun {cellId : CellId} {policy : RunCleanupPolicy} {ambiguous : Bool}
    {good : CleanupResult → S → Prop} (any : ∀ a t, good a t) :
    Outside D i good (cleanupFailedRun site provider cellId policy ambiguous) s := by
  unfold cleanupFailedRun
  refine Outside.bind (orderly_passive sections passive_query.attempt fun found t _ => ?_)
  split
  · exact Outside.pure (any _ t)
  · exact Outside.pure (any _ t)
  · split
    · exact Outside.bind (orderly_passive sections passive_notify
        fun _ u _ => Outside.pure (any _ u))
    · by_cases refused : ambiguous = true
      · rw [if_pos refused]
        exact Outside.bind (orderly_passive sections passive_notify
          fun _ u _ => Outside.pure (any _ u))
      · rw [if_neg refused]
        exact orderly_destroyForCleanup sections any

theorem orderly_failRun {context : RunContext} {operationId : Option GuestOperationId}
    {stage : RunStage} {ambiguous : Bool} {error : EngineError}
    {result : Option GuestCommandResult} :
    Outside D i (fun _ _ => True)
      (failRun site provider context operationId stage ambiguous error result) s :=
  Outside.bind (orderly_cleanupFailedRun sections fun _ _ => Outside.pure trivial)

theorem orderly_interruptRun {context : RunContext} {operationId : Option GuestOperationId}
    {result : Option GuestCommandResult} :
    Outside D i (fun _ _ => True)
      (interruptRun site provider context operationId result) s := orderly_failRun sections

/-- A checkpoint at which the observer may stop the run. -/
theorem orderly_checkpoint {event : RunProgressEvent} {stop proceed : Engine A}
    (stopped : ∀ t, Outside D i (fun _ _ => True) stop t)
    (proceeds : ∀ t, Outside D i (fun _ _ => True) proceed t) :
    Outside D i (fun _ _ => True)
      (cancelled event >>= fun cancel => if cancel then stop else proceed) s := by
  refine Outside.bind (orderly_passive sections passive_cancelled fun cancel t _ => ?_)
  cases cancel with
  | true => exact stopped t
  | false => exact proceeds t

theorem orderly_runCopies {context : RunContext} {command : RunContext → Engine RunResult}
    {actions : List JobCopyInAction}
    (next : ∀ context t, Outside D i (fun _ _ => True) (command context) t) :
    Outside D i (fun _ _ => True)
      (runCopies site provider transport rounds context command actions) s := by
  induction actions generalizing s context with
  | nil => exact next context s
  | cons action rest ih =>
      unfold runCopies
      refine Outside.bind (orderly_attempt
        (orderly_copyIntoGuestWithJob sections fun _ _ => trivial) fun attempted t => ?_)
      simp only
      split
      · exact orderly_failRun sections
      · exact orderly_checkpoint sections (fun _ => orderly_interruptRun sections) fun _ => ih

theorem orderly_finishRun {context : RunContext} {execution : GuestExecReport} :
    Outside D i (fun _ _ => True) (finishRun site provider context execution) s := by
  unfold finishRun
  simp only
  split
  · exact Outside.bind (orderly_passive sections passive_notify fun _ _ _ => Outside.pure trivial)
  · refine Outside.bind (orderly_destroyForCleanup sections fun cleanup t => ?_)
    split
    · exact Outside.pure trivial
    · exact Outside.pure trivial

theorem orderly_runArtifacts {context : RunContext} {execution : GuestExecReport}
    {artifacts : Option JobArtifactAction} :
    Outside D i (fun _ _ => True)
      (runArtifacts site provider transport rounds context execution artifacts) s := by
  unfold runArtifacts
  split
  · exact orderly_finishRun sections
  · refine Outside.bind (orderly_attempt
      (orderly_collectArtifactsWithKind sections fun _ _ => trivial) fun attempted t => ?_)
    simp only
    split
    · exact orderly_failRun sections
    · exact orderly_checkpoint sections (fun _ => orderly_interruptRun sections)
        fun _ => orderly_finishRun sections

theorem orderly_runCommand {artifacts : Option JobArtifactAction} {context : RunContext} :
    Outside D i (fun _ _ => True)
      (runCommand site provider transport rounds artifacts context) s := by
  unfold runCommand
  refine Outside.bind (orderly_attempt (orderly_execGuestWithReadyCallback sections
    passive_observeReady fun _ _ => trivial) fun attempted t => ?_)
  simp only
  split
  · exact orderly_failRun sections
  · exact orderly_checkpoint sections (fun _ => orderly_interruptRun sections)
      fun _ => orderly_runArtifacts sections

theorem orderly_runStarted {actions : JobRunActions} {context : RunContext} :
    Outside D i (fun _ _ => True)
      (runStarted site provider transport rounds actions context) s :=
  orderly_checkpoint sections (fun _ => orderly_interruptRun sections)
    fun _ => orderly_runCopies sections fun _ _ => orderly_runCommand sections

theorem orderly_runCreated {actions : JobRunActions} {context : RunContext} {cell : CellRecord} :
    Outside D i (fun _ _ => True)
      (runCreated site provider transport rounds actions context cell) s := by
  unfold runCreated
  refine Outside.bind (orderly_passive sections passive_cancelled fun verified _ _ => ?_)
  refine Outside.bind (orderly_passive sections passive_cancelledUnless fun created t _ => ?_)
  cases created with
  | true => exact orderly_interruptRun sections
  | false =>
      refine Outside.bind (orderly_attempt
        (orderly_startCell sections fun _ _ => trivial) ?_)
      rintro (error | report) u
      · exact orderly_failRun sections
      · exact orderly_runStarted sections

theorem orderly_runCell {request : RunCellRequest} {job : Option JobCorrelation}
    {actions : JobRunActions} {revalidate : RunExecutionPlan → ImageRecord → ProviderProbe →
      Except RunSelectionError Unit} :
    Outside D i (fun _ _ => True)
      (runCell site provider transport rounds revalidate request job actions) s := by
  unfold runCell
  refine Outside.bind (orderly_passive sections passive_validateRunRequest.attempt
    fun valid _ _ => ?_)
  cases valid with
  | error error => exact Outside.pure trivial
  | ok _ =>
      refine Outside.bind (orderly_newUuid sections fun id t drawn => ?_)
      refine Outside.bind (orderly_attempt (orderly_createCellWithId sections drawn
        fun _ _ => trivial) ?_)
      rintro (error | cell) u
      · exact orderly_failRun sections
      · exact orderly_runCreated sections

end Runs

section Programs

/-- Every command keeps the discipline from whatever state it meets. -/
theorem Sections.safe {program : Proc signature Response} (command : Programs site program)
    (i : Pid) (s : S) : D.Safe i (fun _ _ _ => True) program false s := by
  obtain ⟨command, rfl⟩ := command
  cases command with
  | create provider spec => exact safe_respond (orderly_createCell sections)
  | start provider cellId => exact safe_respond (orderly_startCell sections fun _ _ => trivial)
  | stop provider cellId => exact safe_respond (orderly_stopCell sections)
  | destroy provider cellId => exact safe_respond (orderly_destroyCell sections)
  | gc provider evaluatedAt => exact safe_respond (orderly_gcExpiredAt sections)
  | inspect provider cellId =>
      exact safe_respond (orderly_passive sections passive_inspectCell fun _ _ _ => trivial)
  | run provider transport rounds revalidate request job actions =>
      exact safe_respond (orderly_runCell sections)
  | exec provider transport rounds request =>
      exact safe_respond (orderly_outcome (orderly_execGuestWithReadyCallback sections .pure
        fun _ _ => trivial))
  | copyIn provider transport rounds request =>
      exact safe_respond (orderly_outcome (orderly_copyIntoGuestWithJob sections
        fun _ _ => trivial))
  | copyOut provider transport rounds request =>
      exact safe_respond (orderly_outcome (orderly_collectArtifactsWithKind sections
        fun _ _ => trivial))
  | collect provider transport rounds request =>
      exact safe_respond (orderly_outcome (orderly_collectArtifactsWithKind sections
        fun _ _ => trivial))
  | showArtifact cellId operationId =>
      exact safe_respond (orderly_passive sections passive_inspectArtifact fun _ _ _ => trivial)
  | reconcileOperation operationId =>
      exact safe_respond (orderly_reconcileGuestOperation sections)
  | prune request => exact safe_respond (orderly_pruneArtifacts sections)
  | register provider request => exact safe_respond (orderly_registerImage sections)
  | unregister imageId => exact safe_respond (orderly_unregisterImage sections)

end Programs

end Commands

variable {env : Environment} {i : Pid} {s : Store} {A : Type}

section Records

theorem keeps_of_within {body : Engine A} {allowed : Op → Store → Prop}
    {good : A → Store → Prop} {bad : EngineError → Store → Prop}
    (within : Within (env.effects i) allowed good bad body s)
    (permitted : ∀ op t, allowed op t → Allowed env i op t) :
    Keeps (discipline env) i body s :=
  (Within.permit within permitted).weaken (fun _ _ _ => trivial) fun _ _ _ => trivial

/-- The sections write what the record on disk permits. An identifier is that of no
cell as long as the process that has drawn it creates none. -/
theorem sections_discipline (env : Environment) : Sections (discipline env) env.site
    (fun i cellId s => env.owner cellId.value = i ∧ s.cells.lookup cellId = none) where
  looks := fun free => free
  draws := by
    rintro i s id ⟨_, owned, unused⟩
    exact ⟨owned, unused.cell⟩
  lasts := fun rely drawn => ⟨drawn.1, rely _ drawn.1 drawn.2⟩
  create := fun drawn => within_createCellLocked drawn.2 drawn.1
  start := within_startCellLocked
  stop := within_stopCellLocked
  destroy := keeps_of_within within_destroyCellLocked fun _ _ permitted => permitted.1
  destroyForRun := keeps_of_within within_destroyCellForRunLocked fun _ _ permitted => permitted.1
  gc := keeps_of_within within_gcExpiredLocked fun _ _ permitted => permitted.1
  exec := fun ready => within_runGuestOperationLocked (execAction_keeps ready)
  copyIn := within_runGuestOperationLocked copyInAction_keeps
  collect := within_runGuestOperationLocked collectAction_keeps
  reconcile := within_reconcileGuestOperationLocked
  prune := within_pruneArtifactsLocked
  register := keeps_of_within within_registerImageLocked fun _ _ permitted => permitted
  unregister := keeps_of_within within_unregisterImageLocked fun _ _ permitted => permitted

theorem safe_program {program : Proc signature Response} (command : Programs env.site program)
    (i : Pid) (s : Store) :
    (discipline env).Safe i (fun _ _ _ => True) program false s :=
  (sections_discipline env).safe command i s

end Records

/-- Any number of commands over one state root. -/
abbrev Manager := Config signature Response Store

namespace Manager
variable {c d e : Manager}

/-- A run of the manager: every interleaving, every environment behaviour, and a
process may be killed at any point. -/
abbrev Reaches (env : Environment) (c d : Manager) : Prop :=
  Config.Reaches env.effects (Programs env.site) c d

abbrev Effect (env : Environment) (c : Manager) (i : Pid) (op : Op) (reply : op.Reply)
    (d : Manager) : Prop :=
  Config.Effect (I := signature) env.effects c i op reply d

theorem change {op : Op} {reply : op.Reply} (step : Effect env c i op reply d) :
    Change env.site c.store op d.store := step_change (Config.Effect.step step)

theorem permitted {op : Op} {reply : op.Reply} (idle : c.Idle) (reaches : Reaches env c d)
    (step : Effect env d i op reply e) :
    Free op ∧ e.store = d.store ∨ d.holder = some i ∧ Allowed env i op d.store :=
  Config.Reaches.permitted (D := discipline env) (fun _ command => safe_program command) idle
    reaches step

theorem invariant {inv : Store → Prop} (idle : c.Idle) (initially : inv c.store)
    (preserved : ∀ {i : Pid} {op : Op} {s t : Store}, inv s → Allowed env i op s →
      Change env.site s op t → inv t) (reaches : Reaches env c d) : inv d.store :=
  Config.Reaches.invariant (D := discipline env) (fun _ command => safe_program command) idle
    initially (fun holds allowed step => preserved holds allowed (step_change step)) reaches

theorem related {inv : Store → Prop} {relation : Store → Store → Prop} (idle : c.Idle)
    (initially : inv c.store)
    (preserved : ∀ {i : Pid} {op : Op} {s t : Store}, inv s → Allowed env i op s →
      Change env.site s op t → inv t)
    (refl : ∀ s, relation s s) (trans : ∀ {s t u}, relation s t → relation t u → relation s u)
    (respected : ∀ {i : Pid} {op : Op} {s t : Store}, inv s → Allowed env i op s →
      Change env.site s op t → relation s t)
    (before : Reaches env c d) (after : Reaches env d e) : relation d.store e.store :=
  Config.Reaches.related (D := discipline env) (fun _ command => safe_program command) idle
    initially (fun holds allowed step => preserved holds allowed (step_change step)) refl trans
    (fun holds allowed step => respected holds allowed (step_change step)) before after

section Critical
variable {f g : Manager} {body : Engine A} {allowed : Op → Store → Prop} {good : A → Store → Prop}
  {bad : EngineError → Store → Prop} {rest : Except EngineError A → Proc signature Response}

/-- A run during which process `i` holds the lock. -/
abbrev During (env : Environment) (i : Pid) (c d : Manager) : Prop :=
  Config.During env.effects (Programs env.site) i c d

/-- A command's critical section, seen from the state in which it took the lock. -/
theorem critical (idle : c.Idle) (before : Reaches env c d)
    (waiting : d.procs i = some (Proc.bind (mutationLocked body) rest)) (grants : d.Grants i e)
    (during : During env i e f)
    (within : Within (env.effects i) allowed good bad body d.store) :
    ∃ q, f.procs i = some q ∧ Until (env.effects i) allowed
      (fun next t => ∃ result, next = rest result ∧ Ends good bad result t) q f.store :=
  Config.During.section (D := discipline env) (fun _ command => safe_program command) idle before
    waiting grants during within

/-- The section ends as its postcondition says. -/
theorem critical_ends {wrap : Except EngineError A → Response}
    {result : Except EngineError A} (injective : Function.Injective wrap) (idle : c.Idle)
    (before : Reaches env c d)
    (waiting : d.procs i = some (respond wrap (mutationLocked body))) (grants : d.Grants i e)
    (during : During env i e f)
    (within : Within (env.effects i) allowed good bad body d.store)
    (finished : f.procs i = some (.release (.done (wrap result)))) :
    Ends good bad result f.store := by
  obtain ⟨q, running, known⟩ := critical idle before waiting grants during within
  obtain rfl := Option.some.inj (running.symm.trans finished)
  obtain ⟨other, same, ends⟩ := known
  rwa [injective (Proc.done.inj same)]

/-- Each effect of the section is one it is allowed. -/
theorem critical_permits {op : Op} {reply : op.Reply} (idle : c.Idle) (before : Reaches env c d)
    (waiting : d.procs i = some (Proc.bind (mutationLocked body) rest)) (grants : d.Grants i e)
    (during : During env i e f)
    (within : Within (env.effects i) allowed good bad body d.store)
    (step : Effect env f i op reply g) : allowed op f.store := by
  obtain ⟨q, running, known⟩ := critical idle before waiting grants during within
  obtain ⟨next, acting⟩ := Config.Effect.running step
  obtain rfl := Option.some.inj (running.symm.trans acting)
  exact known.1

end Critical

end Manager

end VmCell
