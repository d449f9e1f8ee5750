import VmCell.Engine.Images
import VmCell.Engine.Sections.Lifecycle

/-! Registration and removal of images keep the discipline. -/

set_option autoImplicit false
namespace VmCell

open Interaction Fallible

section Registration
variable {site : Site} {provider : String} {env : Environment} {i : Pid} {s : Store}

theorem passive_validateOpened {report : ImageValidationReport} {canonical : PathBuf}
    {fileSize : Nat} {registered : Option ImageVariant} :
    Passive (I := signature) Free (validateOpened site report canonical fileSize registered) :=
  passive_inspectImage.bind fun _ => passive_observe.bind fun _ => .pure

theorem passive_validateImagePath {path : PathBuf} {registered : Option ImageVariant} :
    Passive (I := signature) Free (validateImagePath site provider path registered) := by
  unfold validateImagePath
  refine Passive.lift.bind fun _ => .ite .pure ?_
  refine passive_observe.bind ?_
  rintro (_ | canonical)
  · exact .pure
  · refine passive_observe.bind ?_
    rintro (_ | opened)
    · exact .pure
    · refine passive_observe.bind ?_
      rintro (_ | fileSize)
      · exact .pure
      · exact passive_validateOpened

/-- A registration ends with the record on disk: the one that was there, when it
is of the same identity, or the new one. -/
def Settled (s : Store) (record result : ImageRecord) (t : Store) : Prop :=
  t.images.lookup record.id = some result ∧
    (∀ existing, s.images.lookup record.id = some existing → t = s ∧ result = existing ∧
      sameImageIdentity existing record = true) ∧
    (s.images.lookup record.id = none → result = record)

theorem within_settleRegistration {record : ImageRecord} :
    Within (env.effects i) (Allowed env i) (fun result t => Settled s record result t)
      (fun _ _ => True) (settleRegistration record) s := by
  unfold settleRegistration
  refine Within.bind (Within.attempt (within_query trivial (fun existing loaded => ?_) fun e => ?_))
  · obtain ⟨found, _⟩ := Store.loadImage_ok loaded
    refine Within.ite (fun same => Within.pure ⟨found, ?_, ?_⟩) fun _ => Within.fail trivial
    · intro other present
      obtain rfl := Option.some.inj (found.symm.trans present)
      exact ⟨rfl, rfl, same⟩
    · intro absent
      rw [found] at absent
      cases absent
  · cases e with
    | notFound path =>
        refine Within.bind (within_mutate trivial (fun _ t saved => Within.pure ?_)
          fun _ _ _ => trivial)
        obtain ⟨absent, _, rfl⟩ := Store.saveImageNew_ok (written_ok.mp saved)
        refine ⟨AList.lookup_insert _, ?_, fun _ => rfl⟩
        intro existing present
        rw [absent] at present
        cases present
    | _ => exact Within.fail trivial

theorem within_registerImageLocked {request : RegisterImageRequest} :
    Within (env.effects i) (Allowed env i) (fun result t => ∃ record : ImageRecord,
        record.id = request.id ∧ Settled s record result t) (fun _ _ => True)
      (registerImageLocked env.site provider request) s := by
  unfold registerImageLocked
  refine Within.bind (within_passive passive_validateImagePath (fun _ free => free.allowed)
    (fun report => ?_) fun _ => trivial)
  refine Within.bind (Within.lift (fun variant _ => ?_) fun _ _ => trivial)
  refine Within.bind (within_now trivial fun time => ?_)
  exact within_settleRegistration.weaken (fun _ _ settled => ⟨_, rfl, settled⟩) fun _ _ _ => trivial

end Registration

section Removal
variable {env : Environment} {i : Pid} {s : Store}

/-- Every cell of the image has been destroyed. -/
def Released (s : Store) (imageId : ImageId) : Prop :=
  ∀ cellId cell, s.cells.lookup cellId = some cell → cell.image.imageId = imageId →
    cell.state = .destroyed ∧ cell.phase = .destroyed

/-- No dependency blocks exactly when every cell of the image is a tombstone. -/
theorem released_of_unblocked {site : Site} {cells : List CellRecord} {imageId : ImageId}
    (listed : s.listCells site = .ok cells)
    (unblocked : ((((cells.filter fun cell => cell.image.imageId = imageId).map
      imageDependency).insertionSort dependencyOrder).filter (·.blocking)).length = 0) :
    Released s imageId := by
  intro cellId cell found bound
  obtain ⟨stored, read, rfl⟩ := Store.listCells_read listed
  have member : cell ∈ stored := (mem_readJsonDirectory read cell).mpr ⟨cellId, found⟩
  have empty := List.eq_nil_of_length_eq_zero unblocked
  have kept := List.filter_eq_nil_iff.mp empty (imageDependency (redactCellDiagnostic cell)) (by
    rw [List.mem_insertionSort]
    refine List.mem_map_of_mem (List.mem_filter.mpr ⟨List.mem_map_of_mem member, ?_⟩)
    simpa using bound)
  simpa [imageDependency] using kept

theorem within_collectImageDependencies {imageId : ImageId}
    {good : List ImageDependency → Store → Prop} {bad : EngineError → Store → Prop}
    (ok : ∀ dependencies, ((dependencies.filter (·.blocking)).length = 0 → Released s imageId) →
      good dependencies s) (error : ∀ e, bad e s) :
    Within (env.effects i) (Allowed env i) good bad (collectImageDependencies imageId) s := by
  unfold collectImageDependencies
  refine Within.bind (within_query trivial (fun cells listed => ?_) fun _ => error _)
  refine Within.bind (Within.lift (fun _ _ => ?_) fun _ _ => error _)
  exact Within.pure (ok _ fun unblocked => released_of_unblocked listed unblocked)

theorem within_imageRegistered {imageId : ImageId} {good : Bool → Store → Prop}
    {bad : EngineError → Store → Prop} (ok : ∀ registered, good registered s)
    (error : ∀ e, bad e s) :
    Within (env.effects i) (Allowed env i) good bad (imageRegistered imageId) s := by
  unfold imageRegistered
  refine Within.bind (Within.attempt (within_query trivial (fun _ _ => Within.pure (ok _))
    fun e => ?_))
  cases e with
  | notFound path => exact Within.pure (ok _)
  | _ => exact Within.fail (error _)

/-- A removal that succeeds leaves no cell of the image alive, and changes no cell. -/
theorem within_unregisterImageLocked {imageId : ImageId} :
    Within (env.effects i) (Allowed env i)
      (fun _ t => Released t imageId ∧ t.cells = s.cells) (fun _ _ => True)
      (unregisterImageLocked imageId) s := by
  unfold unregisterImageLocked
  refine Within.bind (within_collectImageDependencies (fun dependencies released => ?_)
    fun _ => trivial)
  refine Within.bind (Within.lift (fun _ unblocked => ?_) fun _ _ => trivial)
  have free := released (by simpa using require_ok.mp unblocked)
  refine Within.bind (within_imageRegistered (fun registered => ?_) fun _ => trivial)
  refine Within.bind (Within.ite (fun _ => ?_) fun _ => Within.pure (Within.pure ⟨free, rfl⟩))
  refine within_mutate free (fun _ t applied => Within.pure ?_) fun _ _ _ => trivial
  rcases Store.removeImageRecord_ok applied with rfl | rfl
  · exact ⟨free, rfl⟩
  · exact ⟨free, rfl⟩

end Removal

end VmCell
