import VmCell.Properties.Artifacts
import VmCell.Properties.Cells

/-! Live cells refer to registered images, and a registration is never replaced. -/

set_option autoImplicit false
namespace VmCell

open Interaction Fallible

section Bindings
variable {env : Environment} {i : Pid} {op : Op} {s t : Store}

/-- The cell's image is registered, and its binding is the registered variant. -/
def BoundImage (s : Store) (cell : CellRecord) : Prop :=
  ∃ image variant, s.images.lookup cell.image.imageId = some image ∧
    providerVariant image cell.provider = .ok variant ∧
    cell.image = .fromVariant cell.image.imageId image.guestOs variant ∧
    cell.spec.image = cell.image.imageId

/-- Every live cell has its image. -/
def AllBound (s : Store) : Prop :=
  ∀ cellId cell, s.cells.lookup cellId = some cell → cell.state ≠ .destroyed → BoundImage s cell

theorem BoundImage.of_images {cell : CellRecord} (bound : BoundImage s cell)
    (same : t.images.lookup cell.image.imageId = s.images.lookup cell.image.imageId) :
    BoundImage t cell := by
  unfold BoundImage
  rw [same]
  exact bound

theorem BoundImage.of_same {old new : CellRecord} (bound : BoundImage s old)
    (same : SameCell old new) : BoundImage s new := by
  unfold BoundImage
  rw [same.image, same.provider, same.spec]
  exact bound

theorem CellIntended.bound {record : CellRecord} (intended : CellIntended env i s record) :
    BoundImage s record := by
  obtain ⟨image, variant, registered, identity, selected, binding⟩ := intended.image
  have named : record.image.imageId = record.spec.image := by
    rw [binding]
    exact identity
  refine ⟨image, variant, by rw [named]; exact registered, selected, ?_, named.symm⟩
  rw [named, ← identity]
  exact binding

theorem allBound_of_change (coupled : AllCoupled s) (bound : AllBound s)
    (allowed : Allowed env i op s) (change : Change env.site s op t) : AllBound t := by
  rcases change.cells with cells | ⟨record, rfl, saved⟩
  · intro cellId cell found live
    rw [cells] at found
    have before := bound cellId cell found live
    rcases change.images with images | ⟨record, rfl, saved⟩ | ⟨id, rfl, rfl⟩
    · exact before.of_images (by rw [images])
    · obtain ⟨absent, _, rfl⟩ := Store.saveImageNew_ok saved
      refine before.of_images (AList.lookup_insert_ne ?_)
      intro same
      obtain ⟨image, _, registered, _⟩ := before
      rw [same, absent] at registered
      cases registered
    · refine before.of_images (AList.lookup_erase_ne ?_)
      intro same
      exact live (allowed cellId cell found same).1
  · obtain ⟨_, _, _, rfl⟩ := Store.saveCell_ok saved
    intro cellId cell found live
    by_cases same : cellId = record.id
    · subst same
      obtain rfl := Option.some.inj ((AList.lookup_insert s.cells).symm.trans found)
      rcases allowed with intended | ⟨old, stored, kept, step⟩
      · exact (intended.bound.of_same (redact_sameCell record)).of_images rfl
      · have before := bound _ old stored (step.live (coupled _ old stored))
        exact (before.of_same (kept.trans (redact_sameCell record))).of_images rfl
    · exact (bound cellId cell ((AList.lookup_insert_ne same).symm.trans found) live).of_images rfl

/-- A registration is kept or removed, never replaced. -/
theorem images_of_change (change : Change env.site s op t) {id : ImageId} {image : ImageRecord}
    (found : s.images.lookup id = some image) :
    t.images.lookup id = some image ∨
      op = .mutate (.removeImageRecord id) ∧ t.images.lookup id = none := by
  rcases change.images with images | ⟨record, rfl, saved⟩ | ⟨other, rfl, rfl⟩
  · exact Or.inl (by rw [images]; exact found)
  · obtain ⟨absent, _, rfl⟩ := Store.saveImageNew_ok saved
    refine Or.inl ((AList.lookup_insert_ne ?_).trans found)
    rintro rfl
    rw [absent] at found
    cases found
  · by_cases same : id = other
    · subst same
      exact Or.inr ⟨rfl, AList.lookup_erase id s.images⟩
    · exact Or.inl ((AList.lookup_erase_ne same).trans found)

end Bindings

section Registration
variable {env : Environment} {i : Pid} {s t : Store} {record existing : ImageRecord}

/-- A second registration changes nothing: it answers the first one when the two
agree, and reports a conflict when they do not. -/
theorem settleRegistration_again (legible : Legible env.site s) (steady : ¬env.faults)
    (found : s.images.lookup record.id = some existing) {result : Except EngineError ImageRecord}
    (runs : Proc.Runs (env.effects i) (settleRegistration record) s result t) :
    t = s ∧ result = if sameImageIdentity existing record then .ok existing
      else .error (.imageConflict record.id) := by
  have loaded : s.loadImage env.site record.id = .ok existing := by
    unfold Store.loadImage
    rw [found]
    simp only [legible.images record.id existing found]
    rfl
  have held : Held (env.effects i) (fun _ _ => True) (fun result t => t = s ∧ result =
      if sameImageIdentity existing record then .ok existing
      else .error (.imageConflict record.id)) (settleRegistration record) s := by
    refine ⟨trivial, ?_⟩
    rintro reply u ⟨rfl, answered | ⟨faults, _⟩⟩
    · obtain rfl : reply = .ok existing := answered.trans loaded
      by_cases same : sameImageIdentity existing record = true
      · rw [if_pos same]
        show Held _ _ _ (if _ then _ else _ : Engine ImageRecord) _
        rw [if_pos same]
        exact ⟨rfl, rfl⟩
      · rw [if_neg same]
        show Held _ _ _ (if _ then _ else _ : Engine ImageRecord) _
        rw [if_neg same]
        exact ⟨rfl, rfl⟩
    · exact absurd faults steady
  exact held.runs runs

end Registration

section Runs
variable {env : Environment} {c d : Manager}

/-- The two invariants that keep each other. -/
structure Referenced (s : Store) : Prop where
  coupled : AllCoupled s
  bound : AllBound s

theorem referenced_empty : Referenced Store.empty :=
  ⟨allCoupled_empty, fun _ _ found => by cases found⟩

theorem referenced_of_change {i : Pid} {op : Op} {s t : Store} (referenced : Referenced s)
    (allowed : Allowed env i op s) (change : Change env.site s op t) : Referenced t :=
  ⟨allCoupled_of_change referenced.coupled allowed change,
    allBound_of_change referenced.coupled referenced.bound allowed change⟩

/-- From an empty state root, at every point of every run: a live cell has its
image registered with the variant it was bound to; an effect leaves a registered
image as it is or removes it; a removal that succeeds left no live cell of the
image; a registration that succeeds left the record on disk, which is the one
that was there if there was one, and of the same identity; and without faults a
registration of a registered image is a no-op or a conflict. -/
theorem images_stay_referenced (idle : c.Idle) (fresh : c.store = Store.empty)
    (before : Manager.Reaches env c d) :
    (∀ cellId cell, d.store.cells.lookup cellId = some cell → cell.state ≠ .destroyed →
      BoundImage d.store cell) ∧
    (∀ {i : Pid} {op : Op} {reply : op.Reply} {e : Manager}, Manager.Effect env d i op reply e →
      ∀ id image, d.store.images.lookup id = some image →
        e.store.images.lookup id = some image ∨
          op = .mutate (.removeImageRecord id) ∧ e.store.images.lookup id = none) ∧
    (∀ {i : Pid} {e f : Manager} {imageId : ImageId} {report : ImageUnregisterReport},
      d.procs i = some ((Command.unregister imageId).program env.site) → d.Grants i e →
      Manager.During env i e f →
      f.procs i = some (.release (.done (.unregister (.ok report)))) →
      Released f.store imageId ∧ f.store.cells = d.store.cells) ∧
    (∀ {i : Pid} {e f : Manager} {provider : String} {request : RegisterImageRequest}
      {result : ImageRecord},
      d.procs i =
        some (respond .image (mutationLocked (registerImageLocked env.site provider request))) →
      d.Grants i e → Manager.During env i e f →
      f.procs i = some (.release (.done (.image (.ok result)))) →
      ∃ record : ImageRecord, record.id = request.id ∧ Settled d.store record result f.store) ∧
    (¬env.faults → ∀ {i : Pid} {record existing : ImageRecord}
      {result : Except EngineError ImageRecord} {t : Store},
      d.store.images.lookup record.id = some existing →
      Proc.Runs (env.effects i) (settleRegistration record) d.store result t →
      t = d.store ∧ result = if sameImageIdentity existing record then .ok existing
        else .error (.imageConflict record.id)) := by
  have referenced : Referenced d.store :=
    Manager.invariant idle (fresh ▸ referenced_empty) referenced_of_change before
  refine ⟨referenced.bound, ?_, ?_, ?_, ?_⟩
  · intro i op reply e step id image found
    exact images_of_change (Manager.change step) found
  · intro i e f imageId report waiting grants during finished
    exact Manager.critical_ends (fun _ _ => Response.unregister.inj) idle before waiting grants
      during within_unregisterImageLocked finished
  · intro i e f provider request result waiting grants during finished
    exact Manager.critical_ends (fun _ _ => Response.image.inj) idle before waiting grants
      during within_registerImageLocked finished
  · intro steady i record existing result t found runs
    have legible : Legible env.site d.store :=
      Manager.invariant idle (fresh ▸ legible_empty)
        (fun legible _ change => legible_of_change legible change) before
    exact settleRegistration_again legible steady found runs

theorem images_stay_referenced_by_created :
    ∃ (d : Manager) (cell : CellRecord),
      Manager.Reaches Exemplar.env (Config.empty Store.empty) d ∧
      d.store.cells.lookup Exemplar.cellId = some cell ∧ cell.state = .stopped ∧
      BoundImage d.store cell := by
  obtain ⟨t, reaches, stopped⟩ := Exemplar.reaches [(Exemplar.register, 11), (Exemplar.create, 36)]
    (exemplarIn .stopped) (by decide +kernel)
  obtain ⟨cell, found, state⟩ := exemplarIn_iff.mp stopped
  obtain ⟨bound, _⟩ := images_stay_referenced (Config.empty_idle Store.empty) rfl reaches
  exact ⟨_, cell, reaches, found, state,
    bound Exemplar.cellId cell found (by rw [state]; decide)⟩

end Runs

end VmCell
