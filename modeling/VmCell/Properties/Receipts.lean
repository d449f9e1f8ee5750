import VmCell.Interaction.Results
import VmCell.Properties.ShellLines
import VmCell.Receipts.Validation

/-! A receipt passes only if every check of it has passed.

Each check adds its finding to a verdict, which rejects as soon as it has one; the
document is searched as a whole, at every depth, before anything of it is believed.
-/

set_option autoImplicit false
namespace VmCell
namespace Receipts

open Interaction

section Documents
variable {value root : RawJson} {items : List RawJson} {members : List (String × RawJson)}
  {keys : List String}

/-- A value at some depth of another. -/
inductive Within (value : RawJson) : RawJson → Prop where
  | self : Within value value
  | item {item : RawJson} {items : List RawJson} {fault : Option String} (member : item ∈ items) :
      Within value item → Within value (.array items fault)
  | member {key : String} {held : RawJson} {members : List (String × RawJson)}
      {fault : Option String} (member : (key, held) ∈ members) :
      Within value held → Within value (.object members fault)

/-- Read to its end, and without a repeated key. -/
def Sound : RawJson → Prop
  | .object members fault => (members.map Prod.fst).Nodup ∧ fault = none
  | .array _ fault => fault = none
  | .broken _ => False
  | _ => True

theorem endsWith_ok {fault : Option String} : endsWith fault = .ok () ↔ fault = none := by
  cases fault <;> simp [endsWith]

theorem duplicateFreeItems_ok (free : duplicateFreeItems items = .ok ()) :
    ∀ item ∈ items, duplicateFree item = .ok () := by
  induction items with
  | nil => simp
  | cons first rest ih =>
      obtain ⟨here, later⟩ := bind_unit_ok.mp free
      intro item member
      rcases List.mem_cons.mp member with rfl | inside
      · exact here
      · exact ih later item inside

theorem duplicateFreeMembers_ok (free : duplicateFreeMembers keys members = .ok ()) :
    (members.map Prod.fst).Nodup ∧ (∀ key ∈ members.map Prod.fst, key ∉ keys) ∧
      ∀ member ∈ members, duplicateFree member.2 = .ok () := by
  induction members generalizing keys with
  | nil => simp
  | cons first rest ih =>
      obtain ⟨key, held⟩ := first
      rw [duplicateFreeMembers] at free
      split at free
      · cases free
      · rename_i fresh
        obtain ⟨here, later⟩ := bind_unit_ok.mp free
        obtain ⟨distinct, apart, each⟩ := ih later
        refine ⟨List.nodup_cons.mpr ⟨fun again => apart key again (by simp), distinct⟩, ?_, ?_⟩
        · intro other inside
          rcases List.mem_cons.mp inside with rfl | inside
          · exact fresh
          · exact fun seen => apart other inside (List.mem_cons_of_mem _ seen)
        · intro member inside
          rcases List.mem_cons.mp inside with rfl | inside
          · exact here
          · exact each member inside

theorem sound_of_duplicateFree (free : duplicateFree root = .ok ()) : Sound root := by
  cases root with
  | array items fault =>
      obtain ⟨-, ends⟩ := bind_unit_ok.mp free
      exact endsWith_ok.mp ends
  | object members fault =>
      obtain ⟨inner, ends⟩ := bind_unit_ok.mp free
      exact ⟨(duplicateFreeMembers_ok inner).1, endsWith_ok.mp ends⟩
  | broken message => cases free
  | _ => trivial

/-- The check reaches every depth. -/
theorem sound_within (free : duplicateFree root = .ok ()) (within : Within value root) :
    Sound value := by
  induction within with
  | self => exact sound_of_duplicateFree free
  | item member _ ih =>
      obtain ⟨inner, -⟩ := bind_unit_ok.mp free
      exact ih (duplicateFreeItems_ok inner _ member)
  | member member _ ih =>
      obtain ⟨inner, -⟩ := bind_unit_ok.mp free
      exact ih ((duplicateFreeMembers_ok inner).2.2 _ member)

theorem rejectDuplicateJsonKeys_ok {document : RawDocument}
    (accepted : rejectDuplicateJsonKeys document = .ok ()) :
    document.ended = true ∧ ∀ value, Within value document.root → Sound value := by
  unfold rejectDuplicateJsonKeys at accepted
  split at accepted
  · cases accepted
  · rename_i free
    split at accepted
    · rename_i ended
      exact ⟨ended, fun value within => sound_within free within⟩
    · cases accepted

end Documents

section Verdicts
variable {verdict : Verdict} {condition : Bool} {code : String} {findings : List String}

theorem nodup_pushFinding (distinct : findings.Nodup) : (pushFinding findings code).Nodup := by
  unfold pushFinding
  split
  · exact distinct
  · rename_i fresh
    exact List.nodup_append.mpr ⟨distinct, List.nodup_singleton code,
      fun other inside found member same =>
        fresh (List.mem_singleton.mp member ▸ same ▸ inside)⟩

theorem pushFinding_ne_nil : pushFinding findings code ≠ [] := by
  unfold pushFinding
  split
  · rename_i inside
    exact List.ne_nil_of_mem inside
  · simp

/-- A verdict rejects exactly when it has findings, each of them once. -/
structure Verdict.Fair (verdict : Verdict) : Prop where
  distinct : verdict.findings.Nodup
  grounds : verdict.valid = true ↔ verdict.findings = []

theorem Verdict.Fair.rejectIf (fair : verdict.Fair) : (verdict.rejectIf condition code).Fair := by
  unfold Verdict.rejectIf
  split
  · exact ⟨nodup_pushFinding fair.distinct, by simp [Verdict.reject, pushFinding_ne_nil]⟩
  · exact fair

@[simp] theorem rejectIf_valid : (verdict.rejectIf condition code).valid = true ↔
    condition = false ∧ verdict.valid = true := by
  unfold Verdict.rejectIf
  split
  · rename_i holds
    simp [Verdict.reject, holds]
  · rename_i fails
    simp [fails]

theorem fair_validateRequest (request : ValidationRequest) : (validateRequest request).Fair := by
  have start : Verdict.Fair ⟨true, []⟩ := ⟨List.nodup_nil, by simp⟩
  exact start.rejectIf.rejectIf.rejectIf.rejectIf.rejectIf.rejectIf.rejectIf.rejectIf.rejectIf
    |>.rejectIf.rejectIf.rejectIf.rejectIf.rejectIf.rejectIf.rejectIf

end Verdicts

section Grounds
variable {request : ValidationRequest} {receipt : FilledReceipt} {expected : ExpectedBinding}
  {verdict : Verdict} {id : String}

/-- What a receipt repeats of the binding that is expected of it. -/
structure Bound (expected : ExpectedBinding) (receipt : FilledReceipt) : Prop where
  releaseRef : receipt.repository.releaseRef = expected.releaseRef
  candidateSha : receipt.repository.candidateSha = expected.candidateSha
  candidateVersion : receipt.candidateBinary.version = expected.candidateVersion
  candidateBinary : receipt.candidateBinary.sha256 = expected.candidateBinarySha256
  preflight : receipt.preflight.receiptSha256 = expected.preflightReceiptSha256
  tuple : receipt.tuple = expected.tuple
  baseSize : receipt.immutableBase.sizeBytes = expected.immutableBase.sizeBytes
  baseBefore : receipt.immutableBase.sha256Before = expected.immutableBase.sha256
  baseAfter : receipt.immutableBase.sha256After = expected.immutableBase.sha256
  overlay : receipt.overlay.baseSha256 = expected.immutableBase.sha256
  cleanup : receipt.cleanup.immutableBaseSha256After = expected.immutableBase.sha256

/-- An identifier of evidence: opaque, and no word of a state or a template however it is
written. -/
structure Evidence (id : String) : Prop where
  isOpaque : isOpaqueId id = true
  unreserved : ∀ word ∈ reservedNonEvidenceIds, collapsed id ≠ word.toList
  filled : ¬ "required".toList <+: collapsed id

def evidenceIds (receipt : FilledReceipt) : List String :=
  requiredIds receipt ++ receipt.run.authorizationEvidenceId :: effectIds receipt

/-- What a receipt that passes says of its run. -/
structure Finished (receipt : FilledReceipt) : Prop where
  completed : receipt.realPlatformAcceptance = .completed
  authorized : receipt.run.mode = .authorizedRealRun
  cell : ∃ text id, receipt.run.cellId = some text ∧ Uuid.parseStr text = some id ∧
    id.isNil = false
  cleaned : receipt.overlay.cleanupCompleted = true
  released : receipt.cleanup.manualReviewRetained = false
  once : receipt.run.unknownGuestEffectReplayed = false

theorem evidence_of_isOpaqueId (isOpaque : isOpaqueId id = true) : Evidence id := by
  have plain := isOpaque
  unfold isOpaqueId at plain
  split at plain
  · cases plain
  · split at plain
    · cases plain
    · rename_i apart
      simp only [Bool.or_eq_true, List.any_eq_true, beq_iff_eq, List.isPrefixOf_iff_prefix,
        not_or, not_exists, not_and] at apart
      exact ⟨isOpaque, fun word member same => apart.1 word member same.symm, apart.2⟩

theorem validateCrossFields_valid (valid : (validateCrossFields request verdict).valid = true) :
    verdict.valid = true ∧ Bound request.expectedBinding request.receipt ∧
      request.receipt.run.unknownGuestEffectReplayed = false := by
  simp only [validateCrossFields, rejectIf_valid, Bool.or_eq_false_iff, decide_eq_false_iff_not,
    ne_eq, Decidable.not_not] at valid
  obtain ⟨⟨-, replayed⟩, base, preflight, tuple, binary, -, repository, before⟩ := valid
  obtain ⟨⟨⟨⟨⟨⟨⟨⟨⟨⟨-, size⟩, sha⟩, after⟩, -⟩, overlay⟩, cleanup⟩, -⟩, -⟩, -⟩, -⟩ := base
  exact ⟨before, ⟨repository.1.2, repository.2, binary.1.1, binary.1.2, preflight.1, tuple, size,
    sha, after, overlay, cleanup⟩, replayed⟩

theorem validateReceiptIds_valid (valid : (validateReceiptIds receipt verdict).valid = true) :
    verdict.valid = true ∧ (∀ id ∈ requiredIds receipt, isOpaqueId id = true) ∧
      ∀ text, receipt.run.cellId = some text → isNonNilUuid text = true := by
  simp only [validateReceiptIds, rejectIf_valid, Bool.or_eq_false_iff] at valid
  obtain ⟨-, ⟨required, cell⟩, before⟩ := valid
  refine ⟨before, fun id member => ?_, fun text found => ?_⟩
  · simpa using List.any_eq_false.mp required id member
  · simpa [found] using cell

/-- The terminal check adds what the checks before it leave open. -/
theorem finished_of_pass (valid : (validateRequest request).valid = true)
    (terminal : passTerminalState request.receipt = true) :
    Bound request.expectedBinding request.receipt ∧ Finished request.receipt ∧
      ∀ id ∈ evidenceIds request.receipt, Evidence id := by
  obtain ⟨crossed, bound, once⟩ := validateCrossFields_valid valid
  obtain ⟨-, required, uuid⟩ := validateReceiptIds_valid crossed
  simp only [passTerminalState, Bool.and_eq_true, decide_eq_true_eq, Bool.not_eq_true',
    List.all_eq_true] at terminal
  obtain ⟨⟨⟨⟨⟨⟨completed, authorized⟩, authorization⟩, cell⟩, effects⟩, cleaned⟩, released⟩ :=
    terminal
  obtain ⟨text, named⟩ := Option.isSome_iff_exists.mp cell
  obtain ⟨id, parsed, real⟩ := (Option.any_eq_true _ _).mp (uuid text named)
  refine ⟨bound, ⟨completed, authorized, ⟨text, id, named, parsed, by simpa using real⟩, cleaned,
    released, once⟩, fun id member => evidence_of_isOpaqueId ?_⟩
  rcases List.mem_append.mp member with inside | inside
  · exact required id inside
  · rcases List.mem_cons.mp inside with rfl | inside
    · exact authorization
    · exact effects id inside

end Grounds

section Outcomes
variable {libraries : Libraries} {bytes : Bytes} {request : ValidationRequest}
  {receipt : FilledReceipt} {findings : List String} {sha256 code : String}

/-- A report rejects exactly when its document is invalid, gives a reason if it does, and
gives every reason once. -/
structure Report.Coherent (report : Report) : Prop where
  valid : report.documentValid = true ↔ report.disposition ≠ .rejected
  grounds : report.disposition = .rejected → report.findings ≠ []
  distinct : report.findings.Nodup

theorem coherent_rejected : (rejected sha256 code).Coherent where
  valid := by simp [rejected, report]
  grounds := by simp [rejected, report]
  distinct := List.nodup_singleton code

theorem disposition_findings (distinct : findings.Nodup) :
    ((disposition receipt findings).1 = .rejected → (disposition receipt findings).2 ≠ []) ∧
      (disposition receipt findings).2.Nodup := by
  unfold disposition
  cases receipt.result with
  | pass =>
      simp only
      split
      · exact ⟨nofun, distinct⟩
      · exact ⟨fun _ => pushFinding_ne_nil, nodup_pushFinding distinct⟩
  | preflightPass =>
      simp only
      split
      · exact ⟨nofun, nodup_pushFinding distinct⟩
      · exact ⟨fun _ => pushFinding_ne_nil, nodup_pushFinding distinct⟩
  | partialResult | blockedExternal | ownerDecisionRequired =>
      simp only
      split
      · exact ⟨fun _ => pushFinding_ne_nil, nodup_pushFinding distinct⟩
      · exact ⟨nofun, nodup_pushFinding distinct⟩

theorem disposition_pass (passes : (disposition receipt findings).1 = .pass) :
    receipt.result = .pass ∧ passTerminalState receipt = true ∧
      (disposition receipt findings).2 = findings := by
  unfold disposition at passes ⊢
  cases result : receipt.result <;> simp only [result] at passes ⊢ <;> split at passes
  all_goals first | contradiction | simp_all

theorem reportOf_invalid (invalid : (validateRequest request).valid = false) :
    reportOf sha256 request =
      report sha256 false .rejected (validateRequest request).findings := by
  unfold reportOf
  simp only [invalid, Bool.not_false, if_true]

theorem reportOf_valid (valid : (validateRequest request).valid = true) :
    reportOf sha256 request =
      report sha256
        ((disposition request.receipt (validateRequest request).findings).1 ≠ .rejected)
        (disposition request.receipt (validateRequest request).findings).1
        (disposition request.receipt (validateRequest request).findings).2 := by
  unfold reportOf
  simp only [valid, Bool.not_true, Bool.false_eq_true, if_false]

theorem coherent_reportOf : (reportOf sha256 request).Coherent := by
  have fair := fair_validateRequest request
  cases valid : (validateRequest request).valid with
  | false =>
      rw [reportOf_invalid valid]
      refine ⟨by simp [report], fun _ none => ?_, fair.distinct⟩
      cases valid.symm.trans (fair.grounds.mpr none)
  | true =>
      rw [reportOf_valid valid]
      have sound : _ ∧ _ := @disposition_findings request.receipt _ fair.distinct
      exact ⟨by simp [report], sound.1, sound.2⟩

theorem reportOf_pass (passes : (reportOf sha256 request).disposition = .pass) :
    request.receipt.result = .pass ∧ (reportOf sha256 request).findings = [] ∧
      Bound request.expectedBinding request.receipt ∧ Finished request.receipt ∧
      ∀ id ∈ evidenceIds request.receipt, Evidence id := by
  have fair := fair_validateRequest request
  cases valid : (validateRequest request).valid with
  | false =>
      rw [reportOf_invalid valid] at passes
      cases passes
  | true =>
      rw [reportOf_valid valid] at passes ⊢
      obtain ⟨result, terminal, same⟩ := disposition_pass passes
      exact ⟨result, same.trans (fair.grounds.mp valid), finished_of_pass valid terminal⟩

/-- What stands behind a receipt that passes. -/
structure Earned (libraries : Libraries) (bytes : Bytes) (report : Report) : Prop where
  bounded : bytes.length ≤ maxAcceptanceReceiptBytes
  text : Text.IsUtf8 bytes
  ended : (libraries.readJson bytes).ended = true
  sound : ∀ value, Within value (libraries.readJson bytes).root → Sound value
  clear : report.findings = []
  receipt : ∃ value request, (libraries.readJson bytes).value = some value ∧
    ValidationRequest.decode value = some request ∧ request.receipt.result = .pass ∧
    Bound request.expectedBinding request.receipt ∧ Finished request.receipt ∧
    ∀ id ∈ evidenceIds request.receipt, Evidence id

/-- A receipt passes only with everything that a pass stands for. -/
theorem acceptance_receipt_validation (libraries : Libraries) (bytes : Bytes) :
    (validateAcceptanceReceiptBytes libraries bytes).Coherent ∧
      ((validateAcceptanceReceiptBytes libraries bytes).disposition = .pass →
        Earned libraries bytes (validateAcceptanceReceiptBytes libraries bytes)) := by
  have failed (code : String) : (rejected (libraries.sha256 bytes) code).Coherent ∧
      ((rejected (libraries.sha256 bytes) code).disposition = .pass →
        Earned libraries bytes (rejected (libraries.sha256 bytes) code)) :=
    ⟨coherent_rejected, nofun⟩
  unfold validateAcceptanceReceiptBytes
  -- one case for each reason to reject before the request is known
  split
  · exact failed _
  rename_i short
  split
  · exact failed _
  rename_i utf8
  split
  · exact failed _
  · exact failed _
  rename_i free
  split
  · exact failed _
  rename_i value read
  split
  · exact failed _
  · exact failed _
  split
  · exact failed _
  split
  · exact failed _
  rename_i request decoded
  refine ⟨coherent_reportOf, fun passes => ?_⟩
  obtain ⟨result, clear, bound, finished, evidence⟩ := reportOf_pass passes
  obtain ⟨ended, sound⟩ := rejectDuplicateJsonKeys_ok free
  obtain ⟨text, same⟩ := Option.ne_none_iff_exists'.mp (by simpa using utf8)
  exact ⟨Nat.not_lt.mp short, ⟨text, fromUtf8_eq_some.mp same⟩, ended, sound, clear,
    value, request, read, decoded, result, bound, finished, evidence⟩

end Outcomes

end Receipts
end VmCell
