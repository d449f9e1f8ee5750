import VmCell.Core.Uuid
import VmCell.Guest.Commands
import VmCell.Receipts.Documents

/-! Offline validation of receipts of acceptance on a real platform.

A receipt comes with the binding that is expected of it. It is read, searched for what it
must not disclose, decoded and compared; every reason against it is a finding.
-/

set_option autoImplicit false
namespace VmCell
namespace Receipts

section Constants

def validationContract : String := "vmcell.acceptance-receipt-validation.v1"
def requestContract : String := "vmcell.acceptance-receipt-validation-request.v1"
def receiptContract : String := "vmcell.real-platform-acceptance-receipt.v1"
def schemaVersion : Nat := 1
def maxAcceptanceReceiptBytes : Nat := 256 * 1024
def maxValueBytes : Nat := 256
def maxJsonDepth : Nat := 16
def maxJsonObjectFields : Nat := 32
def maxJsonArrayItems : Nat := 16
def v03ReleaseRef : String := "release/v0.3.0"
def v03CandidateSha : String := "d0af04b2e84cf2226628173d2ed0d295aed01f2b"
def v03CandidateVersion : String := "0.3.0"
def notApplicable : String := "not_applicable"

/-- Words of templates and of states, which identify no evidence. -/
def reservedNonEvidenceIds : List String :=
  ["blockedexternal", "developmentonly", "experimental", "notapplicable", "notevaluated",
    "notexecuted", "ownerdecisionrequired", "partial", "pass", "pendingrealplatformgate",
    "preflightpass", "supported", "untested", "unsupported"]

end Constants

section Reports

inductive Disposition where
  | pass
  | preflightOnly
  | terminalNotPass
  | rejected
  deriving DecidableEq

/-- `AcceptanceReceiptValidationReport`; a finding is its code. -/
structure Report where
  schemaVersion : Nat
  contract : String
  authorizing : Bool
  supportPromotion : String
  documentSha256 : String
  documentValid : Bool
  disposition : Disposition
  findings : List String
  deriving DecidableEq

def report (documentSha256 : String) (documentValid : Bool) (disposition : Disposition)
    (findings : List String) : Report where
  schemaVersion := schemaVersion
  contract := validationContract
  authorizing := false
  supportPromotion := "not_evaluated"
  documentSha256 := documentSha256
  documentValid := documentValid
  disposition := disposition
  findings := findings

def rejected (documentSha256 code : String) : Report :=
  report documentSha256 false .rejected [code]

def pushFinding (findings : List String) (code : String) : List String :=
  if code ∈ findings then findings else findings ++ [code]

/-- The findings so far, and whether none of them rejects the document. -/
structure Verdict where
  valid : Bool
  findings : List String

def Verdict.reject (verdict : Verdict) (code : String) : Verdict :=
  ⟨false, pushFinding verdict.findings code⟩

def Verdict.rejectIf (condition : Bool) (code : String) (verdict : Verdict) : Verdict :=
  if condition then verdict.reject code else verdict

end Reports

section Requests

structure Tuple where
  hostOs : String
  hostArchitecture : String
  provider : String
  accelerator : String
  guestOs : String
  guestArchitecture : String
  guestTransport : String
  deriving DecidableEq

structure ExpectedImmutableBase where
  format : String
  sizeBytes : Nat
  sha256 : String
  deriving DecidableEq

structure ExpectedBinding where
  releaseRef : String
  candidateSha : String
  candidateVersion : String
  candidateBinarySha256 : String
  preflightReceiptSha256 : String
  tuple : Tuple
  immutableBase : ExpectedImmutableBase

inductive RealPlatformAcceptance where
  | pending
  | completed
  deriving DecidableEq

inductive TerminalResult where
  | preflightPass
  | pass
  | partialResult
  | blockedExternal
  | ownerDecisionRequired
  deriving DecidableEq

structure Repository where
  slug : String
  releaseRef : String
  candidateSha : String
  checkoutClean : Bool

structure CandidateBinary where
  version : String
  sha256 : String

structure PreflightBinding where
  receiptSha256 : String
  evidenceId : String

structure ImmutableBase where
  format : String
  sizeBytes : Nat
  sha256Before : String
  sha256After : String
  backingParent : Option String

structure OverlayBinding where
  baseSha256 : String
  identityEvidenceId : String
  cleanupCompleted : Bool

inductive RunMode where
  | observeOnlyPreflight
  | authorizedRealRun
  deriving DecidableEq

structure RunEvidence where
  mode : RunMode
  authorizationEvidenceId : String
  isolationEvidenceId : String
  exactOwnedNamespace : String
  cellId : Option String
  providerObjectEvidenceId : String
  runtimeReceiptEvidenceId : String
  lifecycleEvidenceId : String
  guestEvidenceId : String
  unknownGuestEffectReplayed : Bool

structure CleanupEvidence where
  policy : String
  evidenceId : String
  immutableBaseSha256After : String
  foreignStateUnchanged : Bool
  manualReviewRetained : Bool

structure FilledReceipt where
  schemaVersion : Nat
  contract : String
  authorizing : Bool
  realPlatformAcceptance : RealPlatformAcceptance
  result : TerminalResult
  repository : Repository
  candidateBinary : CandidateBinary
  tuple : Tuple
  preflight : PreflightBinding
  immutableBase : ImmutableBase
  overlay : OverlayBinding
  run : RunEvidence
  cleanup : CleanupEvidence
  supportStatus : String
  supportPromotion : String

structure ValidationRequest where
  schemaVersion : Nat
  contract : String
  expectedBinding : ExpectedBinding
  receipt : FilledReceipt

end Requests

section Decoding

def Tuple.decode (value : Json) : Option Tuple := do
  let fields ← value.fields ["host_os", "host_architecture", "provider", "accelerator", "guest_os",
    "guest_architecture", "guest_transport"]
  some ⟨← field Json.asString fields 0, ← field Json.asString fields 1,
    ← field Json.asString fields 2, ← field Json.asString fields 3, ← field Json.asString fields 4,
    ← field Json.asString fields 5, ← field Json.asString fields 6⟩

def ExpectedImmutableBase.decode (value : Json) : Option ExpectedImmutableBase := do
  let fields ← value.fields ["format", "size_bytes", "sha256"]
  some ⟨← field Json.asString fields 0, ← field Json.asU64 fields 1, ← field Json.asString fields 2⟩

def ExpectedBinding.decode (value : Json) : Option ExpectedBinding := do
  let fields ← value.fields ["release_ref", "candidate_sha", "candidate_version",
    "candidate_binary_sha256", "preflight_receipt_sha256", "tuple", "immutable_base"]
  some ⟨← field Json.asString fields 0, ← field Json.asString fields 1,
    ← field Json.asString fields 2, ← field Json.asString fields 3, ← field Json.asString fields 4,
    ← field Tuple.decode fields 5, ← field ExpectedImmutableBase.decode fields 6⟩

def RealPlatformAcceptance.decode : Json → Option RealPlatformAcceptance :=
  Json.variant [("pending", .pending), ("completed", .completed)]

def TerminalResult.decode : Json → Option TerminalResult :=
  Json.variant [("PREFLIGHT_PASS", .preflightPass), ("PASS", .pass), ("PARTIAL", .partialResult),
    ("BLOCKED_EXTERNAL", .blockedExternal), ("OWNER_DECISION_REQUIRED", .ownerDecisionRequired)]

def Repository.decode (value : Json) : Option Repository := do
  let fields ← value.fields ["slug", "release_ref", "candidate_sha", "checkout_clean"]
  some ⟨← field Json.asString fields 0, ← field Json.asString fields 1,
    ← field Json.asString fields 2, ← field Json.asBool fields 3⟩

def CandidateBinary.decode (value : Json) : Option CandidateBinary := do
  let fields ← value.fields ["version", "sha256"]
  some ⟨← field Json.asString fields 0, ← field Json.asString fields 1⟩

def PreflightBinding.decode (value : Json) : Option PreflightBinding := do
  let fields ← value.fields ["receipt_sha256", "evidence_id"]
  some ⟨← field Json.asString fields 0, ← field Json.asString fields 1⟩

def ImmutableBase.decode (value : Json) : Option ImmutableBase := do
  let fields ← value.fields ["format", "size_bytes", "sha256_before", "sha256_after",
    "backing_parent"]
  some ⟨← field Json.asString fields 0, ← field Json.asU64 fields 1, ← field Json.asString fields 2,
    ← field Json.asString fields 3, ← optionalField Json.asString fields 4⟩

def OverlayBinding.decode (value : Json) : Option OverlayBinding := do
  let fields ← value.fields ["base_sha256", "identity_evidence_id", "cleanup_completed"]
  some ⟨← field Json.asString fields 0, ← field Json.asString fields 1, ← field Json.asBool fields 2⟩

def RunMode.decode : Json → Option RunMode :=
  Json.variant [("observe-only-preflight", .observeOnlyPreflight),
    ("authorized-real-run", .authorizedRealRun)]

def RunEvidence.decode (value : Json) : Option RunEvidence := do
  let fields ← value.fields ["mode", "authorization_evidence_id", "isolation_evidence_id",
    "exact_owned_namespace", "cell_id", "provider_object_evidence_id",
    "runtime_receipt_evidence_id", "lifecycle_evidence_id", "guest_evidence_id",
    "unknown_guest_effect_replayed"]
  some ⟨← field RunMode.decode fields 0, ← field Json.asString fields 1,
    ← field Json.asString fields 2, ← field Json.asString fields 3,
    ← optionalField Json.asString fields 4, ← field Json.asString fields 5,
    ← field Json.asString fields 6, ← field Json.asString fields 7, ← field Json.asString fields 8,
    ← field Json.asBool fields 9⟩

def CleanupEvidence.decode (value : Json) : Option CleanupEvidence := do
  let fields ← value.fields ["policy", "evidence_id", "immutable_base_sha256_after",
    "foreign_state_unchanged", "manual_review_retained"]
  some ⟨← field Json.asString fields 0, ← field Json.asString fields 1,
    ← field Json.asString fields 2, ← field Json.asBool fields 3, ← field Json.asBool fields 4⟩

def FilledReceipt.decode (value : Json) : Option FilledReceipt := do
  let fields ← value.fields ["schema_version", "contract", "authorizing",
    "real_platform_acceptance", "result", "repository", "candidate_binary", "tuple", "preflight",
    "immutable_base", "overlay", "run", "cleanup", "support_status", "support_promotion"]
  some ⟨← field Json.asU32 fields 0, ← field Json.asString fields 1, ← field Json.asBool fields 2,
    ← field RealPlatformAcceptance.decode fields 3, ← field TerminalResult.decode fields 4,
    ← field Repository.decode fields 5, ← field CandidateBinary.decode fields 6,
    ← field Tuple.decode fields 7, ← field PreflightBinding.decode fields 8,
    ← field ImmutableBase.decode fields 9, ← field OverlayBinding.decode fields 10,
    ← field RunEvidence.decode fields 11, ← field CleanupEvidence.decode fields 12,
    ← field Json.asString fields 13, ← field Json.asString fields 14⟩

/-- `serde_json::from_value`. -/
def ValidationRequest.decode (value : Json) : Option ValidationRequest := do
  let fields ← value.fields ["schema_version", "contract", "expected_binding", "receipt"]
  some ⟨← field Json.asU32 fields 0, ← field Json.asString fields 1,
    ← field ExpectedBinding.decode fields 2, ← field FilledReceipt.decode fields 3⟩

end Decoding

section Scanning

inductive InputScanError where
  | disclosure
  | limit
  deriving DecidableEq

def isAsciiAlphanumeric (letter : Char) : Bool := letter.isAlpha || letter.isDigit

def keyDisclosesForbiddenData (key : String) : Bool :=
  let normalized := (key.toList.filter isAsciiAlphanumeric).map Char.toLower
  ["password", "credential", "secret", "command", "argv", "guestoutput", "hostpath",
    "canonicalpath"].any fun forbidden => containsText normalized forbidden.toList

/-- The controls of bidirectional text. -/
def isBidiControl (letter : Char) : Bool :=
  let code := letter.toNat
  code == 0x61C || code == 0x200E || code == 0x200F || (0x202A ≤ code && code ≤ 0x202E) ||
    (0x2066 ≤ code && code ≤ 0x206F)

def stringDisclosesHostData (value : String) : Bool :=
  (value.toList.any fun letter => Text.isControl letter || isBidiControl letter) ||
    "/".toList.isPrefixOf value.toList || "\\\\".toList.isPrefixOf value.toList ||
    "file:".toList.isPrefixOf value.toList || containsText value.toList "://".toList ||
    (Text.utf8 value)[1]? == some 58

mutual

def scanSanitizedJson (depth : Nat) (value : Json) : Except InputScanError Unit :=
  if maxJsonDepth < depth then .error .limit
  else match value with
    | .null | .bool _ | .number _ | .fraction _ => .ok ()
    | .string value =>
        if maxValueBytes < value.utf8ByteSize then .error .limit
        else if stringDisclosesHostData value then .error .disclosure
        else .ok ()
    | .array items =>
        if maxJsonArrayItems < items.length then .error .limit else scanItems (depth + 1) items
    | .object members =>
        if maxJsonObjectFields < members.length then .error .limit
        else scanMembers (depth + 1) members

def scanItems (depth : Nat) : List Json → Except InputScanError Unit
  | [] => .ok ()
  | item :: items => do
      scanSanitizedJson depth item
      scanItems depth items

def scanMembers (depth : Nat) : List (String × Json) → Except InputScanError Unit
  | [] => .ok ()
  | (key, value) :: members =>
      if keyDisclosesForbiddenData key then .error .disclosure
      else do
        scanSanitizedJson depth value
        scanMembers depth members

end

def isObjectWith (key : String) : Option Json → Bool
  | some (.object members) => (members.lookup key).isSome
  | _ => false

/-- A decoder takes a missing field that may be null for null; both have to be there. -/
def hasRequiredNullableFields (value : Json) : Bool :=
  match value.get "receipt" with
  | some (.object receipt) =>
      isObjectWith "backing_parent" (receipt.lookup "immutable_base") &&
        isObjectWith "cell_id" (receipt.lookup "run")
  | _ => false

end Scanning

section Checks

def isLowerHex (value : String) (length : Nat) : Bool :=
  value.utf8ByteSize = length &&
    value.toList.all fun letter => letter.isDigit || ('a' ≤ letter && letter ≤ 'f')

/-- A text without its punctuation and case. -/
def collapsed (value : String) : List Char :=
  (value.toList.map Char.toLower).filter isAsciiAlphanumeric

def isOpaqueId (value : String) : Bool :=
  if value.utf8ByteSize < 12 || 128 < value.utf8ByteSize then false
  else if reservedNonEvidenceIds.any (fun word => word.toList == collapsed value) ||
      "required".toList.isPrefixOf (collapsed value) then false
  else if ["required_", "password", "credential", "secret", "command", "guestoutput"].any
      fun forbidden => containsText (value.toList.map Char.toLower) forbidden.toList then false
  else value.toList.all fun letter =>
    isAsciiAlphanumeric letter || letter == '-' || letter == '_' || letter == '.'

def isOpaqueOrNotApplicable (value : String) : Bool := value = notApplicable || isOpaqueId value

def isNonNilUuid (value : String) : Bool := (Uuid.parseStr value).any fun id => !id.isNil

def isRegisteredV03QemuTuple (tuple : Tuple) : Bool :=
  tuple.hostArchitecture = "x86_64" && tuple.provider = "qemu" && tuple.guestOs = "linux" &&
    tuple.guestArchitecture = "x86_64" && tuple.guestTransport = "qga" &&
    (tuple.hostOs = "windows" && tuple.accelerator = "whpx" ||
      tuple.hostOs = "linux" && tuple.accelerator = "kvm")

def validateBinding (binding : ExpectedBinding) (verdict : Verdict) : Verdict :=
  let verdict := verdict.rejectIf
    (binding.releaseRef ≠ v03ReleaseRef || binding.candidateSha ≠ v03CandidateSha ||
      binding.candidateVersion ≠ v03CandidateVersion || !isRegisteredV03QemuTuple binding.tuple)
    "receipt.candidate_binding_mismatch"
  verdict.rejectIf
    (!isLowerHex binding.candidateBinarySha256 64 || !isLowerHex binding.preflightReceiptSha256 64 ||
      binding.immutableBase.format ≠ "qcow2" || binding.immutableBase.sizeBytes = 0 ||
      !isLowerHex binding.immutableBase.sha256 64)
    "receipt.invalid_binding"

def requiredIds (receipt : FilledReceipt) : List String :=
  [receipt.preflight.evidenceId, receipt.run.isolationEvidenceId, receipt.run.exactOwnedNamespace]

/-- The identifiers of what only a run brings about. -/
def effectIds (receipt : FilledReceipt) : List String :=
  [receipt.overlay.identityEvidenceId, receipt.run.providerObjectEvidenceId,
    receipt.run.runtimeReceiptEvidenceId, receipt.run.lifecycleEvidenceId,
    receipt.run.guestEvidenceId, receipt.cleanup.evidenceId]

def validateReceiptIds (receipt : FilledReceipt) (verdict : Verdict) : Verdict :=
  let verdict := verdict.rejectIf
    ((requiredIds receipt).any (fun value => !isOpaqueId value) ||
      receipt.run.cellId.any fun value => !isNonNilUuid value)
    "receipt.required_evidence_missing"
  verdict.rejectIf
    ((receipt.run.authorizationEvidenceId :: effectIds receipt).any
      fun value => !isOpaqueOrNotApplicable value)
    "receipt.required_evidence_missing"

def validateCrossFields (request : ValidationRequest) (verdict : Verdict) : Verdict :=
  let expected := request.expectedBinding
  let receipt := request.receipt
  let verdict := verdict.rejectIf
    (receipt.repository.slug ≠ "JerrySkywalker/vm-cell-manager" ||
      receipt.repository.releaseRef ≠ expected.releaseRef ||
      receipt.repository.candidateSha ≠ expected.candidateSha)
    "receipt.candidate_binding_mismatch"
  let verdict := verdict.rejectIf (!receipt.repository.checkoutClean) "receipt.checkout_not_clean"
  let verdict := verdict.rejectIf
    (receipt.candidateBinary.version ≠ expected.candidateVersion ||
      receipt.candidateBinary.sha256 ≠ expected.candidateBinarySha256 ||
      !isLowerHex receipt.candidateBinary.sha256 64)
    "receipt.binary_binding_mismatch"
  let verdict := verdict.rejectIf (receipt.tuple ≠ expected.tuple) "receipt.tuple_binding_mismatch"
  let verdict := verdict.rejectIf
    (receipt.preflight.receiptSha256 ≠ expected.preflightReceiptSha256 ||
      !isLowerHex receipt.preflight.receiptSha256 64)
    "receipt.preflight_binding_mismatch"
  let base := receipt.immutableBase
  let verdict := verdict.rejectIf
    (base.format ≠ "qcow2" || base.sizeBytes ≠ expected.immutableBase.sizeBytes ||
      base.sha256Before ≠ expected.immutableBase.sha256 ||
      base.sha256After ≠ expected.immutableBase.sha256 || base.backingParent.isSome ||
      receipt.overlay.baseSha256 ≠ expected.immutableBase.sha256 ||
      receipt.cleanup.immutableBaseSha256After ≠ expected.immutableBase.sha256 ||
      !isLowerHex base.sha256Before 64 || !isLowerHex base.sha256After 64 ||
      !isLowerHex receipt.overlay.baseSha256 64 ||
      !isLowerHex receipt.cleanup.immutableBaseSha256After 64)
    "receipt.base_binding_mismatch"
  verdict.rejectIf
    (receipt.cleanup.policy ≠ "exact-owned-only" || !receipt.cleanup.foreignStateUnchanged ||
      receipt.run.unknownGuestEffectReplayed)
    "receipt.state_contradiction"

def validateRequest (request : ValidationRequest) : Verdict :=
  let receipt := request.receipt
  let verdict : Verdict := ⟨true, []⟩
  let verdict := verdict.rejectIf (request.schemaVersion ≠ schemaVersion)
    "receipt.unsupported_schema"
  let verdict := verdict.rejectIf
    (request.contract ≠ requestContract || receipt.schemaVersion ≠ schemaVersion ||
      receipt.contract ≠ receiptContract)
    "receipt.unsupported_contract"
  let verdict := verdict.rejectIf receipt.authorizing "receipt.authorizing_claim"
  let verdict := verdict.rejectIf (receipt.supportPromotion ≠ "not_evaluated")
    "receipt.support_promotion_claim"
  let verdict := verdict.rejectIf (receipt.supportStatus ≠ "untested")
    "receipt.support_status_mismatch"
  validateCrossFields request
    (validateReceiptIds receipt (validateBinding request.expectedBinding verdict))

def passTerminalState (receipt : FilledReceipt) : Bool :=
  receipt.realPlatformAcceptance = .completed && receipt.run.mode = .authorizedRealRun &&
    isOpaqueId receipt.run.authorizationEvidenceId && receipt.run.cellId.isSome &&
    (effectIds receipt).all isOpaqueId && receipt.overlay.cleanupCompleted &&
    !receipt.cleanup.manualReviewRetained

def preflightTerminalState (receipt : FilledReceipt) : Bool :=
  receipt.realPlatformAcceptance = .pending && receipt.run.mode = .observeOnlyPreflight &&
    receipt.run.authorizationEvidenceId = notApplicable && receipt.run.cellId.isNone &&
    (effectIds receipt).all (fun value => value = notApplicable) &&
    !receipt.overlay.cleanupCompleted && !receipt.cleanup.manualReviewRetained

def stateContradiction : String := "receipt.state_contradiction"

/-- What a receipt without a reason against it claims to be, with the findings. -/
def disposition (receipt : FilledReceipt) (findings : List String) : Disposition × List String :=
  match receipt.result with
  | .pass =>
      if passTerminalState receipt then (.pass, findings)
      else (.rejected, pushFinding findings stateContradiction)
  | .preflightPass =>
      if preflightTerminalState receipt then
        (.preflightOnly, pushFinding findings "receipt.preflight_only")
      else (.rejected, pushFinding findings stateContradiction)
  | .partialResult | .blockedExternal | .ownerDecisionRequired =>
      if receipt.realPlatformAcceptance ≠ .pending then
        (.rejected, pushFinding findings stateContradiction)
      else (.terminalNotPass, pushFinding findings "receipt.terminal_not_pass")

end Checks

section Validation

/-- The libraries that hash and that read JSON. -/
structure Libraries where
  /-- `hex_sha256`. -/
  sha256 : Bytes → String
  readJson : Bytes → RawDocument

def reportOf (documentSha256 : String) (request : ValidationRequest) : Report :=
  let verdict := validateRequest request
  if !verdict.valid then report documentSha256 false .rejected verdict.findings
  else
    let (disposition, findings) := disposition request.receipt verdict.findings
    report documentSha256 (disposition ≠ .rejected) disposition findings

def validateAcceptanceReceiptBytes (libraries : Libraries) (bytes : Bytes) : Report :=
  let documentSha256 := libraries.sha256 bytes
  if maxAcceptanceReceiptBytes < bytes.length then rejected documentSha256 "receipt.input_too_large"
  else if (fromUtf8 bytes).isNone then rejected documentSha256 "receipt.invalid_utf8"
  else match rejectDuplicateJsonKeys (libraries.readJson bytes) with
    | .error true => rejected documentSha256 "receipt.duplicate_key"
    | .error false => rejected documentSha256 "receipt.invalid_json"
    | .ok () =>
        match (libraries.readJson bytes).value with
        | none => rejected documentSha256 "receipt.invalid_json"
        | some value =>
            match scanSanitizedJson 0 value with
            | .error .disclosure => rejected documentSha256 "receipt.forbidden_disclosure"
            | .error .limit => rejected documentSha256 "receipt.input_limit_exceeded"
            | .ok () =>
                if !hasRequiredNullableFields value then
                  rejected documentSha256 "receipt.invalid_document"
                else match ValidationRequest.decode value with
                  | none => rejected documentSha256 "receipt.invalid_document"
                  | some request => reportOf documentSha256 request

end Validation

end Receipts
end VmCell
