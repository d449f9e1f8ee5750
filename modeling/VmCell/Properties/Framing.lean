import Mathlib.Data.Nat.Digits.Defs
import VmCell.Guest.PowerShellDirect
import VmCell.Properties.Authority

/-! The script on the host reads what the transport writes to it.

The limits of the script are in bytes and those of the transport in units of UTF-16,
with the escapes of JSON between them. No character takes more than six bytes for
each of its units.
-/

set_option autoImplicit false
namespace VmCell

open Text Interaction

section Sizes
variable {text : String} {parts : List (List Char)}

theorem size_escape (character : Char) : size (Json.escape character) ≤ 6 * utf16Units character := by
  have one : 1 ≤ utf16Units character := by
    unfold utf16Units
    split <;> omega
  have digit : ∀ index, (lowerHex.getD index '0').utf8Size = 1 := by
    have all : (lowerHex.all fun letter => letter.utf8Size == 1) = true := by decide
    intro index
    rw [List.getD_eq_getElem?_getD]
    cases found : lowerHex[index]? with
    | none => rfl
    | some letter => exact beq_iff_eq.mp (List.all_eq_true.mp all _ (List.mem_of_getElem? found))
  have short : ∀ letter : Char, letter.utf8Size = 1 → size ['\\', letter] = 2 := by
    intro letter ascii
    simp only [size_cons, size_nil, ascii]
    rfl
  unfold Json.escape
  split
  · rw [short _ rfl]
    omega
  · split
    · rw [short _ rfl]
      omega
    · split
      · rw [short _ rfl]
        omega
      · split
        · rw [short _ rfl]
          omega
        · split
          · rw [short _ rfl]
            omega
          · split
            · rw [short _ rfl]
              omega
            · split
              · rw [short _ rfl]
                omega
              · split
                · simp only [size_cons, size_nil, digit]
                  have ascii : ('\\' : Char).utf8Size = 1 ∧ ('u' : Char).utf8Size = 1 ∧
                      ('0' : Char).utf8Size = 1 := by decide
                  omega
                · have plain : character.utf8Size ≤ 3 * utf16Units character := utf8Size_le_units
                  simp only [size_cons, size_nil]
                  omega

/-- The worst case of a string is six bytes for each unit. -/
theorem size_quoted : size (Json.quoted text) ≤ 6 * utf16Length text + 2 := by
  have escaped : ∀ letters : List Char,
      size (letters.flatMap Json.escape) ≤ 6 * (letters.map utf16Units).sum := by
    intro letters
    induction letters with
    | nil => simp
    | cons letter letters ih =>
        have first := size_escape letter
        simp only [List.flatMap_cons, size_append, List.map_cons, List.sum_cons]
        omega
  have quote : ('"' : Char).utf8Size = 1 := by decide
  have inner := escaped text.toList
  simp only [Json.quoted, size_append, size_cons, size_nil, quote, utf16Length]
  omega

theorem size_enclosed {opening closing : Char} (first : opening.utf8Size = 1)
    (last : closing.utf8Size = 1) :
    size (Json.enclosed opening closing parts) ≤ (parts.map fun part => size part + 1).sum + 2 := by
  have joined : ∀ parts : List (List Char),
      size (List.intercalate [','] parts) ≤ (parts.map fun part => size part + 1).sum := by
    intro parts
    induction parts with
    | nil => simp
    | cons part parts ih =>
        cases parts with
        | nil => simp
        | cons next others =>
            have comma : (',' : Char).utf8Size = 1 := by decide
            rw [List.intercalate_cons_cons]
            simp only [size_append, size_cons, size_nil, comma, List.map_cons, List.sum_cons] at ih ⊢
            omega
  have inner := joined parts
  simp only [Json.enclosed, size_append, size_cons, size_nil, first, last]
  omega

/-- The bytes of a value. -/
def Json.bytes (value : Json) : Nat := size value.compact

theorem bytes_string : (Json.string text).bytes ≤ 6 * utf16Length text + 2 := by
  unfold Json.bytes Json.compact
  exact size_quoted

theorem bytes_natural {number : Nat} (small : number < 2 ^ 64) : (Json.number number).bytes ≤ 80 := by
  have digits : (Nat.repr number).length ≤ 20 :=
    Nat.repr_length number 20 (by decide) (small.trans (by decide))
  have letters := @size_le_length (Nat.repr number).toList
  rw [String.length_toList] at letters
  unfold Json.bytes Json.compact
  change size (Nat.repr number).toList ≤ 80
  omega

theorem bytes_array {items : List Json} :
    (Json.array items).bytes ≤ (items.map fun item => item.bytes + 1).sum + 2 := by
  have each : ∀ items, Json.compactItems items = items.map Json.compact := by
    intro items
    induction items with
    | nil => rw [Json.compactItems, List.map_nil]
    | cons item items ih => rw [Json.compactItems, ih, List.map_cons]
  unfold Json.bytes
  rw [Json.compact, each]
  refine (size_enclosed (by decide) (by decide)).trans_eq ?_
  rw [List.map_map]
  rfl

theorem bytes_object {members : List (String × Json)} : (Json.object members).bytes ≤
    (members.map fun member => 6 * utf16Length member.1 + member.2.bytes + 4).sum + 2 := by
  unfold Json.bytes
  rw [Json.compact]
  refine (size_enclosed (by decide) (by decide)).trans (Nat.add_le_add_right ?_ 2)
  induction members with
  | nil => simp [Json.compactMembers]
  | cons member members ih =>
      obtain ⟨key, value⟩ := member
      have quoted := @size_quoted key
      have colon : (':' : Char).utf8Size = 1 := by decide
      rw [Json.compactMembers]
      simp only [List.map_cons, List.sum_cons, size_append, size_cons, colon]
      omega

end Sizes

section Actions
variable {spelling : PathBuf → String} {site : Site} {provider : String}
  {authority : GuestActionAuthority} {operationId : GuestOperationId} {call : TransportAction}
  {action : PowerShellDirectAction} {payload : Option Bytes}

def windowsPathLimit : Nat := 32767

/-- A path that the platform has room for. -/
def Spelled (path : String) : Prop := utf16Length path ≤ windowsPathLimit

/-- An authority of the engine, which has checked the record, on paths of the platform. -/
structure Addressed (spelling : PathBuf → String) (site : Site) (provider : String)
    (authority : GuestActionAuthority) : Prop where
  owned : LocallyOwned site provider authority.record authority.installation.installId
  configuration : Spelled (spelling authority.expected.configurationPath)
  disks : ∀ disk ∈ authority.expected.attachedDisks, Spelled (spelling disk)
  cpuCount : authority.expected.cpuCount < 2 ^ 16
  memoryMib : authority.expected.memoryMib < 2 ^ 64

/-- A request with paths of the platform and numbers of the machine. -/
def TransportAction.Sized : TransportAction → Prop
  | .probeReady _ | .exec _ => True
  | .copyIn destination content .. => Spelled destination.text ∧ content.length ≤ maxCopyBytes
  | .copyOut source maxBytes _ => Spelled source.text ∧ maxBytes < 2 ^ 64

/-- What the engine and the authority fix of a snapshot. -/
structure Fitted (spelling : PathBuf → String) (vm : ProviderVm) : Prop where
  id : vm.id.length = 36
  name : vm.name.length = 43
  marker : vm.ownershipMarker.length = 120
  running : vm.powerState = .running
  configuration : Spelled (spelling vm.configurationPath)
  disk : ∃ disk, vm.attachedDisks = [disk] ∧ Spelled (spelling disk)
  adapters : vm.networkAdapterCount = 0
  cpuCount : vm.cpuCount < 2 ^ 16
  memoryMib : vm.memoryMib < 2 ^ 64

theorem length_toText (id : Uuid) : id.toText.length = 36 := by
  rw [Uuid.toText, ← String.length_toList, String.toList_ofList, Uuid.length_chars]

theorem length_cellText (id : CellId) : id.toText.length = 36 := length_toText _

theorem length_operationText (id : GuestOperationId) : id.toText.length = 36 := length_toText _

theorem length_providerObjectName (id : CellId) : (providerObjectName id).length = 43 := by
  rw [providerObjectName, String.length_append, length_cellText]
  rfl

theorem length_providerMarker (installId : Uuid) (id : CellId) (operation : Uuid) :
    (providerMarker installId id operation).length = 120 := by
  simp only [providerMarker, String.length_append, length_toText, length_cellText]
  rfl

theorem length_providerObject {record : CellRecord} {identity : ProviderObjectIdentity}
    (valid : validateProviderObject record = .ok ())
    (recorded : record.providerObject = some identity) : identity.id.length = 36 := by
  rw [validateProviderObject, recorded] at valid
  simp only at valid
  split at valid
  · cases valid
  · rename_i providerId parsed
    split at valid
    · cases valid
    · rename_i canonical
      rw [← not_not.mp canonical, length_toText]

theorem fitted (addressed : Addressed spelling site provider authority)
    (valid : authority.validate = .ok ()) : Fitted spelling authority.expected := by
  have owned := addressed.owned
  unfold GuestActionAuthority.validate GuestActionAuthority.new at valid
  cases recorded : authority.record.providerObject with
  | none =>
      rw [recorded] at valid
      cases valid
  | some identity =>
      rw [recorded] at valid
      simp only at valid
      split at valid
      · rename_i granted
        split at granted
        · rename_i matches_
          obtain ⟨_, _, _, id, name, marker, _, disks, adapters, _, _, running⟩ := matches_
          refine ⟨?_, ?_, ?_, running, addressed.configuration, ?_, adapters, addressed.cpuCount,
            addressed.memoryMib⟩
          · rw [id]
            exact length_providerObject owned.object recorded
          · rw [name, owned.name, length_providerObjectName]
          · rw [marker, owned.marker, length_providerMarker]
          · unfold guestDiskMatches at disks
            split at disks
            · rename_i disk single
              exact ⟨disk, single, addressed.disks disk (by rw [single]; exact List.mem_singleton_self _)⟩
            · cases disks
        · cases granted
      · cases valid

/-- A text of fixed length. -/
theorem bytes_fixed {text : String} {length : Nat} (fixed : text.length = length) :
    (Json.string text).bytes ≤ 12 * length + 2 := by
  have units := @utf16Length_le text
  have bytes := @bytes_string text
  omega

theorem bytes_spelled {text : String} (spelled : Spelled text) :
    (Json.string text).bytes ≤ 196604 := by
  have bytes := @bytes_string text
  unfold Spelled windowsPathLimit at spelled
  omega

theorem bytes_expected {vm : ProviderVm} (fitted : Fitted spelling vm) :
    (vm.toJson spelling).bytes ≤ 400000 := by
  obtain ⟨disk, single, spelled⟩ := fitted.disk
  have disks := @bytes_array (vm.attachedDisks.map fun disk => .string (spelling disk))
  have path := bytes_spelled spelled
  have id := bytes_fixed fitted.id
  have name := bytes_fixed fitted.name
  have marker := bytes_fixed fitted.marker
  have state : (Json.string vm.powerState.text).bytes ≤ 86 := by
    rw [fitted.running]
    exact bytes_fixed rfl
  have configuration := bytes_spelled fitted.configuration
  have adapters : (Json.number vm.networkAdapterCount).bytes ≤ 80 :=
    bytes_natural (by rw [fitted.adapters]; decide)
  have cpus : (Json.number vm.cpuCount).bytes ≤ 80 :=
    bytes_natural (fitted.cpuCount.trans (by decide))
  have memory : (Json.number vm.memoryMib).bytes ≤ 80 := bytes_natural fitted.memoryMib
  have keys : utf16Length "id" + utf16Length "name" + utf16Length "power_state" +
      utf16Length "ownership_marker" + utf16Length "configuration_path" +
      utf16Length "attached_disks" + utf16Length "network_adapter_count" +
      utf16Length "cpu_count" + utf16Length "memory_mib" = 105 := by decide
  unfold ProviderVm.toJson
  refine bytes_object.trans ?_
  simp only [single, List.map_cons, List.map_nil, List.sum_cons, List.sum_nil] at disks ⊢
  omega

theorem bytes_units {text : String} {units : Nat} (small : utf16Length text ≤ units) :
    (Json.string text).bytes ≤ 6 * units + 2 := by
  have bytes := @bytes_string text
  omega

theorem validate_bounds {command : GuestCommand} (valid : command.validate = .ok ()) :
    command.timeout ≤ maxActionTimeoutSeconds * nanosPerSecond ∧
      command.maxOutputBytes ≤ maxOutputBytes := by
  unfold GuestCommand.validate at valid
  split at valid
  · cases valid
  · split at valid
    · cases valid
    · rename_i timely
      split at valid
      · cases valid
      · rename_i sized
        rw [not_or] at timely sized
        exact ⟨Nat.not_lt.mp timely.2, Nat.not_lt.mp sized.2⟩

/-- An action is within the limit of the script, and so is its payload. -/
theorem bytes_action (addressed : Addressed spelling site provider authority) (sized : call.Sized)
    (built : powerShellDirectAction authority operationId call = .ok (action, payload)) :
    (action.toJson spelling).bytes ≤ actionFrameLimit ∧
      (payload.getD []).length ≤ payloadFrameLimit := by
  have cell := bytes_fixed (length_cellText authority.record.id)
  have operation := bytes_fixed (length_operationText operationId)
  have keys : utf16Length "action" + utf16Length "cell_id" + utf16Length "operation_id" +
      utf16Length "expected" + utf16Length "program" + utf16Length "command_line" +
      utf16Length "timeout_ms" + utf16Length "max_output_bytes" + utf16Length "destination" +
      utf16Length "overwrite" + utf16Length "source" + utf16Length "max_bytes" = 113 := by decide
  cases call with
  | probeReady timeout =>
      obtain ⟨valid, same⟩ := bind_unit_ok.mp built
      obtain ⟨rfl, rfl⟩ := Prod.mk.inj (Except.ok.inj same)
      have vm := bytes_expected (fitted addressed valid)
      have tag : (Json.string "probe_ready").bytes ≤ 12 * 11 + 2 := bytes_fixed rfl
      refine ⟨?_, Nat.zero_le _⟩
      unfold PowerShellDirectAction.toJson
      refine bytes_object.trans ?_
      simp only [List.map_cons, List.map_nil, List.sum_cons, List.sum_nil, actionFrameLimit]
      omega
  | exec command =>
      obtain ⟨valid, rest⟩ := bind_unit_ok.mp built
      obtain ⟨checked, rest⟩ := bind_unit_ok.mp rest
      simp only at rest
      split at rest
      · cases rest
      · rename_i short
        rw [not_or, not_lt, not_lt] at short
        obtain ⟨timeoutMs, millis, same⟩ := bind_ok.mp rest
        obtain ⟨rfl, rfl⟩ := Prod.mk.inj (Except.ok.inj same)
        have vm := bytes_expected (fitted addressed valid)
        have tag : (Json.string "exec").bytes ≤ 12 * 4 + 2 := bytes_fixed rfl
        have program := bytes_units short.1
        have arguments := bytes_units short.2
        have bounds := validate_bounds checked
        have output : (Json.number command.maxOutputBytes).bytes ≤ 80 :=
          bytes_natural (bounds.2.trans_lt (by decide))
        have timeout : (Json.number timeoutMs).bytes ≤ 80 := by
          unfold durationMillis at millis
          split at millis
          · rename_i small
            obtain rfl := Except.ok.inj millis
            exact bytes_natural small
          · cases millis
        refine ⟨?_, Nat.zero_le _⟩
        unfold PowerShellDirectAction.toJson
        refine bytes_object.trans ?_
        simp only [List.map_cons, List.map_nil, List.sum_cons, List.sum_nil, actionFrameLimit,
          windowsCommandLineLimit] at program arguments ⊢
        omega
  | copyIn destination content overwrite timeout =>
      obtain ⟨valid, same⟩ := bind_unit_ok.mp built
      obtain ⟨rfl, rfl⟩ := Prod.mk.inj (Except.ok.inj same)
      have vm := bytes_expected (fitted addressed valid)
      have tag : (Json.string "copy_in").bytes ≤ 12 * 7 + 2 := bytes_fixed rfl
      have path := bytes_spelled sized.1
      have policy : (Json.string overwrite.text).bytes ≤ 86 := by
        cases overwrite with
        | deny =>
            have short : (Json.string "deny").bytes ≤ 12 * 4 + 2 := bytes_fixed rfl
            exact short.trans (by decide)
        | replace => exact bytes_fixed rfl
      refine ⟨?_, sized.2⟩
      unfold PowerShellDirectAction.toJson
      refine bytes_object.trans ?_
      simp only [List.map_cons, List.map_nil, List.sum_cons, List.sum_nil, actionFrameLimit]
      omega
  | copyOut source maxBytes timeout =>
      obtain ⟨valid, same⟩ := bind_unit_ok.mp built
      obtain ⟨rfl, rfl⟩ := Prod.mk.inj (Except.ok.inj same)
      have vm := bytes_expected (fitted addressed valid)
      have tag : (Json.string "copy_out").bytes ≤ 12 * 8 + 2 := bytes_fixed rfl
      have path := bytes_spelled sized.1
      have limit := bytes_natural sized.2
      refine ⟨?_, Nat.zero_le _⟩
      unfold PowerShellDirectAction.toJson
      refine bytes_object.trans ?_
      simp only [List.map_cons, List.map_nil, List.sum_cons, List.sum_nil, actionFrameLimit]
      omega

end Actions

section Reading
variable {name : String} {limit : Nat} {bytes framed rest cut missing : Bytes}

theorem readScriptFrame_frame (framing : Frames.frame bytes = some framed)
    (within : bytes.length ≤ limit) :
    readScriptFrame name limit (framed ++ rest) = .ok (bytes, rest) := by
  rw [readScriptFrame, Frames.read_frame framing within]
  rfl

theorem readScriptFrame_cut (framing : Frames.frame bytes = some framed)
    (within : bytes.length ≤ limit) (split : cut ++ missing = framed) (lacking : missing ≠ []) :
    ∃ error, readScriptFrame name limit cut = .error error ∧ error.IsTruncation := by
  obtain ⟨refusal, refused, ends⟩ := Frames.read_cut framing within split lacking
  rw [readScriptFrame, refused]
  cases refusal with
  | endOfStream => exact ⟨_, rfl, Or.inl rfl⟩
  | oversized => exact ends.elim
  | truncated => exact ⟨_, rfl, Or.inr rfl⟩

theorem getString_utf8 (text : String) : getString (utf8 text) = .ok text := by
  have valid : String.fromUTF8? ⟨(utf8 text).toArray⟩ = some text := by
    unfold utf8 String.fromUTF8?
    simp only [Array.toArray_toList]
    exact dif_pos text.isValidUTF8
  rw [getString, fromUtf8, valid]

/-- The frames of one input. -/
structure Parcel (action : String) (credentials : GuestCredentials) (payload : Bytes) where
  first : Bytes
  second : Bytes
  third : Bytes
  fourth : Bytes
  action_framed : Frames.frame (utf8 action) = some first
  username_framed : Frames.frame (utf8 credentials.username) = some second
  password_framed : Frames.frame (utf8 credentials.password) = some third
  payload_framed : Frames.frame payload = some fourth
  action_short : (utf8 action).length ≤ actionFrameLimit
  username_short : (utf8 credentials.username).length ≤ usernameFrameLimit
  password_short : (utf8 credentials.password).length ≤ passwordFrameLimit
  payload_short : payload.length ≤ payloadFrameLimit

variable {V : Type} {convertFromJson : String → Option V} {value : V} {action : String}
  {credentials : GuestCredentials} {payload : Bytes}

def Parcel.input (parcel : Parcel action credentials payload) : Bytes :=
  parcel.first ++ (parcel.second ++ (parcel.third ++ parcel.fourth))

theorem Parcel.read (parcel : Parcel action credentials payload)
    (converts : convertFromJson action = some value) :
    readScriptInput convertFromJson parcel.input =
      .ok ⟨value, credentials.username, utf8 credentials.password, payload⟩ := by
  have last : readScriptFrame "payload" payloadFrameLimit parcel.fourth = .ok (payload, []) := by
    have whole := @readScriptFrame_frame "payload" _ _ _ [] parcel.payload_framed
      parcel.payload_short
    rwa [List.append_nil] at whole
  unfold readScriptInput Parcel.input
  simp only [readScriptFrame_frame parcel.action_framed parcel.action_short, getString_utf8,
    converts, readScriptFrame_frame parcel.username_framed parcel.username_short,
    readScriptFrame_frame parcel.password_framed parcel.password_short, last, Except.bind, bind]

/-- An input that lacks some of its last bytes ends within a frame or right before one. -/
theorem Parcel.refuses (parcel : Parcel action credentials payload)
    (converts : convertFromJson action = some value) (split : cut ++ missing = parcel.input)
    (lacking : missing ≠ []) :
    ∃ error, readScriptInput convertFromJson cut = .error error ∧ error.IsTruncation := by
  unfold readScriptInput
  rcases Frames.cut_cases split with ⟨more, within, some⟩ | ⟨afterFirst, rfl, second⟩
  · obtain ⟨error, fails, ends⟩ := @readScriptFrame_cut "action" _ _ _ _ _ parcel.action_framed
      parcel.action_short within some
    exact ⟨error, by simp only [fails, Except.bind, bind], ends⟩
  · simp only [readScriptFrame_frame parcel.action_framed parcel.action_short, getString_utf8,
      converts, Except.bind, bind]
    rcases Frames.cut_cases second with ⟨more, within, some⟩ | ⟨afterSecond, rfl, third⟩
    · obtain ⟨error, fails, ends⟩ := @readScriptFrame_cut "username" _ _ _ _ _
        parcel.username_framed parcel.username_short within some
      exact ⟨error, by simp only [fails], ends⟩
    · simp only [readScriptFrame_frame parcel.username_framed parcel.username_short,
        getString_utf8]
      rcases Frames.cut_cases third with ⟨more, within, some⟩ | ⟨afterThird, rfl, fourth⟩
      · obtain ⟨error, fails, ends⟩ := @readScriptFrame_cut "password" _ _ _ _ _
          parcel.password_framed parcel.password_short within some
        exact ⟨error, by simp only [fails], ends⟩
      · obtain ⟨error, fails, ends⟩ := @readScriptFrame_cut "payload" _ _ _ _ _
          parcel.payload_framed parcel.payload_short fourth lacking
        refine ⟨error, ?_, ends⟩
        simp only [readScriptFrame_frame parcel.password_framed parcel.password_short, fails]

theorem new_bounds {username password : String}
    (accepted : GuestCredentials.new username password = .ok credentials) :
    credentials = ⟨username, password⟩ ∧ username.utf8ByteSize ≤ usernameFrameLimit ∧
      password.utf8ByteSize ≤ passwordFrameLimit := by
  unfold GuestCredentials.new at accepted
  split at accepted
  · cases accepted
  · rename_i user
    split at accepted
    · cases accepted
    · rename_i pass
      simp only [Bool.or_eq_true, decide_eq_true_eq, not_or, not_lt, gt_iff_lt] at user pass
      exact ⟨(Except.ok.inj accepted).symm, user.1.1.2, pass.1.2⟩

end Reading

section Transport
variable {codec : JsonCodec} {spelling : PathBuf → String} {credentials : GuestCredentials}
  {action : PowerShellDirectAction} {payload : Option Bytes}

/-- The library writes compact JSON. -/
def JsonCodec.Compact (codec : JsonCodec) : Prop :=
  ∀ value : Json, codec.toVec value = utf8 (String.ofList value.compact)

theorem appendFrame_some {target bytes framed : Bytes} (framing : Frames.frame bytes = some framed) :
    appendFrame target bytes = .ok (target ++ framed) := by
  rw [appendFrame, framing]

theorem Parcel.written (compact : codec.Compact)
    (parcel : Parcel (String.ofList (action.toJson spelling).compact) credentials
      (payload.getD [])) :
    powerShellDirectInput codec spelling action credentials payload = .ok parcel.input := by
  have json := compact (action.toJson spelling)
  unfold powerShellDirectInput Parcel.input
  simp only [json, appendFrame_some parcel.action_framed,
    appendFrame_some parcel.username_framed, appendFrame_some parcel.password_framed,
    appendFrame_some parcel.payload_framed, Except.bind, bind, List.nil_append, List.append_assoc]

theorem exists_parcel {username password text : String}
    (accepted : GuestCredentials.new username password = .ok credentials)
    (short : text.utf8ByteSize ≤ actionFrameLimit)
    (small : (payload.getD []).length ≤ payloadFrameLimit) :
    Nonempty (Parcel text credentials (payload.getD [])) := by
  obtain ⟨rfl, user, pass⟩ := new_bounds accepted
  have first : (utf8 text).length ≤ actionFrameLimit := by rwa [length_utf8]
  have second : (utf8 username).length ≤ usernameFrameLimit := by rwa [length_utf8]
  have third : (utf8 password).length ≤ passwordFrameLimit := by rwa [length_utf8]
  exact ⟨⟨_, _, _, _, Frames.frame_some (first.trans_lt (by decide)),
    Frames.frame_some (second.trans_lt (by decide)), Frames.frame_some (third.trans_lt (by decide)),
    Frames.frame_some (small.trans_lt (by decide)), first, second, third, small⟩⟩

end Transport

/-- The script recovers what the transport has written, and refuses every beginning
of it as truncated. -/
theorem script_input_round_trips {codec : JsonCodec} {spelling : PathBuf → String} {site : Site}
    {provider username password : String} {authority : GuestActionAuthority}
    {operationId : GuestOperationId} {call : TransportAction} {action : PowerShellDirectAction}
    {payload : Option Bytes} {credentials : GuestCredentials} {V : Type}
    {convertFromJson : String → Option V} {value : V} (compact : codec.Compact)
    (addressed : Addressed spelling site provider authority) (sized : call.Sized)
    (built : powerShellDirectAction authority operationId call = .ok (action, payload))
    (accepted : GuestCredentials.new username password = .ok credentials)
    (converts : convertFromJson (String.ofList (action.toJson spelling).compact) = some value) :
    ∃ input, powerShellDirectInput codec spelling action credentials payload = .ok input ∧
      readScriptInput convertFromJson input =
        .ok ⟨value, credentials.username, utf8 credentials.password, payload.getD []⟩ ∧
      ∀ cut missing, cut ++ missing = input → missing ≠ [] →
        ∃ error, readScriptInput convertFromJson cut = .error error ∧ error.IsTruncation := by
  obtain ⟨short, small⟩ := bytes_action addressed sized built
  have text : (String.ofList (action.toJson spelling).compact).utf8ByteSize ≤ actionFrameLimit := by
    rw [utf8ByteSize_ofList]
    exact short
  obtain ⟨parcel⟩ := exists_parcel accepted text small
  exact ⟨parcel.input, parcel.written compact, parcel.read converts,
    fun cut missing split lacking => parcel.refuses converts split lacking⟩

namespace Exemplar

def compactJson : JsonCodec where
  toVec value := utf8 (String.ofList value.compact)
  fromSlice _ := none

def windowsVariant : ImageVariant := ⟨"hyperv", "vhdx", ⟨"/", ["images", "base.vhdx"]⟩, digest, 1⟩

/-- The authority over a running cell of the other provider. -/
def windowsAuthority : GuestActionAuthority :=
  let intent := intentRecord site "hyperv" ⟨image, some "hyperv", 1, 1024, some 1, none, false⟩
    cellId none ⟨imageSchemaVersion, image, .windows, .x86_64, [windowsVariant], 5⟩ windowsVariant
    (uuid 2) (uuid 3) 5
  let identity : ProviderObjectIdentity := ⟨(uuid 9).toText, providerObjectName cellId⟩
  let record := { intent with
    providerObject := some identity
    state := .running
    phase := .ready }
  ⟨record, { idealVm record identity ∅ with powerState := .running },
    ⟨installSchemaVersion, uuid 2⟩, ⟨cellId, record.ownership.configurationPath,
    record.ownership.overlayPath⟩⟩

def greetingCommand : GuestCommand := ⟨"cmd.exe", ["/c", "echo \"hi\""], seconds 5, 1024⟩

theorem windowsAuthority_addressed :
    Addressed PathBuf.display site "hyperv" windowsAuthority where
  owned := validateLocalOwnershipRecord_ok.mp (by decide +kernel)
  configuration := by
    unfold Spelled
    decide +kernel
  disks := by
    unfold Spelled
    decide +kernel
  cpuCount := by decide +kernel
  memoryMib := by decide +kernel

end Exemplar

theorem script_input_round_trips_for_greeting :
    ∃ action payload credentials input,
      powerShellDirectAction Exemplar.windowsAuthority ⟨Exemplar.uuid 4⟩
        (.exec Exemplar.greetingCommand) = .ok (action, payload) ∧
      GuestCredentials.new "vmcell" "secret" = .ok credentials ∧
      powerShellDirectInput Exemplar.compactJson PathBuf.display action credentials payload =
        .ok input ∧
      readScriptInput some input = .ok ⟨String.ofList (action.toJson PathBuf.display).compact,
        "vmcell", utf8 "secret", []⟩ := by
  have built : powerShellDirectAction Exemplar.windowsAuthority ⟨Exemplar.uuid 4⟩
      (.exec Exemplar.greetingCommand) = .ok (.exec Exemplar.cellId
        Exemplar.windowsAuthority.expected "cmd.exe" "/c \"echo \\\"hi\\\"\"" 5000 1024, none) := by
    decide +kernel
  have accepted : GuestCredentials.new "vmcell" "secret" = .ok ⟨"vmcell", "secret"⟩ := by
    decide +kernel
  have compact : Exemplar.compactJson.Compact := fun _ => rfl
  have sized : (TransportAction.exec Exemplar.greetingCommand).Sized := trivial
  obtain ⟨input, written, read, _⟩ := script_input_round_trips compact
    Exemplar.windowsAuthority_addressed sized built accepted rfl
  exact ⟨_, _, _, input, built, accepted, written, read⟩

end VmCell
