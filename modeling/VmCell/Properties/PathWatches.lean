import VmCell.Engine.PathWatch

/-! The watch on the pathname of a base sees every event that matters, however the
events are grouped into reads, and no bytes make it read anything else.
-/

set_option autoImplicit false
namespace VmCell
namespace PathWatch

/-- An event of the kernel, with the name and what fills it up. -/
structure Event where
  wd : Int32
  mask : UInt32
  cookie : UInt32
  name : List UInt8

namespace Event

def words (event : Event) : List UInt8 :=
  Frames.toLe event.wd.toUInt32.toNat ++ Frames.toLe event.mask.toNat ++
    Frames.toLe event.cookie.toNat ++ Frames.toLe event.name.length

def bytes (event : Event) : List UInt8 := event.words ++ event.name

def header (event : Event) : Header :=
  ⟨event.wd, event.mask, event.cookie, UInt32.ofNat event.name.length⟩

/-- The name up to the first NUL. -/
def component (event : Event) : List UInt8 := event.name.takeWhile (· != 0)

end Event

section Frames
variable {targets : List PathWatchTarget} {front middle rest bytes : List UInt8} {event : Event}
  {offset start stop : Nat}

theorem slice_middle : slice (front ++ middle ++ rest) front.length
    (front.length + middle.length) = some middle := by
  rw [slice, if_pos (by simp), Nat.add_sub_cancel_left, List.append_assoc, List.drop_left,
    List.take_left]

theorem slice_inside (within : start ≤ stop ∧ stop ≤ bytes.length) :
    ∃ part, slice bytes start stop = some part ∧ part.length = stop - start := by
  refine ⟨_, if_pos within, ?_⟩
  rw [List.length_take, List.length_drop]
  omega

theorem word_toLe {number : Nat} (small : number < 4294967296) :
    word (UInt8.ofNat number) (UInt8.ofNat (number / 256)) (UInt8.ofNat (number / 65536))
      (UInt8.ofNat (number / 16777216)) = UInt32.ofNat number := by
  rw [word, Frames.ofLe_toLe small]

theorem header_words (small : event.name.length < 4294967296) :
    header event.words = some event.header := by
  simp only [Event.words, Frames.toLe, List.cons_append, List.nil_append, header,
    word_toLe event.wd.toUInt32.toNat_lt, word_toLe event.mask.toNat_lt,
    word_toLe event.cookie.toNat_lt, word_toLe small, UInt32.ofNat_toNat]
  rfl

theorem header_of_length {part : List UInt8} (length : part.length = headerSize) :
    ∃ event, header part = some event := by
  match part, length with
  | [_, _, _, _, _, _, _, _, _, _, _, _, _, _, _, _], _ => exact ⟨_, rfl⟩

theorem Event.length_words : event.words.length = headerSize := rfl

theorem Event.length_bytes : event.bytes.length = headerSize + event.name.length := by
  rw [Event.bytes, List.length_append, Event.length_words]

theorem readHeader_event (small : event.name.length < 4294967296) :
    readHeader (front ++ event.bytes ++ rest) front.length = some event.header := by
  have found := @slice_middle front event.words (event.name ++ rest)
  rw [Event.length_words] at found
  rw [readHeader, Event.bytes, List.append_assoc, List.append_assoc, ← List.append_assoc front,
    found]
  exact header_words small

theorem slice_name : slice (front ++ event.bytes ++ rest) (front.length + headerSize)
    (front.length + (headerSize + event.name.length)) = some event.name := by
  have found := @slice_middle (front ++ event.words) event.name rest
  rw [List.length_append, Event.length_words, Nat.add_assoc] at found
  rw [Event.bytes, ← List.append_assoc front, found]

/-- One round of the loop takes one event. -/
theorem decodeEvents_event (small : event.name.length < 4294967296) :
    decodeEvents targets (front ++ event.bytes ++ rest) front.length =
      if changed targets event.header event.component then some (.error pathnameChanged)
      else decodeEvents targets (front ++ event.bytes ++ rest) (front ++ event.bytes).length := by
  have total : (front ++ event.bytes ++ rest).length =
      front.length + (headerSize + event.name.length) + rest.length := by
    rw [List.length_append, List.length_append, Event.length_bytes]
  have len : event.header.len.toNat = event.name.length := UInt32.toNat_ofNat_of_lt' small
  rw [decodeEvents, dif_pos (by rw [total, headerSize]; omega),
    if_neg (by rw [total]; omega), readHeader_event small]
  simp only [len]
  rw [if_neg (by rw [usizeMax, headerSize]; omega), if_neg (by rw [total]; omega), slice_name,
    List.length_append, Event.length_bytes]
  rfl

theorem decodeEvents_group {group : List Event}
    (small : ∀ event ∈ group, event.name.length < 4294967296) :
    decodeEvents targets (front ++ group.flatMap Event.bytes) front.length =
      some (if group.any (fun event => changed targets event.header event.component) = true
        then .error pathnameChanged else .ok ()) := by
  induction group generalizing front with
  | nil =>
      rw [decodeEvents, dif_neg (by simp)]
      rfl
  | cons event group ih =>
      rw [List.flatMap_cons, ← List.append_assoc, decodeEvents_event (small event (by simp)),
        ih fun other member => small other (List.mem_cons_of_mem _ member)]
      cases here : changed targets event.header event.component <;> simp [here]

end Frames

section Reading
variable {targets : List PathWatchTarget} {event : Event} {bytes : List UInt8} {offset : Nat}

/-- What stands for the base under a descriptor: the first watch that was given it. -/
def Watched (targets : List PathWatchTarget) (event : Event) (target : PathWatchTarget) : Prop :=
  targets.find? (·.descriptor == event.wd) = some target

/-- An event after which the pathname may lead elsewhere, or the file be another. -/
inductive Relevant (targets : List PathWatchTarget) (event : Event) : Prop where
  | self (bit : event.mask &&& selfOrOverflow ≠ 0)
  | unknown (none : ∀ target ∈ targets, target.descriptor ≠ event.wd)
  | directory (target : PathWatchTarget) (component : List UInt8)
      (watched : Watched targets event target) (named : target.name = some component)
      (bit : event.mask &&& targetMutation ≠ 0) (same : event.component = component)
  | inode (target : PathWatchTarget) (watched : Watched targets event target)
      (file : target.name = none) (bit : event.mask &&& inodeMutation ≠ 0)

theorem changed_iff :
    changed targets event.header event.component = true ↔ Relevant targets event := by
  have none_iff : targets.find? (·.descriptor == event.wd) = none ↔
      ∀ target ∈ targets, target.descriptor ≠ event.wd := by simp
  unfold changed
  rw [Bool.or_eq_true, bne_iff_ne]
  constructor
  · rintro (bit | matched)
    · exact .self bit
    · split at matched
      · rename_i descriptor expected found
        rw [Bool.and_eq_true, bne_iff_ne, beq_iff_eq] at matched
        exact .directory ⟨descriptor, some expected⟩ expected found rfl matched.1 matched.2
      · rename_i descriptor found
        exact .inode ⟨descriptor, none⟩ found rfl (bne_iff_ne.mp matched)
      · rename_i missing
        exact .unknown (none_iff.mp missing)
  · rintro (bit | missing | ⟨⟨descriptor, _⟩, component, watched, rfl, bit, same⟩ |
      ⟨⟨descriptor, _⟩, watched, rfl, bit⟩)
    · exact Or.inl bit
    · refine Or.inr ?_
      rw [show event.header.wd = event.wd from rfl, none_iff.mpr missing]
    · refine Or.inr ?_
      rw [show event.header.wd = event.wd from rfl, watched]
      exact Bool.and_eq_true_iff.mpr ⟨bne_iff_ne.mpr bit, beq_iff_eq.mpr same⟩
    · refine Or.inr ?_
      rw [show event.header.wd = event.wd from rfl, watched]
      exact bne_iff_ne.mpr bit

/-- Where no descriptor was given twice, any watch under it is the one. -/
theorem watched_iff_mem (distinct : (targets.map (·.descriptor)).Nodup) {target : PathWatchTarget} :
    Watched targets event target ↔ target ∈ targets ∧ target.descriptor = event.wd := by
  unfold Watched
  induction targets with
  | nil => simp
  | cons first others ih =>
      obtain ⟨fresh, distinct⟩ := List.nodup_cons.mp distinct
      rw [List.find?_cons, List.mem_cons]
      by_cases here : first.descriptor = event.wd
      · simp only [here, beq_self_eq_true, Option.some.injEq]
        constructor
        · rintro rfl
          exact ⟨Or.inl rfl, here⟩
        · rintro ⟨rfl | later, same⟩
          · rfl
          · exact absurd (List.mem_map.mpr ⟨target, later, same.trans here.symm⟩) fresh
      · rw [beq_eq_false_iff_ne.mpr here]
        simp only [ih distinct]
        constructor
        · rintro ⟨later, same⟩
          exact ⟨Or.inr later, same⟩
        · rintro ⟨rfl | later, same⟩
          · exact absurd same here
          · exact ⟨later, same⟩

/-- No bytes make the loop read past them. -/
theorem decodeEvents_inside (targets : List PathWatchTarget) (bytes : List UInt8) (offset : Nat) :
    ∃ result, decodeEvents targets bytes offset = some result := by
  fun_induction decodeEvents targets bytes offset with
  | case1 offset inside short => exact ⟨_, rfl⟩
  | case2 offset inside long outside =>
      obtain ⟨part, found, length⟩ := @slice_inside bytes offset (offset + headerSize)
        ⟨by omega, by omega⟩
      obtain ⟨event, read⟩ := header_of_length (length.trans (by omega))
      rw [readHeader, found, Option.bind_some, read] at outside
      cases outside
  | case3 => exact ⟨_, rfl⟩
  | case4 => exact ⟨_, rfl⟩
  | case5 offset inside long event read fits size whole outside =>
      obtain ⟨part, found, -⟩ := @slice_inside bytes (offset + headerSize) (offset + size)
        ⟨by omega, by omega⟩
      rw [found] at outside
      cases outside
  | case6 => exact ⟨_, rfl⟩
  | case7 _ _ _ _ _ _ _ _ _ _ _ ih => exact ih
  | case8 => exact ⟨_, rfl⟩

/-- Reads that hand over the events in groups, before one that would block. Any of
them may be interrupted first. -/
inductive Delivers : List Event → List ReadAnswer → Prop where
  | none : Delivers [] []
  | interrupted {events : List Event} {answers : List ReadAnswer} :
      Delivers events answers → Delivers events (.interrupted :: answers)
  | group {group events : List Event} {answers : List ReadAnswer} (nonempty : group ≠ [])
      (fits : (group.flatMap Event.bytes).length ≤ 4096) :
      Delivers events answers →
        Delivers (group ++ events) (.bytes (group.flatMap Event.bytes) :: answers)

theorem small_of_group {group : List Event}
    (fits : (group.flatMap Event.bytes).length ≤ 4096) (member : event ∈ group) :
    event.name.length < 4294967296 := by
  obtain ⟨front, back, rfl⟩ := List.append_of_mem member
  rw [List.flatMap_append, List.flatMap_cons, List.length_append, List.length_append,
    Event.length_bytes] at fits
  omega

theorem ensureUnchanged_delivered {events : List Event} {answers : List ReadAnswer}
    (delivers : Delivers events answers) : ensureUnchanged targets answers =
      some (if events.any (fun event => changed targets event.header event.component) = true
        then .error pathnameChanged else .ok ()) := by
  induction delivers with
  | none => rfl
  | interrupted _ ih => exact ih
  | @group group events answers nonempty fits _ ih =>
      have full : group.flatMap Event.bytes ≠ [] := by
        obtain ⟨first, others, rfl⟩ := List.exists_cons_of_ne_nil nonempty
        intro empty
        have length := congrArg List.length empty
        rw [List.flatMap_cons, List.length_append, Event.length_bytes, headerSize] at length
        simp at length
      have decoded := @decodeEvents_group targets [] group fun event => small_of_group fits
      rw [List.nil_append, List.length_nil] at decoded
      rw [ensureUnchanged, if_neg full, decoded, List.any_append]
      by_cases here : group.any (fun event => changed targets event.header event.component) = true
      · simp [here]
      · rw [if_neg here]
        simp only [Bool.not_eq_true _ ▸ here, Bool.false_or, ih]

theorem ensureUnchanged_inside (targets : List PathWatchTarget) (answers : List ReadAnswer) :
    ∃ result, ensureUnchanged targets answers = some result := by
  induction answers with
  | nil => exact ⟨_, rfl⟩
  | cons answer answers ih =>
      cases answer with
      | interrupted => exact ih
      | failed => exact ⟨_, rfl⟩
      | bytes bytes =>
          obtain ⟨result, decoded⟩ := decodeEvents_inside targets bytes 0
          rw [ensureUnchanged, decoded]
          split
          · exact ⟨_, rfl⟩
          · cases result with
            | error error => exact ⟨_, rfl⟩
            | ok => exact ih

end Reading

namespace Exemplar

/-- The directory of a base, watched for the name of the base. -/
def watched : PathWatchTarget := ⟨3, some [98, 97, 115, 101]⟩

def neighbourCreated : Event := ⟨3, inCreate, 0, [99, 111, 112, 121, 0, 0, 0, 0]⟩

def baseMoved : Event := ⟨3, inMovedFrom, 7, [98, 97, 115, 101, 0, 0, 0, 0]⟩

/-- Two reads with an interrupted one between them, of which the second has the move of
the base. -/
def answers : List ReadAnswer :=
  [.bytes neighbourCreated.bytes, .interrupted, .bytes (neighbourCreated.bytes ++ baseMoved.bytes)]

theorem delivers_answers : Delivers [neighbourCreated, neighbourCreated, baseMoved] answers :=
  have second := @Delivers.group [neighbourCreated, baseMoved] [] [] (List.cons_ne_nil _ _)
    (by decide) .none
  @Delivers.group [neighbourCreated] _ _ (List.cons_ne_nil _ _) (by decide) (.interrupted second)

theorem relevant_baseMoved : Relevant [watched] baseMoved :=
  .directory watched [98, 97, 115, 101] rfl rfl (by decide) (by decide)

end Exemplar

end PathWatch

end VmCell
