import VmCell.Interaction.Requests
import VmCell.Properties.Output

/-! Files that are written and read through the guest agent.

Both loops work in chunks. The reader stops at the end of the file as the agent
reports it, whatever the agent makes of the size of a chunk.
-/

set_option autoImplicit false
namespace VmCell

open Interaction Fallible
open QemuProvider (asStr)

section Chunks
variable {size rounds : Nat} {content : Bytes}

theorem flatten_chunksFrom (positive : 0 < size) (enough : content.length ≤ rounds) :
    (Qga.chunksFrom size rounds content).flatten = content := by
  induction rounds generalizing content with
  | zero =>
      obtain rfl := List.eq_nil_of_length_eq_zero (Nat.le_zero.mp enough)
      rfl
  | succ rounds ih =>
      unfold Qga.chunksFrom
      split
      · rename_i empty
        rw [empty]
        rfl
      · have shorter : (content.drop size).length ≤ rounds := by
          rw [List.length_drop]
          omega
        rw [List.flatten_cons, ih shorter, List.take_append_drop]

theorem flatten_chunks (content : Bytes) :
    (Qga.chunks Qga.fileChunk content).flatten = content :=
  flatten_chunksFrom (by decide) (Nat.le_refl _)

end Chunks

section Writing
variable {S : Type} {h : Handler qgaSignature S} {s t : S} {handle : Int}

/-- What a request writes to the file of the handle. -/
def payload (handle : Int) : QgaOp → Bytes
  | .execute "guest-file-write" (some arguments) =>
      match arguments.get "handle", (arguments.get "buf-b64").bind asStr with
      | some (.number number), some text =>
          if number = handle then (decodeBase64 text).getD [] else []
      | _, _ => []
  | _ => []

def sentBytes (handle : Int) (requests : List QgaOp) : Bytes := requests.flatMap (payload handle)

theorem sentBytes_append (first second : List QgaOp) :
    sentBytes handle (first ++ second) = sentBytes handle first ++ sentBytes handle second :=
  List.flatMap_append

theorem payload_write (chunk : Bytes) :
    payload handle (.execute "guest-file-write" (some (Qga.writeArguments handle chunk))) =
      chunk := by
  have shape : payload handle
      (.execute "guest-file-write" (some (Qga.writeArguments handle chunk))) =
        if handle = handle then (decodeBase64 (encodeBase64 chunk)).getD [] else [] := rfl
  rw [shape, if_pos rfl, decodeBase64_encodeBase64, Option.getD_some]

/-- What the agent is asked in the course of a program. -/
def requestsOf {A : Type} (h : Handler qgaSignature S) (p : Qga A) (s : S) : List QgaOp :=
  Proc.requests h p s

/-- Programs of the client do not lock. -/
abbrev Asks {A : Type} (p : Qga A) : Prop := Passive (I := qgaSignature) (fun _ => True) p

theorem asks_execute {command : String} {arguments : Option Json} :
    Asks (Qga.execute command arguments) := Passive.effect trivial

theorem asks_ensure {condition : Prop} [Decidable condition] {error : GuestIoError} :
    Asks (ensure condition error) := Passive.ite Passive.pure Passive.fail

theorem asks_writeChunks {chunks : List Bytes} : Asks (Qga.writeChunks handle chunks) := by
  induction chunks with
  | nil => exact Passive.pure
  | cons chunk rest ih => exact asks_execute.bind fun _ => asks_ensure.bind fun _ => ih

/-- What comes after a part that ends with a value. -/
theorem requestsOf_bind {A B : Type} {p : Qga A} {f : A → Qga B} {a : A} (asks : Asks p)
    (runs : Proc.run h p true s = (some (.ok a), t)) :
    requestsOf h (p >>= f) s = requestsOf h p s ++ requestsOf h (f a) t := asks.requests_ok runs

theorem requestsOf_ensure {condition : Prop} [Decidable condition] {error : GuestIoError} :
    requestsOf h (ensure condition error : Qga Unit) s = [] := by
  unfold ensure
  split <;> rfl

/-- Every chunk of a loop that succeeds has been sent, once and in order. -/
theorem sentBytes_writeChunks {chunks : List Bytes} {a : Unit}
    (runs : Proc.run h (Qga.writeChunks handle chunks) true s = (some (.ok a), t)) :
    sentBytes handle (requestsOf h (Qga.writeChunks handle chunks) s) = chunks.flatten := by
  induction chunks generalizing s with
  | nil => rfl
  | cons chunk rest ih =>
      obtain ⟨response, u, written, checks⟩ := asks_execute.run_parts runs
      obtain ⟨_, v, checked, later⟩ := asks_ensure.run_parts checks
      have split : requestsOf h (Qga.writeChunks handle (chunk :: rest)) s =
          [.execute "guest-file-write" (some (Qga.writeArguments handle chunk))] ++
            requestsOf h (Qga.writeChunks handle rest) v := by
        refine (requestsOf_bind asks_execute written).trans ?_
        rw [requestsOf_bind asks_ensure checked, requestsOf_ensure, List.nil_append]
        rfl
      have first : sentBytes handle
          [.execute "guest-file-write" (some (Qga.writeArguments handle chunk))] = chunk :=
        (List.append_nil _).trans (payload_write chunk)
      rw [split, sentBytes_append, first, ih later, List.flatten_cons]

theorem sentBytes_fileWriteAll {content : Bytes} {a : Unit}
    (runs : Proc.run h (Qga.fileWriteAll handle content) true s = (some (.ok a), t)) :
    sentBytes handle (requestsOf h (Qga.fileWriteAll handle content) s) = content := by
  obtain ⟨_, u, written, flushes⟩ := asks_writeChunks.run_parts runs
  obtain ⟨_, v, flushed, _⟩ := asks_execute.run_parts flushes
  have split : requestsOf h (Qga.fileWriteAll handle content) s =
      requestsOf h (Qga.writeChunks handle (Qga.chunks Qga.fileChunk content)) s ++
        [.execute "guest-file-flush" (some (Qga.handleArguments handle))] := by
    refine (requestsOf_bind asks_writeChunks written).trans ?_
    rw [requestsOf_bind asks_execute flushed]
    rfl
  have flush : sentBytes handle
      [.execute "guest-file-flush" (some (Qga.handleArguments handle))] = [] := rfl
  rw [split, sentBytes_append, flush, List.append_nil, sentBytes_writeChunks written,
    flatten_chunks]

end Writing

section Reading
variable {S : Type} {h : Handler qgaSignature S} {s t : S} {handle : Int} {maxBytes rounds : Nat}
  {output : Bytes}

/-- What the reader does with the bytes of a reply. -/
def readNext (handle : Int) (maxBytes rounds : Nat) (output : Bytes) (chunk : Bytes) (eof : Bool) :
    Qga Bytes :=
  if (output ++ chunk).length ≤ maxBytes then
    if eof = true then pure (output ++ chunk)
    else if chunk = [] then fail .invalidResponse
    else Qga.readChunks handle maxBytes rounds (output ++ chunk)
  else fail .outputLimit

/-- What the reader does with a reply. -/
def readReplied (handle : Int) (maxBytes rounds : Nat) (output : Bytes)
    (reply : Except GuestIoError Json) : Qga Bytes :=
  match reply.bind Qga.readReply with
  | .error error => fail error
  | .ok (chunk, eof) => readNext handle maxBytes rounds output chunk eof

theorem readChunks_succ : Qga.readChunks handle maxBytes (rounds + 1) output =
    .call (.execute "guest-file-read" (some (Qga.readArguments handle)))
      (readReplied handle maxBytes rounds output) := by
  refine congrArg (Proc.call _) (funext fun reply => ?_)
  rcases reply with error | response
  · rfl
  · change (lift (Qga.readReply response) >>= _ : Qga Bytes) =
      match Qga.readReply response with
      | .error error => fail error
      | .ok (chunk, eof) => readNext handle maxBytes rounds output chunk eof
    cases Qga.readReply response with
    | error error => rfl
    | ok found =>
        change (ensure ((output ++ found.1).length ≤ maxBytes) _ >>= _ : Qga Bytes) =
          readNext handle maxBytes rounds output found.1 found.2
        unfold ensure readNext
        by_cases fits : (output ++ found.1).length ≤ maxBytes
        · rw [if_pos fits, if_pos fits]
          rfl
        · rw [if_neg fits, if_neg fits]
          rfl

theorem run_readChunks {reply : Except GuestIoError Json} {u : S}
    (answered : h (.execute "guest-file-read" (some (Qga.readArguments handle))) s = (reply, u)) :
    Proc.run h (Qga.readChunks handle maxBytes (rounds + 1) output) true s =
      Proc.run h (readReplied handle maxBytes rounds output reply) true u := by
  rw [readChunks_succ]
  exact congrArg (fun answer => Proc.run h (readReplied handle maxBytes rounds output answer.1)
    true answer.2) answered

/-- A reply ends the loop, or it brings a byte and the loop goes on within its bound. -/
theorem readReplied_cases (reply : Except GuestIoError Json) :
    (∃ error, readReplied handle maxBytes rounds output reply = fail error) ∨
      (∃ bytes, bytes.length ≤ maxBytes ∧
        readReplied handle maxBytes rounds output reply = pure bytes) ∨
      ∃ chunk, chunk ≠ [] ∧ (output ++ chunk).length ≤ maxBytes ∧
        readReplied handle maxBytes rounds output reply =
          Qga.readChunks handle maxBytes rounds (output ++ chunk) := by
  unfold readReplied
  cases reply.bind Qga.readReply with
  | error error => exact Or.inl ⟨error, rfl⟩
  | ok found =>
      obtain ⟨chunk, eof⟩ := found
      simp only [readNext]
      split
      · rename_i fits
        split
        · exact Or.inr (Or.inl ⟨_, fits, rfl⟩)
        · split
          · exact Or.inl ⟨_, rfl⟩
          · rename_i nonempty
            exact Or.inr (Or.inr ⟨chunk, nonempty, fits, rfl⟩)
      · exact Or.inl ⟨_, rfl⟩

/-- Each reply that is not the last brings a byte. -/
theorem brief_readChunks {count : Nat} (bounds : maxBytes < output.length + count)
    (room : output.length ≤ maxBytes) (enough : count ≤ rounds) :
    Brief count (Qga.readChunks handle maxBytes rounds output) := by
  induction rounds generalizing output count with
  | zero => omega
  | succ rounds ih =>
      obtain ⟨count, rfl⟩ := Nat.exists_eq_succ_of_ne_zero (show count ≠ 0 by omega)
      rw [readChunks_succ]
      intro reply
      rcases readReplied_cases reply with ⟨error, ends⟩ | ⟨bytes, _, ends⟩ |
        ⟨chunk, nonempty, fits, continues⟩
      · rw [ends]
        exact Brief.done
      · rw [ends]
        exact Brief.done
      · rw [continues]
        have longer := List.length_pos_iff.mpr nonempty
        rw [List.length_append] at fits
        exact ih (by rw [List.length_append]; omega) (by rw [List.length_append]; omega)
          (Nat.le_of_succ_le_succ enough)

/-- What is returned is within the bound, whatever the agent says. -/
theorem length_readChunks {bytes : Bytes}
    (runs : Proc.run h (Qga.readChunks handle maxBytes rounds output) true s =
      (some (.ok bytes), t)) : bytes.length ≤ maxBytes := by
  induction rounds generalizing output s with
  | zero => cases runs
  | succ rounds ih =>
      obtain ⟨reply, u, answered⟩ : ∃ reply u,
          h (.execute "guest-file-read" (some (Qga.readArguments handle))) s = (reply, u) :=
        ⟨_, _, rfl⟩
      rw [run_readChunks answered] at runs
      rcases readReplied_cases reply with ⟨error, ends⟩ | ⟨result, fits, ends⟩ |
        ⟨chunk, nonempty, fits, continues⟩
      · rw [ends] at runs
        cases runs
      · rw [ends] at runs
        obtain ⟨⟨rfl⟩, rfl⟩ := Prod.mk.inj runs
        exact fits
      · rw [continues] at runs
        exact ih runs

end Reading

section Agents

/-- The files of a guest, and the file and position of each open handle. -/
structure GuestFiles where
  contents : String → Bytes
  opened : Int → Option (String × Nat)

/-- What a read may return of the rest of a file: some bytes of it, with or without
the mark when they are the last, or nothing and the mark when there are none. -/
def Returns (rest chunk : Bytes) (count : Nat) (eof : Bool) : Prop :=
  (chunk ≠ [] ∧ chunk.length ≤ count ∧ chunk <+: rest ∧ (eof = true → chunk = rest)) ∨
    (chunk = [] ∧ rest = [] ∧ eof = true)

/-- An agent with some state of its own that keeps files as documented. -/
structure Conforming {S : Type} (h : Handler qgaSignature S) (view : S → GuestFiles) : Prop where
  opens : ∀ s path mode, mode = "r" ∨ mode = "w" → ∃ (handle : Int) (t : S),
    h (.execute "guest-file-open"
      (some (.object [("path", .string path), ("mode", .string mode)]))) s =
        (.ok (.number handle), t) ∧
      (-2 ^ 63 ≤ handle ∧ handle < 2 ^ 63) ∧
      view t = ⟨if mode = "w" then Function.update (view s).contents path [] else (view s).contents,
        Function.update (view s).opened handle (some (path, 0))⟩
  closes : ∀ s (handle : Int), ∃ reply t,
    h (.execute "guest-file-close" (some (.object [("handle", .number handle)]))) s =
        (.ok reply, t) ∧
      view t = ⟨(view s).contents, Function.update (view s).opened handle none⟩
  writes : ∀ s (handle : Int) path position text chunk,
    (view s).opened handle = some (path, position) → decodeBase64 text = some chunk →
    ∃ reply t, h (.execute "guest-file-write"
      (some (.object [("handle", .number handle), ("buf-b64", .string text)]))) s =
        (.ok reply, t) ∧
      reply.get "count" = some (.number chunk.length) ∧
      view t = ⟨Function.update (view s).contents path ((view s).contents path ++ chunk),
        (view s).opened⟩
  flushes : ∀ s (handle : Int), ∃ reply t,
    h (.execute "guest-file-flush" (some (.object [("handle", .number handle)]))) s =
        (.ok reply, t) ∧ view t = view s
  reads : ∀ s (handle : Int) path position (count : Nat),
    (view s).opened handle = some (path, position) → 0 < count →
    ∃ reply t chunk eof, h (.execute "guest-file-read"
      (some (.object [("handle", .number handle), ("count", .number count)]))) s =
        (.ok reply, t) ∧
      Returns (((view s).contents path).drop position) chunk count eof ∧
      (reply.get "buf-b64" = some (.string (encodeBase64 chunk)) ∨
        (chunk = [] ∧ reply.get "buf-b64" = none)) ∧
      reply.get "count" = some (.number chunk.length) ∧ reply.get "eof" = some (.bool eof) ∧
      view t = ⟨(view s).contents,
        Function.update (view s).opened handle (some (path, position + chunk.length))⟩

variable {S : Type} {h : Handler qgaSignature S} {view : S → GuestFiles} {s : S} {handle : Int}
  {path : String} {position : Nat}

theorem length_of_mem_chunksFrom {size rounds : Nat} {content chunk : Bytes}
    (member : chunk ∈ Qga.chunksFrom size rounds content) : chunk.length ≤ size := by
  induction rounds generalizing content with
  | zero => cases member
  | succ rounds ih =>
      unfold Qga.chunksFrom at member
      split at member
      · cases member
      · rcases List.mem_cons.mp member with rfl | later
        · exact List.length_take_le _ _
        · exact ih later

theorem asU64_length {count : Nat} (small : count ≤ Qga.fileChunk) :
    (Json.number count).asU64 = some count := by
  unfold Qga.fileChunk at small
  simp only [Json.asU64]
  rw [if_pos (by omega), Int.toNat_natCast]

/-- A conforming agent takes every chunk and appends it. -/
theorem Conforming.run_writeChunks (conforming : Conforming h view) {chunks : List Bytes}
    (opened : (view s).opened handle = some (path, position))
    (small : ∀ chunk ∈ chunks, chunk.length ≤ Qga.fileChunk) :
    ∃ t, Proc.run h (Qga.writeChunks handle chunks) true s = (some (.ok ()), t) ∧
      view t = ⟨Function.update (view s).contents path
        ((view s).contents path ++ chunks.flatten), (view s).opened⟩ := by
  induction chunks generalizing s with
  | nil =>
      refine ⟨s, rfl, ?_⟩
      rw [List.flatten_nil, List.append_nil, Function.update_eq_self]
  | cons chunk rest ih =>
      obtain ⟨reply, u, answered, count, written⟩ := conforming.writes s handle path position _ chunk
        opened (decodeBase64_encodeBase64 chunk)
      have still : (view u).opened handle = some (path, position) := by rw [written]; exact opened
      obtain ⟨t, runs, ends⟩ := ih still fun other member => small other (List.mem_cons_of_mem _ member)
      refine ⟨t, ?_, ?_⟩
      · refine (run_execute answered).trans ?_
        have counted : (reply.get "count").bind Json.asU64 = some chunk.length := by
          rw [count, Option.bind_some, asU64_length (small chunk List.mem_cons_self)]
        unfold ensure
        rw [if_pos counted]
        exact runs
      · rw [ends, written]
        simp [List.append_assoc]

theorem Conforming.run_fileWriteAll (conforming : Conforming h view) (content : Bytes)
    (opened : (view s).opened handle = some (path, position)) :
    ∃ t, Proc.run h (Qga.fileWriteAll handle content) true s = (some (.ok ()), t) ∧
      view t = ⟨Function.update (view s).contents path ((view s).contents path ++ content),
        (view s).opened⟩ := by
  have small : ∀ chunk ∈ Qga.chunks Qga.fileChunk content, chunk.length ≤ Qga.fileChunk :=
    fun chunk => length_of_mem_chunksFrom
  obtain ⟨u, written, appended⟩ := conforming.run_writeChunks opened small
  obtain ⟨reply, t, flushed, kept⟩ := conforming.flushes u handle
  refine ⟨t, ?_, ?_⟩
  · refine (asks_writeChunks.run_ok written).trans ?_
    exact run_execute flushed
  · rw [kept, appended, flatten_chunks]

theorem readReply_ok {reply : Json} {chunk : Bytes} {eof : Bool}
    (text : reply.get "buf-b64" = some (.string (encodeBase64 chunk)) ∨
      (chunk = [] ∧ reply.get "buf-b64" = none))
    (count : reply.get "count" = some (.number chunk.length))
    (mark : reply.get "eof" = some (.bool eof)) (small : chunk.length ≤ Qga.fileChunk) :
    Qga.readReply reply = .ok (chunk, eof) := by
  have counted : ((reply.get "count").bind Json.asU64) = some chunk.length := by
    rw [count, Option.bind_some, asU64_length small]
  have agrees : ¬(chunk.length ≠ chunk.length ∨ chunk.length > Qga.fileChunk) := by omega
  unfold Qga.readReply
  rw [counted, mark]
  rcases text with found | ⟨rfl, absent⟩
  · rw [found]
    simp only [Option.bind_some, asStr, decodeBase64_encodeBase64]
    change (if chunk.length ≠ chunk.length ∨ chunk.length > Qga.fileChunk then
      Except.error GuestIoError.partialCopy else .ok (chunk, eof)) = _
    rw [if_neg agrees]
  · rw [absent]
    rfl

/-- Whatever a conforming agent makes of the chunks, the file is read to its end. -/
theorem Conforming.run_readChunks (conforming : Conforming h view) {maxBytes rounds : Nat}
    {output : Bytes} (opened : (view s).opened handle = some (path, output.length))
    (taken : output <+: (view s).contents path)
    (fits : ((view s).contents path).length ≤ maxBytes)
    (enough : maxBytes < output.length + rounds) :
    ∃ t, Proc.run h (Qga.readChunks handle maxBytes rounds output) true s =
      (some (.ok ((view s).contents path)), t) := by
  induction rounds generalizing s output with
  | zero =>
      have := taken.length_le
      omega
  | succ rounds ih =>
      obtain ⟨reply, u, chunk, eof, answered, returns, text, count, mark, seen⟩ :=
        conforming.reads s handle path output.length Qga.fileChunk opened (by decide)
      obtain ⟨rest, whole⟩ := taken
      rw [← whole, List.drop_left] at returns
      have small : chunk.length ≤ Qga.fileChunk := by
        rcases returns with ⟨_, small, _⟩ | ⟨rfl, _⟩
        · exact small
        · exact Nat.zero_le _
      have begins : chunk <+: rest := by
        rcases returns with ⟨_, _, begins, _⟩ | ⟨rfl, _⟩
        · exact begins
        · exact List.nil_prefix
      have short : (output ++ chunk).length ≤ maxBytes := by
        have bound := congrArg List.length whole
        have part := begins.length_le
        rw [List.length_append] at bound ⊢
        omega
      have replied : readReplied handle maxBytes rounds output (.ok reply) =
          readNext handle maxBytes rounds output chunk eof := by
        simp only [readReplied, Except.bind, readReply_ok text count mark small]
      rw [VmCell.run_readChunks answered, replied, readNext, if_pos short]
      rcases returns with ⟨nonempty, _, _, last⟩ | ⟨rfl, rfl, rfl⟩
      · cases eof with
        | true =>
            refine ⟨u, ?_⟩
            rw [if_pos rfl, last rfl, whole]
            rfl
        | false =>
            rw [if_neg Bool.false_ne_true, if_neg nonempty]
            have contents : (view u).contents = (view s).contents := by rw [seen]
            have moved : (view u).opened handle = some (path, (output ++ chunk).length) := by
              rw [seen, List.length_append]
              exact Function.update_self _ _ _
            rw [← contents] at fits ⊢
            refine ih moved ?_ fits ?_
            · rw [contents, ← whole]
              exact (List.prefix_append_right_inj output).mpr begins
            · have := List.length_pos_iff.mpr nonempty
              rw [List.length_append]
              omega
      · refine ⟨u, ?_⟩
        rw [if_pos rfl, whole]
        rfl

theorem asI64_handle (signed : -2 ^ 63 ≤ handle ∧ handle < 2 ^ 63) :
    (Json.number handle).asI64 = some handle := by
  simp only [Json.asI64]
  rw [if_pos signed]

theorem Conforming.run_fileOpen (conforming : Conforming h view) {mode : String}
    (known : mode = "r" ∨ mode = "w") :
    ∃ handle t, Proc.run h (Qga.fileOpen path mode) true s = (some (.ok handle), t) ∧
      view t = ⟨if mode = "w" then Function.update (view s).contents path [] else (view s).contents,
        Function.update (view s).opened handle (some (path, 0))⟩ := by
  obtain ⟨handle, t, answered, signed, seen⟩ := conforming.opens s path mode known
  refine ⟨handle, t, ?_, seen⟩
  refine (run_execute answered).trans ?_
  rw [asI64_handle signed]
  rfl

theorem Conforming.run_fileClose (conforming : Conforming h view) :
    ∃ t, Proc.run h (Qga.fileClose handle) true s = (some (.ok ()), t) ∧
      (view t).contents = (view s).contents := by
  obtain ⟨reply, t, answered, seen⟩ := conforming.closes s handle
  exact ⟨t, run_execute answered, by rw [seen]⟩

end Agents

/-- A file is written under a handle of its own and then read under another. -/
def writeThenRead (rounds : Nat) (path : String) (content : Bytes) (maxBytes : Nat) :
    Qga Bytes := do
  let writer ← Qga.fileOpen path "w"
  Qga.fileWriteAll writer content
  Qga.fileClose writer
  let reader ← Qga.fileOpen path "r"
  Qga.fileReadAll rounds reader maxBytes

theorem Conforming.run_writeThenRead {S : Type} {h : Handler qgaSignature S}
    {view : S → GuestFiles} (conforming : Conforming h view) {maxBytes rounds : Nat}
    {path : String} {content : Bytes} (s : S) (fits : content.length ≤ maxBytes)
    (enough : maxBytes < rounds) :
    ∃ t, Proc.run h (writeThenRead rounds path content maxBytes) true s =
      (some (.ok content), t) := by
  have asks_fileOpen : ∀ mode, Asks (Qga.fileOpen path mode) := fun mode =>
    asks_execute.bind fun _ => Passive.lift
  have asks_fileClose : ∀ handle, Asks (Qga.fileClose handle) := fun handle =>
    asks_execute.bind fun _ => Passive.pure
  have asks_fileWriteAll : ∀ handle, Asks (Qga.fileWriteAll handle content) := fun handle =>
    asks_writeChunks.bind fun _ => asks_execute.bind fun _ => Passive.pure
  obtain ⟨writer, a, creates, created⟩ := conforming.run_fileOpen (Or.inr rfl)
  have empty : (view a).contents path = [] := by
    rw [created, if_pos rfl]
    exact Function.update_self _ _ _
  have opened : (view a).opened writer = some (path, 0) := by
    rw [created]
    exact Function.update_self _ _ _
  obtain ⟨b, writes, written⟩ := conforming.run_fileWriteAll content opened
  obtain ⟨c, closes, closed⟩ := conforming.run_fileClose
  obtain ⟨reader, d, opens, reopened⟩ := conforming.run_fileOpen (Or.inl rfl)
  have contents : (view d).contents path = content := by
    rw [reopened, if_neg (by decide), closed, written, empty]
    exact Function.update_self _ _ _
  have positioned : (view d).opened reader = some (path, ([] : Bytes).length) := by
    rw [reopened]
    exact Function.update_self _ _ _
  have bounded : ((view d).contents path).length ≤ maxBytes := by
    rw [contents]
    exact fits
  have rounds_left : maxBytes < ([] : Bytes).length + rounds := by
    rw [List.length_nil]
    omega
  obtain ⟨t, reads⟩ :=
    conforming.run_readChunks positioned List.nil_prefix bounded rounds_left
  refine ⟨t, ?_⟩
  refine ((asks_fileOpen "w").run_ok creates).trans ?_
  refine ((asks_fileWriteAll writer).run_ok writes).trans ?_
  refine ((asks_fileClose writer).run_ok closes).trans ?_
  refine ((asks_fileOpen "r").run_ok opens).trans ?_
  rw [contents] at reads
  exact reads

/-- What is written through a conforming agent is what is read back. With any
agent, the reader ends after one reply more than the bytes it may take and never
returns more, and a writer that succeeds has sent every byte once and in order. -/
theorem files_survive_transfer :
    (∀ {S : Type} (h : Handler qgaSignature S) (view : S → GuestFiles), Conforming h view →
      ∀ (s : S) (path : String) (content : Bytes) (maxBytes rounds : Nat),
        content.length ≤ maxBytes → maxBytes < rounds →
        ∃ t, Proc.run h (writeThenRead rounds path content maxBytes) true s =
          (some (.ok content), t)) ∧
      (∀ (handle : Int) (maxBytes rounds : Nat), maxBytes < rounds →
        Brief (maxBytes + 1) (Qga.fileReadAll rounds handle maxBytes)) ∧
      (∀ {S : Type} (h : Handler qgaSignature S) (s t : S) (handle : Int) (maxBytes rounds : Nat)
        (bytes : Bytes), Proc.run h (Qga.fileReadAll rounds handle maxBytes) true s =
          (some (.ok bytes), t) → bytes.length ≤ maxBytes) ∧
      ∀ {S : Type} (h : Handler qgaSignature S) (s t : S) (handle : Int) (content : Bytes),
        Proc.run h (Qga.fileWriteAll handle content) true s = (some (.ok ()), t) →
        sentBytes handle (requestsOf h (Qga.fileWriteAll handle content) s) = content := by
  refine ⟨?_, ?_, ?_, ?_⟩
  · exact fun h view conforming s path content maxBytes rounds fits enough =>
      conforming.run_writeThenRead s fits enough
  · intro handle maxBytes rounds enough
    exact brief_readChunks (by rw [List.length_nil]; omega) (Nat.zero_le _) enough
  · exact fun h s t handle maxBytes rounds bytes runs => length_readChunks runs
  · exact fun h s t handle content runs => sentBytes_fileWriteAll runs

namespace Exemplar

/-- The reply with a chunk, marked when it is empty. -/
def chunkReply (chunk : Bytes) : Json :=
  .object [("count", .number chunk.length), ("buf-b64", .string (encodeBase64 chunk)),
    ("eof", .bool (chunk = []))]

/-- An agent that hands out one byte at a time, and the mark only when there is
nothing left. It has one file and its handles are the numbers one and two. -/
def oneByOne : Handler qgaSignature GuestFiles
  | .execute "guest-file-open" (some (.object [("path", .string path), ("mode", .string "w")])),
    s => (.ok (.number 1), ⟨Function.update s.contents path [],
      Function.update s.opened 1 (some (path, 0))⟩)
  | .execute "guest-file-open" (some (.object [("path", .string path), ("mode", .string "r")])),
    s => (.ok (.number 2), ⟨s.contents, Function.update s.opened 2 (some (path, 0))⟩)
  | .execute "guest-file-close" (some (.object [("handle", .number handle)])), s =>
      (.ok (.object []), ⟨s.contents, Function.update s.opened handle none⟩)
  | .execute "guest-file-flush" (some (.object [("handle", .number _)])), s => (.ok (.object []), s)
  | .execute "guest-file-write"
      (some (.object [("handle", .number handle), ("buf-b64", .string text)])), s =>
      match s.opened handle, decodeBase64 text with
      | some (path, _), some chunk => (.ok (.object [("count", .number chunk.length)]),
          ⟨Function.update s.contents path (s.contents path ++ chunk), s.opened⟩)
      | _, _ => (.error .transport, s)
  | .execute "guest-file-read" (some (.object [("handle", .number handle), ("count", _)])), s =>
      match s.opened handle with
      | none => (.error .transport, s)
      | some (path, position) =>
          let chunk := ((s.contents path).drop position).take 1
          (.ok (chunkReply chunk), ⟨s.contents,
            Function.update s.opened handle (some (path, position + chunk.length))⟩)
  | .execute .., s => (.error .transport, s)
  | .now, s => ((0 : Nat), s)
  | .sleep _, s => ((), s)

theorem oneByOne_conforming : Conforming oneByOne id where
  opens := by
    rintro s path mode (rfl | rfl)
    · exact ⟨2, _, rfl, by decide, rfl⟩
    · exact ⟨1, _, rfl, by decide, rfl⟩
  closes := fun s handle => ⟨_, _, rfl, rfl⟩
  flushes := fun s handle => ⟨_, _, rfl, rfl⟩
  writes := by
    intro s handle path position text chunk opened decoded
    refine ⟨.object [("count", .number chunk.length)],
      ⟨Function.update s.contents path (s.contents path ++ chunk), s.opened⟩, ?_, rfl, rfl⟩
    have found : s.opened handle = some (path, position) := opened
    unfold oneByOne
    simp only [found, decoded]
  reads := by
    intro s handle path position count opened positive
    have found : s.opened handle = some (path, position) := opened
    refine ⟨chunkReply (((s.contents path).drop position).take 1), ⟨s.contents, Function.update
      s.opened handle (some (path, position + (((s.contents path).drop position).take 1).length))⟩,
      ((s.contents path).drop position).take 1, _, ?_, ?_, Or.inl rfl, rfl, rfl, rfl⟩
    · unfold oneByOne
      simp only [found]
    · change Returns ((s.contents path).drop position) _ count _
      cases (s.contents path).drop position with
      | nil => exact Or.inr ⟨rfl, rfl, rfl⟩
      | cons first rest =>
          exact Or.inl ⟨by simp, positive, List.take_prefix _ _, fun ends => by simp at ends⟩

end Exemplar

/-- Three bytes through an agent that returns them one by one. -/
theorem files_survive_transfer_one_by_one :
    ∃ t, Proc.run Exemplar.oneByOne (writeThenRead 4 "/var/lib/vmcell/a" [1, 2, 3] 3) true
      ⟨fun _ => [], fun _ => none⟩ = (some (.ok [1, 2, 3]), t) :=
  files_survive_transfer.1 Exemplar.oneByOne id Exemplar.oneByOne_conforming _ _ _ _ _
    (by decide) (by decide)

end VmCell
