import VmCell.Guest.Commands
import VmCell.Interaction.Progress

/-! The limit on the output of a command that the guest agent runs.

Four checks bound the output: the length of a frame, the length of the Base64 text,
the length of each stream and the sum of both.
-/

set_option autoImplicit false
namespace VmCell

open Interaction Fallible
open QemuProvider (asStr)

section Streams
variable {status : Json} {field : String} {output : Bytes} {limit : Nat}

/-- The field holds the bytes in their canonical encoding; no bytes may also be no field. -/
def Carries (status : Json) (field : String) (output : Bytes) : Prop :=
  status.get field = some (.string (encodeBase64 output)) ∨
    (output = [] ∧ status.get field = none)

theorem utf8ByteSize_encodeBase64 (output : Bytes) :
    (encodeBase64 output).utf8ByteSize = 4 * ((output.length + 2) / 3) := by
  have ascii : ∀ letters : List Char, (∀ letter ∈ letters, letter.utf8Size = 1) →
      (String.ofList letters).utf8ByteSize = letters.length := by
    intro letters single
    induction letters with
    | nil => rfl
    | cons letter rest ih =>
        have others := ih fun other member => single other (List.mem_cons_of_mem _ member)
        rw [← List.singleton_append, String.ofList_append, String.utf8ByteSize_append, others]
        simp [single letter List.mem_cons_self, Nat.add_comm]
  unfold encodeBase64
  rw [ascii _ fun letter member => Base64.encode_ascii member, Base64.length_encode]

theorem decodeBase64_encodeBase64 (output : Bytes) :
    decodeBase64 (encodeBase64 output) = some output := by
  unfold decodeBase64 encodeBase64
  rw [String.toList_ofList, Base64.decode_encode]

/-- A stream is taken when it is within the limit, unless both are one byte. -/
theorem decodeOutput_eq (carries : Carries status field output) (positive : 0 < limit)
    (small : limit ≤ maxOutputBytes) :
    Qga.decodeOutput status field limit =
      if output.length ≤ limit ∧ ¬(limit = 1 ∧ output.length = 1) then .ok output
      else .error .outputLimit := by
  unfold Qga.decodeOutput
  rcases carries with found | ⟨rfl, absent⟩
  · rw [found]
    simp only [Option.bind_some, asStr, utf8ByteSize_encodeBase64, decodeBase64_encodeBase64]
    have doubled : min (limit * 2) (2 ^ 64 - 1) = limit * 2 := by
      unfold maxOutputBytes at small
      omega
    rw [doubled]
    by_cases long : 4 * ((output.length + 2) / 3) > limit * 2
    · rw [if_pos long, if_neg (by omega)]
    · rw [if_neg long]
      by_cases fits : output.length ≤ limit
      · rw [if_neg (by omega), if_pos (by omega)]
      · rw [if_pos (by omega), if_neg (by omega)]
  · rw [absent]
    simp

end Streams

section Results
variable {command : GuestCommand} {status : Json} {out err : Bytes} {code : Int}

/-- The reply of a command that has exited. -/
structure Finished (status : Json) (out err : Bytes) (code : Int) : Prop where
  exited : Qga.exited status = true
  stdout : Carries status "out-data" out
  stderr : Carries status "err-data" err
  stdoutWhole : Qga.untruncated status "out-truncated" = true
  stderrWhole : Qga.untruncated status "err-truncated" = true
  exitCode : status.get "exitcode" = some (.number code)
  signed : -2 ^ 31 ≤ code ∧ code < 2 ^ 31

theorem utf8ByteSize_fromUtf8 {bytes : Bytes} {text : String} (reads : fromUtf8 bytes = some text) :
    text.utf8ByteSize = bytes.length := by
  unfold fromUtf8 String.fromUTF8? at reads
  split at reads
  · obtain rfl := Option.some.inj reads
    rfl
  · cases reads

/-- What comes of output within the limit. -/
def textResult (out err : Bytes) (code : Int) : Except GuestIoError GuestCommandResult :=
  match fromUtf8 out, fromUtf8 err with
  | some stdout, some stderr =>
      .ok ⟨code, stdout, stderr, "utf-8", out.length, err.length, false⟩
  | _, _ => .error .invalidResponse

theorem limit_of_valid (valid : command.validate = .ok ()) :
    0 < command.maxOutputBytes ∧ command.maxOutputBytes ≤ maxOutputBytes := by
  unfold GuestCommand.validate at valid
  split at valid
  · cases valid
  · split at valid
    · cases valid
    · split at valid
      · cases valid
      · omega

/-- Output is taken when both streams together are within the limit, unless the
limit and the output are one byte. -/
theorem commandResult_eq (valid : command.validate = .ok ())
    (finished : Finished status out err code) :
    Qga.commandResult command status =
      if out.length + err.length ≤ command.maxOutputBytes ∧
          ¬(command.maxOutputBytes = 1 ∧ out.length + err.length = 1) then textResult out err code
      else .error .outputLimit := by
  obtain ⟨positive, small⟩ := limit_of_valid valid
  have coded : ((status.get "exitcode").bind Json.asI64).bind asI32 = some code := by
    have signed := finished.signed
    rw [finished.exitCode]
    simp only [Option.bind_some, Json.asI64]
    rw [if_pos (by omega), Option.bind_some, asI32, if_pos signed]
  unfold Qga.commandResult
  rw [finished.stdoutWhole, finished.stderrWhole, decodeOutput_eq finished.stdout positive small,
    decodeOutput_eq finished.stderr positive small, coded]
  by_cases first : out.length ≤ command.maxOutputBytes ∧
      ¬(command.maxOutputBytes = 1 ∧ out.length = 1)
  · rw [if_pos first]
    by_cases second : err.length ≤ command.maxOutputBytes ∧
        ¬(command.maxOutputBytes = 1 ∧ err.length = 1)
    · rw [if_pos second]
      -- both streams have passed, the sum is checked next
      change (if out.length + err.length > command.maxOutputBytes then .error .outputLimit
        else (orInvalid (fromUtf8 out)).bind fun stdout =>
          (orInvalid (fromUtf8 err)).bind fun stderr =>
            .ok (GuestCommandResult.mk code stdout stderr "utf-8" stdout.utf8ByteSize
              stderr.utf8ByteSize false)) = _
      by_cases total : out.length + err.length ≤ command.maxOutputBytes
      · have taken : out.length + err.length ≤ command.maxOutputBytes ∧
            ¬(command.maxOutputBytes = 1 ∧ out.length + err.length = 1) := by omega
        rw [if_neg (Nat.not_lt.mpr total), if_pos taken, textResult]
        cases stdout : fromUtf8 out with
        | none => rfl
        | some text =>
            cases stderr : fromUtf8 err with
            | none => rfl
            | some other =>
                simp only [orInvalid, Except.bind, utf8ByteSize_fromUtf8 stdout,
                  utf8ByteSize_fromUtf8 stderr]
      · rw [if_pos (Nat.not_le.mp total), if_neg fun both => total both.1]
    · rw [if_neg second]
      have refused : ¬(out.length + err.length ≤ command.maxOutputBytes ∧
          ¬(command.maxOutputBytes = 1 ∧ out.length + err.length = 1)) := by omega
      exact (if_neg refused).symm
  · rw [if_neg first]
    have refused : ¬(out.length + err.length ≤ command.maxOutputBytes ∧
        ¬(command.maxOutputBytes = 1 ∧ out.length + err.length = 1)) := by omega
    exact (if_neg refused).symm

end Results

section Polling
variable {S : Type} {h : Handler qgaSignature S} {command : GuestCommand} {s t : S} {status : Json}

/-- What the clock says. -/
def instantOf (h : Handler qgaSignature S) (s : S) : Nat := (h .now s).1

/-- The status is asked for some times in vain, and then the command has exited. -/
def Polls (h : Handler qgaSignature S) (pid deadline : Nat) : Nat → S → Json → S → Prop
  | 0, s, status, t =>
      h (.execute "guest-exec-status" (some (Qga.statusArguments pid))) s = (.ok status, t) ∧
        Qga.exited status = true
  | waits + 1, s, status, t =>
      ∃ earlier u,
        h (.execute "guest-exec-status" (some (Qga.statusArguments pid))) s = (.ok earlier, u) ∧
        ¬Qga.exited earlier = true ∧ ¬deadline ≤ instantOf h u ∧
        Polls h pid deadline waits (h (.sleep (millis 50)) (h .now u).2).2 status t

/-- The agent starts the command and reports its exit. -/
def Executes (h : Handler qgaSignature S) (command : GuestCommand) (waits : Nat) (s : S)
    (status : Json) (t : S) : Prop :=
  ∃ response u pid,
    h (.execute "guest-exec" (some (Qga.execArguments command))) s = (.ok response, u) ∧
      (response.get "pid").bind Json.asU64 = some pid ∧
      Polls h pid (instantOf h u + command.timeout) waits (h .now u).2 status t

theorem run_execute {A : Type} {name : String} {arguments : Option Json} {value : Json}
    {f : Json → Qga A} (answered : h (.execute name arguments) s = (.ok value, t)) :
    Proc.run h (Qga.execute name arguments >>= f : Qga A) true s = Proc.run h (f value) true t := by
  have runs : Proc.run h (Qga.execute name arguments) true s = (some (.ok value), t) := by
    change (some (h (.execute name arguments) s).1, (h (.execute name arguments) s).2) = _
    rw [answered]
    rfl
  have passive : Passive (I := qgaSignature) (fun _ => True) (Qga.execute name arguments) :=
    Passive.effect trivial
  exact passive.run_ok runs

theorem run_awaitStatus {pid deadline waits rounds : Nat}
    (polls : Polls h pid deadline waits s status t) (enough : waits < rounds) :
    Proc.run h (Qga.awaitStatus command pid deadline rounds) true s =
      (some (Qga.commandResult command status), t) := by
  induction waits generalizing s rounds with
  | zero =>
      obtain ⟨rounds, rfl⟩ := Nat.exists_eq_succ_of_ne_zero enough.ne'
      obtain ⟨answered, ended⟩ := polls
      refine (run_execute answered).trans ?_
      rw [if_pos ended]
      rfl
  | succ waits ih =>
      obtain ⟨rounds, rfl⟩ := Nat.exists_eq_succ_of_ne_zero (Nat.ne_of_gt (Nat.zero_lt_of_lt enough))
      obtain ⟨earlier, u, answered, running, timely, later⟩ := polls
      refine (run_execute answered).trans ?_
      rw [if_neg running]
      refine (congrArg (fun p => Proc.run h p true (h .now u).2) (if_neg timely)).trans ?_
      exact ih later (Nat.lt_of_succ_lt_succ enough)

theorem run_exec {waits rounds : Nat} (executes : Executes h command waits s status t)
    (enough : waits < rounds) :
    Proc.run h (Qga.exec rounds command) true s =
      (some (Qga.commandResult command status), t) := by
  obtain ⟨response, u, pid, answered, found, polls⟩ := executes
  refine (run_execute answered).trans ?_
  rw [found]
  exact run_awaitStatus polls enough

end Polling

section Main

/-- The limit is kept to the byte: output within it is returned as it is, output
beyond it is refused, and what is returned passes the checks of the engine. -/
structure OutputExact (command : GuestCommand) (out err : Bytes) (code : Int)
    (result : Except GuestIoError GuestCommandResult) : Prop where
  taken : ∀ stdout stderr, fromUtf8 out = some stdout → fromUtf8 err = some stderr →
    out.length + err.length ≤ command.maxOutputBytes →
    result = .ok ⟨code, stdout, stderr, "utf-8", out.length, err.length, false⟩
  refused : command.maxOutputBytes < out.length + err.length → result = .error .outputLimit
  bounded : ∀ value, result = .ok value →
    value.stdout.utf8ByteSize + value.stderr.utf8ByteSize ≤ command.maxOutputBytes
  accepted : ∀ value, result = .ok value → validateGuestCommandResult command value = .ok ()

variable {command : GuestCommand} {out err : Bytes} {code : Int}

theorem textResult_ok {value : GuestCommandResult} (reads : textResult out err code = .ok value) :
    ∃ stdout stderr, fromUtf8 out = some stdout ∧ fromUtf8 err = some stderr ∧
      value = ⟨code, stdout, stderr, "utf-8", out.length, err.length, false⟩ := by
  unfold textResult at reads
  split at reads
  · rename_i stdout stderr first second
    exact ⟨stdout, stderr, first, second, (Except.ok.inj reads).symm⟩
  · cases reads

/-- The output is the one byte that the limit allows. -/
abbrev SingleByte (command : GuestCommand) (out err : Bytes) : Prop :=
  command.maxOutputBytes = 1 ∧ out.length + err.length = 1

/-- A result whose texts are within the limit passes the checks of the engine. -/
theorem accepted_of_within {value : GuestCommandResult} (valid : command.validate = .ok ())
    (reads : textResult out err code = .ok value)
    (within : out.length + err.length ≤ command.maxOutputBytes) :
    value.stdout.utf8ByteSize + value.stderr.utf8ByteSize ≤ command.maxOutputBytes ∧
      validateGuestCommandResult command value = .ok () := by
  obtain ⟨stdout, stderr, first, second, rfl⟩ := textResult_ok reads
  have small : out.length + err.length ≤ 2 ^ 64 - 1 := by
    have bound := (limit_of_valid valid).2
    unfold maxOutputBytes at bound
    omega
  simp only [validateGuestCommandResult, utf8ByteSize_fromUtf8 first,
    utf8ByteSize_fromUtf8 second, min_eq_left small]
  exact ⟨within, by simp [require, within]⟩

theorem outputExact_iff (valid : command.validate = .ok ()) :
    OutputExact command out err code
      (if out.length + err.length ≤ command.maxOutputBytes ∧ ¬SingleByte command out err then
        textResult out err code else .error .outputLimit) ↔
    ¬(SingleByte command out err ∧ (fromUtf8 out).isSome = true ∧
      (fromUtf8 err).isSome = true) := by
  constructor
  · rintro exact ⟨single, first, second⟩
    obtain ⟨stdout, first⟩ := Option.isSome_iff_exists.mp first
    obtain ⟨stderr, second⟩ := Option.isSome_iff_exists.mp second
    have taken := exact.taken stdout stderr first second (by rw [single.1, single.2])
    rw [if_neg fun both => both.2 single] at taken
    cases taken
  · intro other
    by_cases within : out.length + err.length ≤ command.maxOutputBytes ∧
        ¬SingleByte command out err
    · rw [if_pos within]
      refine ⟨fun stdout stderr first second _ => ?_, fun beyond => ?_, ?_, ?_⟩
      · simp only [textResult, first, second]
      · omega
      · exact fun value reads => (accepted_of_within valid reads within.1).1
      · exact fun value reads => (accepted_of_within valid reads within.1).2
    · rw [if_neg within]
      refine ⟨fun stdout stderr first second fits => ?_, fun _ => rfl, ?_, ?_⟩
      · have single : SingleByte command out err := by
          by_contra several
          exact within ⟨fits, several⟩
        exact absurd ⟨single, by rw [first]; rfl, by rw [second]; rfl⟩ other
      · intro value reads
        cases reads
      · intro value reads
        cases reads

/-- Within the largest limit, the text of a reply fits into a frame. -/
theorem frame_fits {frame : Bytes} {overhead : Nat}
    (within : out.length + err.length ≤ maxOutputBytes) (small : overhead < 1024 * 1024)
    (length : frame.length ≤
      (encodeBase64 out).utf8ByteSize + (encodeBase64 err).utf8ByteSize + overhead) :
    frame.length ≤ qgaFrameLimit := by
  rw [utf8ByteSize_encodeBase64, utf8ByteSize_encodeBase64] at length
  unfold maxOutputBytes at within
  unfold qgaFrameLimit
  omega

/-- The result of a command that the agent reports as exited is exact, save that
one byte of output is refused when the limit is one byte; and the reply fits into a
frame whenever its output is within the largest limit. -/
theorem output_limit_exact_iff {S : Type} (h : Handler qgaSignature S) {command : GuestCommand}
    {out err : Bytes} {code : Int} {status : Json} {s t : S} {waits rounds : Nat}
    (valid : command.validate = .ok ()) (executes : Executes h command waits s status t)
    (finished : Finished status out err code) (enough : waits < rounds) :
    (∃ result, Proc.run h (Qga.exec rounds command) true s = (some result, t) ∧
      (OutputExact command out err code result ↔
        ¬(command.maxOutputBytes = 1 ∧ out.length + err.length = 1 ∧
          (fromUtf8 out).isSome = true ∧ (fromUtf8 err).isSome = true))) ∧
      ∀ (frame : Bytes) (overhead : Nat), out.length + err.length ≤ maxOutputBytes →
        overhead < 1024 * 1024 →
        frame.length ≤
          (encodeBase64 out).utf8ByteSize + (encodeBase64 err).utf8ByteSize + overhead →
        frame.length ≤ qgaFrameLimit := by
  refine ⟨⟨_, run_exec executes enough, ?_⟩, fun frame overhead => frame_fits⟩
  rw [commandResult_eq valid finished, outputExact_iff valid, and_assoc]

end Main

namespace Exemplar

/-- An agent that answers from a list. -/
def scripted : Handler qgaSignature (List Json)
  | .execute .., reply :: rest => (.ok reply, rest)
  | .execute .., [] => (.error .timeout, [])
  | .now, replies => ((0 : Nat), replies)
  | .sleep _, replies => ((), replies)

def printing (limit : Nat) : GuestCommand := ⟨"/usr/bin/printf", ["a"], seconds 1, limit⟩

def startedReply : Json := .object [("pid", .number 42)]

/-- The command has written the letter a. -/
def exitedReply : Json :=
  .object [("exited", .bool true), ("exitcode", .number 0), ("out-data", .string "YQ==")]

theorem printing_valid (limit : Nat) (positive : limit ≠ 0) (small : limit ≤ maxOutputBytes) :
    (printing limit).validate = .ok () := by
  unfold GuestCommand.validate
  rw [if_neg (by simp only [printing]; decide), if_neg (by simp only [printing]; decide),
    if_neg (by simp only [printing]; omega)]

theorem printing_executes (limit : Nat) :
    Executes scripted (printing limit) 0 [startedReply, exitedReply] exitedReply [] :=
  ⟨startedReply, [exitedReply], 42, rfl, rfl, rfl, rfl⟩

theorem printing_finished : Finished exitedReply [97] [] 0 where
  exited := rfl
  stdout := Or.inl rfl
  stderr := Or.inr ⟨rfl, rfl⟩
  stdoutWhole := rfl
  stderrWhole := rfl
  exitCode := rfl
  signed := by decide

end Exemplar

/-- One letter with a limit of two bytes. -/
theorem output_limit_exact_at_two :
    ∃ result, Proc.run Exemplar.scripted (Qga.exec 1 (Exemplar.printing 2)) true
        [Exemplar.startedReply, Exemplar.exitedReply] = (some result, []) ∧
      OutputExact (Exemplar.printing 2) [97] [] 0 result := by
  have holds := (output_limit_exact_iff Exemplar.scripted
    (Exemplar.printing_valid 2 (by decide) (by decide)) (Exemplar.printing_executes 2)
    Exemplar.printing_finished (Nat.lt_succ_self 0)).1
  obtain ⟨result, runs, exactly⟩ := holds
  exact ⟨result, runs, exactly.mpr fun single => absurd single.1 (by decide)⟩

/-- One letter with a limit of one byte is refused. -/
theorem single_byte_refused :
    (Exemplar.printing 1).validate = .ok () ∧ Finished Exemplar.exitedReply [97] [] 0 ∧
      fromUtf8 [97] = some "a" ∧ fromUtf8 [] = some "" ∧
      Proc.run Exemplar.scripted (Qga.exec 1 (Exemplar.printing 1)) true
        [Exemplar.startedReply, Exemplar.exitedReply] = (some (.error .outputLimit), []) ∧
      ¬OutputExact (Exemplar.printing 1) [97] [] 0 (.error .outputLimit) := by
  have first : fromUtf8 [97] = some "a" := by decide +kernel
  have second : fromUtf8 [] = some "" := by decide +kernel
  have valid := Exemplar.printing_valid 1 (by decide) (by decide)
  refine ⟨valid, Exemplar.printing_finished, first, second, ?_, fun exactly => ?_⟩
  · rw [run_exec (Exemplar.printing_executes 1) (Nat.lt_succ_self 0),
      commandResult_eq valid Exemplar.printing_finished]
    rfl
  · cases exactly.taken "a" "" first second (by decide)

end VmCell
