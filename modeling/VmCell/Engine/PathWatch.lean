import VmCell.Core.Errors
import VmCell.Encoding.Frames

/-! The watch on the pathname of an immutable base, over the events of inotify.

The kernel writes whole events into a buffer, each a header of four words and a name
that is filled up with NUL. A read outside of the bytes that the kernel returned has
no result in this model.
-/

set_option autoImplicit false
namespace VmCell

/-- `LinuxPathWatchTarget`: a directory with the component that is watched in it, or the file. -/
structure PathWatchTarget where
  descriptor : Int32
  name : Option (List UInt8)
  deriving DecidableEq

namespace PathWatch

section Masks

def inModify : UInt32 := 0x2
def inAttrib : UInt32 := 0x4
def inCloseWrite : UInt32 := 0x8
def inMovedFrom : UInt32 := 0x40
def inMovedTo : UInt32 := 0x80
def inCreate : UInt32 := 0x100
def inDelete : UInt32 := 0x200
def inDeleteSelf : UInt32 := 0x400
def inMoveSelf : UInt32 := 0x800
def inUnmount : UInt32 := 0x2000
def inQOverflow : UInt32 := 0x4000
def inIgnored : UInt32 := 0x8000

def selfOrOverflow : UInt32 :=
  inDeleteSelf ||| inMoveSelf ||| inUnmount ||| inQOverflow ||| inIgnored

def targetMutation : UInt32 :=
  inAttrib ||| inCloseWrite ||| inCreate ||| inDelete ||| inModify ||| inMovedFrom ||| inMovedTo

def inodeMutation : UInt32 :=
  inAttrib ||| inCloseWrite ||| inDeleteSelf ||| inModify ||| inMoveSelf

end Masks

section Decoding

/-- `inotify_event` without its name. -/
structure Header where
  wd : Int32
  mask : UInt32
  cookie : UInt32
  len : UInt32
  deriving DecidableEq

def headerSize : Nat := 16

def usizeMax : Nat := 2 ^ 64 - 1

/-- Some of the bytes that are there. -/
def slice (bytes : List UInt8) (start stop : Nat) : Option (List UInt8) :=
  if start ≤ stop ∧ stop ≤ bytes.length then some ((bytes.drop start).take (stop - start)) else none

def word (a b c d : UInt8) : UInt32 := UInt32.ofNat (Frames.ofLe a b c d)

def header : List UInt8 → Option Header
  | [a, b, c, d, e, f, g, h, i, j, k, l, m, n, o, p] =>
      some ⟨(word a b c d).toInt32, word e f g h, word i j k l, word m n o p⟩
  | _ => none

/-- `read_unaligned` of a header. -/
def readHeader (bytes : List UInt8) (offset : Nat) : Option Header :=
  (slice bytes offset (offset + headerSize)).bind header

def changed (targets : List PathWatchTarget) (event : Header) (name : List UInt8) : Bool :=
  event.mask &&& selfOrOverflow != 0 ||
    match targets.find? (·.descriptor == event.wd) with
    | some ⟨_, some expected⟩ => event.mask &&& targetMutation != 0 && name == expected
    | some ⟨_, none⟩ => event.mask &&& inodeMutation != 0
    | none => true

def unreadable : EngineError :=
  .imageIntegrity "immutable base mutation watch could not be read"

def closedWatch : EngineError :=
  .imageIntegrity "immutable base mutation watch closed unexpectedly"

def truncatedFrame : EngineError :=
  .imageIntegrity "immutable base mutation watch frame was truncated"

def invalidFrame : EngineError :=
  .imageIntegrity "immutable base mutation watch frame was invalid"

def pathnameChanged : EngineError :=
  .imageIntegrity "immutable base pathname changed while in use"

/-- The loop over the events of one read, from an offset on. -/
def decodeEvents (targets : List PathWatchTarget) (bytes : List UInt8) (offset : Nat) :
    Option (Except EngineError Unit) :=
  if _ : offset < bytes.length then
    if bytes.length - offset < headerSize then some (.error truncatedFrame)
    else match readHeader bytes offset with
      | none => none
      | some event =>
          if usizeMax < headerSize + event.len.toNat then some (.error invalidFrame)
          else
            let eventSize := headerSize + event.len.toNat
            if bytes.length - offset < eventSize then some (.error truncatedFrame)
            else match slice bytes (offset + headerSize) (offset + eventSize) with
              | none => none
              | some name =>
                  if changed targets event (name.takeWhile (· != 0)) then
                    some (.error pathnameChanged)
                  else decodeEvents targets bytes (offset + eventSize)
  else some (.ok ())
termination_by bytes.length - offset
decreasing_by
  simp only [headerSize]
  omega

/-- What a read of the watch comes to while there is something to read or it fails. -/
inductive ReadAnswer where
  | bytes (bytes : List UInt8)
  | interrupted
  | failed

/-- `ensure_unchanged`, over the reads before one that would block. -/
def ensureUnchanged (targets : List PathWatchTarget) :
    List ReadAnswer → Option (Except EngineError Unit)
  | [] => some (.ok ())
  | .interrupted :: rest => ensureUnchanged targets rest
  | .failed :: _ => some (.error unreadable)
  | .bytes bytes :: rest =>
      if bytes = [] then some (.error closedWatch)
      else match decodeEvents targets bytes 0 with
        | some (.ok ()) => ensureUnchanged targets rest
        | outcome => outcome

end Decoding

end PathWatch

end VmCell
