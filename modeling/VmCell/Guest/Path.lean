import VmCell.Core.Errors
import VmCell.Core.Records
import VmCell.Encoding.Text
import VmCell.Guest.Commands

/-! Paths inside a guest workspace: what the client accepts, and how it writes them
for Windows and for POSIX guests. -/

set_option autoImplicit false
namespace VmCell

open Text (isControl)

section DeviceNames

def asciiUppercase (text : List Char) : List Char := text.map Char.toUpper

def windowsDeviceNames : List String :=
  ["CON", "PRN", "AUX", "NUL",
    "COM1", "COM2", "COM3", "COM4", "COM5", "COM6", "COM7", "COM8", "COM9",
    "COM¹", "COM²", "COM³",
    "LPT1", "LPT2", "LPT3", "LPT4", "LPT5", "LPT6", "LPT7", "LPT8", "LPT9",
    "LPT¹", "LPT²", "LPT³"]

def isWindowsDeviceName (segment : List Char) : Bool :=
  let base := segment.takeWhile (· ≠ '.')
  windowsDeviceNames.contains (String.ofList (asciiUppercase base))

end DeviceNames

namespace GuestPath

def replace (old new : Char) (text : List Char) : List Char :=
  text.map fun letter => if letter = old then new else letter

def parse (value : String) : Except GuestIoError GuestPath :=
  let text := value.toList
  if text = [] ∨ text.head? = some '\\' ∨ text.head? = some '/' ∨ text.contains ':' ∨
      text.contains '\x00' ∨ text.any isControl then
    .error .pathViolation
  else
    let normalized := replace '/' '\\' text
    let segments := normalized.splitOn '\\'
    if segments.any fun segment =>
        segment.isEmpty || (segment = ['.'] || segment = ['.', '.']) ||
          (segment.getLast? = some '.' || segment.getLast? = some ' ') ||
          isWindowsDeviceName segment then
      .error .pathViolation
    else .ok ⟨String.ofList normalized⟩

def asStr (path : GuestPath) : String := path.text

/-- The text after the last separator. -/
def fileName (path : GuestPath) : String :=
  String.ofList (path.text.toList.reverse.takeWhile (· ≠ '\\')).reverse

def asPosix (path : GuestPath) : String := String.ofList (replace '\\' '/' path.text.toList)

end GuestPath

/-- The path of the POSIX guest that a copy for this cell opens. -/
def guestPath (cellId : CellId) (path : GuestPath) : String :=
  Qga.workspaceRoot cellId ++ "/" ++ path.asPosix

end VmCell
