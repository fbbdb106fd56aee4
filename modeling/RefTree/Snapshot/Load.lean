import RefTree.Document.Reader
import RefTree.Note
import RefTree.Snapshot
import RefTree.Text.Utf8

namespace RefTree

open Document

/-!
# Loading a snapshot from a file

A snapshot file is octets that must be UTF-8, hold lines ended in any of the three usual ways, and
be one document.  Whatever is wrong with the file is reported with its path; only an integer of
too many digits is reported by itself.
-/

/-- What stands at a path of a file system.  A path that is too long cannot be looked up at all.  A
file that exists but cannot be read comes with what the system reports about it. -/
inductive Entry where
  | missing
  | tooLong
  | directory
  | unreadable (report : String)
  | file (octets : List UInt8)
  deriving DecidableEq, Repr

def Text.Utf8.Reason.message : Text.Utf8.Reason -> String
  | .invalidStart => "invalid start byte"
  | .invalidContinuation => "invalid continuation byte"
  | .unexpectedEnd => "unexpected end of data"

def Text.Utf8.Defect.report (defect : Text.Utf8.Defect) : String :=
  let place :=
    if defect.count = 1 then
      "byte 0x" ++ String.ofList (Text.hexDigits 2 defect.octet.toNat) ++ " in position " ++
        defect.position.repr
    else
      "bytes in position " ++ defect.position.repr ++ "-" ++
        (defect.position + defect.count - 1).repr
  "'utf-8' codec can't decode " ++ place ++ ": " ++ defect.reason.message

/-- Why a document cannot be taken from octets. -/
inductive OctetsFault where
  | notText (defect : Text.Utf8.Defect)
  | malformed (report : String)
  | integerTooLong (digits : Nat)
  deriving DecidableEq, Repr

/-- The document in octets. -/
def Document.ofOctets (octets : List UInt8) : Except OctetsFault Value :=
  match Text.Utf8.decode octets with
  | .error defect => .error (.notText defect)
  | .ok chars =>
      let chars := Text.unifyLineEnds chars
      match parse chars with
      | .ok value => .ok value
      | .error (.malformed what position) =>
          .error (.malformed (malformationReport chars what position))
      | .error (.integerTooLong digits) => .error (.integerTooLong digits)

namespace Snapshot

def documentAt (path : Path) : Entry -> Except Fault Value
  | .missing =>
      .error (.cannotLoad path.text
        ("[Errno 2] No such file or directory: " ++ Text.quoted path.text))
  | .tooLong => .error (.cannotLoad path.text (Fault.pathTooLong path.text).message)
  | .directory =>
      .error (.cannotLoad path.text ("[Errno 21] Is a directory: " ++ Text.quoted path.text))
  | .unreadable report => .error (.cannotLoad path.text report)
  | .file octets =>
      match Document.ofOctets octets with
      | .ok value => .ok value
      | .error (.notText defect) => .error (.cannotLoad path.text defect.report)
      | .error (.malformed report) => .error (.cannotLoad path.text report)
      | .error (.integerTooLong digits) => .error (.integerTooLong digits)

def load (path : Path) (entry : Entry) : Except Fault Snapshot := do
  ofValue (<- documentAt path entry)

/-- The note made once the document of a snapshot has been read. -/
def loadNotes (path : Path) (entry : Entry) : List Note :=
  match documentAt path entry with
  | .ok _ => [⟨.loading, "loaded snapshot " ++ path.text⟩]
  | .error _ => []

end Snapshot
end RefTree
