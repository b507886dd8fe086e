/-! How an upload fails: the request breaks, it is cancelled, or the device answers with something
other than a success. -/

namespace FirmwareUpdate.Upload

inductive Failure
  | network (reason : String)
  | cancelled
  | http (status : Nat)
  | malformed (reason : String)
  | rejected (message : String)
  deriving DecidableEq

namespace Failure

def message : Failure → String
  | .network reason => s!"Network error during upload: {reason}"
  | .cancelled => "Upload cancelled"
  | .http status => s!"Upload failed (HTTP {status})"
  | .malformed reason => s!"Invalid server response: {reason}"
  | .rejected message => message

def isCancelled : Failure → Bool
  | .cancelled => true
  | _ => false

end Failure

end FirmwareUpdate.Upload
