import FirmwareUpdate.Files
import FirmwareUpdate.Size
import FirmwareUpdate.Text.Quoted

/-! Firmware files: their selection by a path, the policy that says which may be sent, and the image
that is read once more before it is sent. An image that is read has the size of its selection. -/

namespace FirmwareUpdate.Firmware

structure File where
  name : String
  size : Nat
  path : String

inductive AccessError
  | metadata (path : String) (cause : Files.Error)
  | notFile (path : String)
  | noName (path : String)
  | content (path : String) (cause : Files.Error)
  | sizeChanged (path : String)

def AccessError.message : AccessError → String
  | .metadata path cause =>
      "failed to read metadata of " ++ Text.quoted path ++ ": " ++ cause.message
  | .notFile path => "failed since " ++ Text.quoted path ++ " is not a file"
  | .noName path => "failed to get file name of " ++ Text.quoted path
  | .content path cause => "failed to read firmware " ++ Text.quoted path ++ ": " ++ cause.message
  | .sizeChanged path =>
      "failed since firmware " ++ Text.quoted path ++ " changed size after selection"

def select (fs : Files) (path : String) : Except AccessError File :=
  match fs.resolve path with
  | .error e => .error (.metadata path e)
  | .ok (_, .directory _) => .error (.notFile path)
  | .ok (_, .file content) =>
      match Files.fileName? path with
      | none => .error (.noName path)
      | some name => .ok ⟨name, content.size, path⟩

def File.read (f : File) (fs : Files) : Except AccessError ByteArray :=
  match fs.read f.path with
  | .error e => .error (.content f.path e)
  | .ok content => if content.size = f.size then .ok content else .error (.sizeChanged f.path)

structure Policy where
  extension : String
  greatest : Nat

def Policy.standard : Policy := ⟨".bin", 5 * 1024 * 1024⟩

inductive Rejection
  | extension (name expected : String)
  | tooLarge (size : Nat) (greatest : String)

def Rejection.message : Rejection → String
  | .extension _ expected => s!"Invalid file type. Please select a {expected} file"
  | .tooLarge _ greatest => s!"File too large. Maximum size is {greatest}"

def Policy.Accepts (p : Policy) (f : File) : Prop :=
  p.extension.toList <:+ f.name.toList ∧ f.size ≤ p.greatest

structure Validated (p : Policy) where
  file : File
  accepted : p.Accepts file

def Policy.validate (p : Policy) (f : File) : Except Rejection (Validated p) :=
  if he : p.extension.toList <:+ f.name.toList then
    if hs : f.size ≤ p.greatest then .ok ⟨f, he, hs⟩
    else .error (.tooLarge f.size (Size.text p.greatest))
  else .error (.extension f.name p.extension)

end FirmwareUpdate.Firmware
