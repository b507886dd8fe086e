import FirmwareUpdate.Firmware
import FirmwareUpdate.Proofs.Files

/-! Selecting a firmware file and reading it later. Every path to a file can be selected and no other,
and what is read later is what the path leads to then, as long as it has the size of the selection. -/

namespace FirmwareUpdate.Firmware

open Files (Final)

variable {fs later : Files} {path : String} {place : Location} {content data : ByteArray} {f : File}

lemma select_path (h : select fs path = .ok f) : f.path = path := by
  simp only [select] at h
  split at h
  · cases h
  · cases h
  · split at h
    · cases h
    · cases h
      rfl

lemma select_file (h : fs.resolve path = .ok (place, .file content)) :
    ∃ name, select fs path = .ok ⟨name, content.size, path⟩ ∧ Final path name ∧
      place.head? = some name := by
  obtain ⟨name, hname, hfinal⟩ := Files.resolve_named h
  exact ⟨name, by simp only [select, h, hname], hfinal⟩

lemma select_holds (h : select fs path = .ok f) : ∃ content, fs.Holds path content := by
  cases hr : fs.resolve path with
  | error e => simp [select, hr] at h
  | ok r =>
    obtain ⟨place, n⟩ := r
    cases n with
    | directory => simp [select, hr] at h
    | file content => exact ⟨content, place, hr⟩

lemma select_noName (p : String) : select fs path ≠ .error (.noName p) := by
  intro h
  cases hr : fs.resolve path with
  | error e => simp [select, hr] at h
  | ok r =>
    obtain ⟨place, n⟩ := r
    cases n with
    | directory => simp [select, hr] at h
    | file content =>
      obtain ⟨name, hselect, -⟩ := select_file hr
      rw [hselect] at h
      cases h

variable {p : Policy}

lemma validate_file {v : Validated p} (h : p.validate f = .ok v) : v.file = f := by
  simp only [Policy.validate] at h
  split_ifs at h
  cases h
  rfl

lemma validate_validated (v : Validated p) : p.validate v.file = .ok v := by
  simp only [Policy.validate, dif_pos v.accepted.1, dif_pos v.accepted.2]

lemma read_ok : f.read fs = .ok data ↔ fs.read f.path = .ok data ∧ data.size = f.size := by
  simp only [File.read]
  cases fs.read f.path with
  | error e => simp
  | ok content =>
    by_cases h : content.size = f.size
    · simp only [if_pos h, Except.ok.injEq]
      constructor
      · rintro rfl
        exact ⟨rfl, h⟩
      · exact And.left
    · simp only [if_neg h, Except.ok.injEq]
      constructor
      · intro hc
        cases hc
      · rintro ⟨rfl, hc⟩
        exact absurd hc h

lemma read_iff (h : f.path = path) :
    f.read fs = .ok data ↔ fs.Holds path data ∧ data.size = f.size := by
  rw [read_ok, Files.read_iff, h]

lemma read_error_iff (h : f.path = path) :
    (∃ e, f.read fs = .error e) ↔ ∀ data, fs.Holds path data → data.size ≠ f.size := by
  constructor
  · rintro ⟨e, he⟩ data hd hsize
    rw [(read_iff h).mpr ⟨hd, hsize⟩] at he
    cases he
  · intro hn
    cases hr : f.read fs with
    | error e => exact ⟨e, rfl⟩
    | ok data =>
      obtain ⟨hd, hsize⟩ := (read_iff h).mp hr
      exact absurd hsize (hn data hd)

def image (octets : List UInt8) : ByteArray := ⟨octets.toArray⟩

def stored (octets : List UInt8) : Files :=
  Files.empty.applyAll [.makeDirectory "d", .write "d/f.bin" (image octets)]

-- a file behind a directory that has been closed since is there, and cannot be read
example : ((stored [1, 2]).apply (.close "d")).read "d/f.bin" = .error .denied := rfl

end FirmwareUpdate.Firmware
