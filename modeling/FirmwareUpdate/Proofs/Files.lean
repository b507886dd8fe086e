import FirmwareUpdate.Files
import FirmwareUpdate.Proofs.Text.Parts

/-! Where a path leads. A path that leads to a file ends with the name of that file: after a slash, a
dot or two dots there is nothing but a directory. -/

namespace FirmwareUpdate.Files

variable {fs : Files} {l place : Location} {n : Node} {path : String} {content data : ByteArray}

def Holds (fs : Files) (path : String) (content : ByteArray) : Prop :=
  ∃ place, fs.resolve path = .ok (place, .file content)

lemma Holds.unique (h : fs.Holds path content) (h' : fs.Holds path data) : content = data := by
  obtain ⟨place, hp⟩ := h
  obtain ⟨place', hp'⟩ := h'
  cases hp.symm.trans hp'
  rfl

lemma read_iff : fs.read path = .ok content ↔ fs.Holds path content := by
  rw [read, Holds]
  cases fs.resolve path with
  | error e => simp
  | ok r =>
    obtain ⟨place, n⟩ := r
    cases n <;> simp

def Named (s : List Char) : Prop := s ≠ [] ∧ s ≠ ['.'] ∧ s ≠ ['.', '.']

/-- A name that is the last part of a path, whatever stands before. -/
structure Final (path name : String) : Prop where
  named : Named name.toList
  whole : '/' ∉ name.toList
  last : path = name ∨ ∃ before, path.toList = before ++ '/' :: name.toList

lemma walk_file {searchable : Bool} {ss : List (List Char)}
    (h : fs.walk l (.directory searchable) ss = .ok (place, .file content)) :
    ∃ front s, ss = front ++ [s] ∧ Named s ∧ place.head? = some (String.ofList s) := by
  induction ss generalizing l searchable with
  | nil => cases h
  | cons s ss ih =>
    have hrest : ∀ l b, fs.walk l (.directory b) ss = .ok (place, .file content) →
        ∃ front t, s :: ss = front ++ [t] ∧ Named t ∧ place.head? = some (String.ofList t) := by
      intro l b h
      obtain ⟨front, t, rfl, ht⟩ := ih h
      exact ⟨s :: front, t, rfl, ht⟩
    simp only [walk] at h
    split_ifs at h with hempty _ hdot hup hlong
    · exact hrest l _ h
    · exact hrest l _ h
    · exact hrest l.tail _ h
    · split at h
      · cases h
      · next n hn =>
        cases n with
        | directory => exact hrest _ _ h
        | file found =>
          cases ss with
          | nil =>
            cases h
            exact ⟨[], s, rfl, ⟨hempty, hdot, hup⟩, rfl⟩
          | cons t ss => cases h

lemma start_split (fs : Files) (ss : List (List Char)) : ∃ front, ss = front ++ (fs.start ss).2 := by
  unfold start
  split
  · exact ⟨[[]], rfl⟩
  · exact ⟨[], rfl⟩

lemma resolve_file (h : fs.resolve path = .ok (place, .file content)) :
    ∃ front s, Text.parts '/' path.toList = front ++ [s] ∧ Named s ∧
      place.head? = some (String.ofList s) := by
  simp only [resolve] at h
  split_ifs at h
  obtain ⟨before, hstart⟩ := start_split fs (Text.parts '/' path.toList)
  obtain ⟨front, s, hs, hnamed⟩ := walk_file h
  exact ⟨before ++ front, s, by rw [List.append_assoc, ← hs, ← hstart], hnamed⟩

lemma fileName?_last {front : List (List Char)} {s : List Char}
    (hs : Text.parts '/' path.toList = front ++ [s]) (h : Named s) :
    fileName? path = some (String.ofList s) := by
  obtain ⟨hempty, hdot, hup⟩ := h
  have hkept : [s].filter (fun s => s ≠ [] ∧ s ≠ ['.']) = [s] := by simp [hempty, hdot]
  simp only [fileName?, hs, List.filter_append, hkept, List.getLast?_concat, if_neg hup]

lemma resolve_named (h : fs.resolve path = .ok (place, .file content)) :
    ∃ name, fileName? path = some name ∧ Final path name ∧ place.head? = some name := by
  obtain ⟨front, s, hs, hnamed, hplace⟩ := resolve_file h
  refine ⟨String.ofList s, fileName?_last hs hnamed, ?_, hplace⟩
  obtain ⟨hslash, hlast⟩ := Text.parts_last hs
  constructor
  · rwa [String.toList_ofList]
  · rwa [String.toList_ofList]
  · rw [String.toList_ofList]
    exact hlast.imp_left fun h => by rw [← h, String.ofList_toList]

end FirmwareUpdate.Files
