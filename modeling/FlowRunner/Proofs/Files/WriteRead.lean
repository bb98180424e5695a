import FlowRunner.Files.Disk
import FlowRunner.Proofs.Value.Shape

/-!
This module contains what a file holds after it was written: a path that can be written reads what
was written there last, and nothing else changes. A file that is new turns no path that could be
followed into another one, as only folders are followed.
-/

namespace FlowRunner.Disk

variable {d d' : Disk} {path : String} {place : Place} {content : Content}

def Writable (d : Disk) (path : String) (place : Place) : Prop :=
  d.locateNew path = .ok place ∧ d.isFolder place = false

theorem writable_of_name {name : String} (parts : name.splitOn "/" = [name])
    (plain : name.contains '\x00' = false) (short : name.utf8ByteSize ≤ maxPathSize)
    (entered : enter [] name = .ok [name]) (file : d.isFolder [name] = false) :
    d.Writable name [name] := by
  have split : partsOf name = .ok ([], [name]) := by
    unfold partsOf
    simp [parts, plain, short]
  refine ⟨?_, file⟩
  unfold locateNew locate
  simp [split, bind, Except.bind, walk, entered]

theorem walk_of_folders {here : Place} {parts : List String} (same : d'.folders = d.folders)
    (walked : d.walk here parts = .ok place) : d'.walk here parts = .ok place := by
  have folder (place : Place) : d'.isFolder place = d.isFolder place := by
    unfold isFolder
    rw [same]
  induction parts generalizing here with
  | nil => exact walked
  | cons part rest ih =>
    unfold walk at walked ⊢
    cases entered : enter here part with
    | error problem => simp [entered, bind, Except.bind] at walked
    | ok next =>
      simp only [entered, bind, Except.bind, folder] at walked ⊢
      split
      · next isFolder => exact ih (by simpa [isFolder] using walked)
      · next isFolder =>
        simp only [isFolder, Bool.false_eq_true, if_false] at walked
        split at walked <;> cases walked

theorem locate_of_folders (same : d'.folders = d.folders) (located : d.locate path = .ok place) :
    d'.locate path = .ok place := by
  unfold locate at located ⊢
  cases parts : partsOf path with
  | error problem => simp [parts, bind, Except.bind] at located
  | ok split =>
    simp only [parts, bind, Except.bind] at located ⊢
    cases walked : d.walk split.1 split.2.dropLast with
    | error problem => simp [walked] at located
    | ok folder => simpa [walked, walk_of_folders same walked] using located

theorem locate_of_locateNew (located : d.locateNew path = .ok place) :
    d.locate path = .ok place := by
  unfold locateNew at located
  cases parts : partsOf path with
  | error problem => simp [parts, bind, Except.bind] at located
  | ok split =>
    simp only [parts, bind, Except.bind] at located
    split at located
    · split at located <;> cases located
    · exact located

theorem not_writable_of_missing {folder name : String} (parts : path.splitOn "/" = [folder, name])
    (entered : enter [] folder = .ok [folder]) (missing : d.isFolder [folder] = false) :
    ¬∃ place, d.Writable path place := by
  have named : folder ≠ "" := by
    rintro rfl
    cases entered
  have walked : ∃ problem, d.walk [] [folder] = .error problem := by
    unfold walk
    simp only [entered, bind, Except.bind, missing, Bool.false_eq_true, if_false]
    split
    · exact ⟨_, rfl⟩
    · exact ⟨_, rfl⟩
  obtain ⟨problem, walked⟩ := walked
  rintro ⟨place, located, -⟩
  have located := locate_of_locateNew located
  unfold locate partsOf at located
  split at located
  · cases located
  · split at located
    · cases located
    · simp [parts, named, bind, Except.bind, walked] at located

theorem find?_put (files : List (Place × Content)) (place : Place) (content : Content) :
    (put files place content).find? (·.1 == place) = some (place, content) := by
  induction files with
  | nil => simp [put]
  | cons f rest ih =>
    unfold put
    split
    · simp
    · next other => simp [other, ih]

theorem find?_put_of_ne {other : Place} (files : List (Place × Content)) (content : Content)
    (ne : other ≠ place) :
    (put files place content).find? (·.1 == other) = files.find? (·.1 == other) := by
  induction files with
  | nil => simp [put, ne.symm]
  | cons f rest ih =>
    unfold put
    split
    · next here =>
      have there : f.1 ≠ other := by
        rw [eq_of_beq here]
        exact ne.symm
      simp [ne.symm, there]
    · rw [List.find?_cons, List.find?_cons, ih]

def withFile (d : Disk) (place : Place) (content : Content) : Disk :=
  { d with files := put d.files place content }

theorem write_of_writable (writable : d.Writable path place) (content : Content) :
    d.write path content = .ok (d.withFile place content) := by
  obtain ⟨located, file⟩ := writable
  unfold write
  rw [located]
  simp [bind, Except.bind, file, pure, Except.pure, withFile]

theorem write_eq_ok_iff :
    d.write path content = .ok d' ↔
      ∃ place, d.Writable path place ∧ d' = d.withFile place content := by
  constructor
  · intro h
    unfold write at h
    obtain ⟨place, located, h⟩ := bind_eq_ok_iff.mp h
    split at h
    · cases h
    · next file => exact ⟨place, ⟨located, by simpa using file⟩, (Except.ok.inj h).symm⟩
  · rintro ⟨place, writable, rfl⟩
    exact write_of_writable writable content

theorem content?_withFile_of_ne {other : Place} (ne : other ≠ place) :
    (d.withFile place content).content? other = d.content? other := by
  unfold content? withFile
  rw [find?_put_of_ne _ _ ne]

theorem read_withFile (writable : d.Writable path place) (content : Content) :
    (d.withFile place content).read path = .ok content := by
  obtain ⟨located, file⟩ := writable
  have folders : (d.withFile place content).folders = d.folders := rfl
  have after := locate_of_folders folders (locate_of_locateNew located)
  have same : (d.withFile place content).isFolder place = false := file
  have found : (d.withFile place content).content? place = some content := by
    unfold content? withFile
    rw [find?_put]
    rfl
  unfold read
  rw [after]
  simp [bind, Except.bind, same, found, pure, Except.pure]

end FlowRunner.Disk
