import CommandCompletion.Files.Store
import CommandCompletion.Proofs.Data.Result
import Mathlib.Data.List.Basic

theorem String.fromUTF8?_toUTF8 (text : String) : String.fromUTF8? text.toUTF8 = some text :=
  dif_pos text.isValidUTF8

namespace CommandCompletion

namespace FilePath

def body (path : FilePath) : String :=
  "/".intercalate path.parts

theorem utf8ByteSize_text (path : FilePath) :
    path.text.utf8ByteSize = max 1 (path.root.utf8ByteSize + path.body.utf8ByteSize) := by
  unfold text body
  by_cases hroot : path.root = ""
  · by_cases hbody : "/".intercalate path.parts = ""
    · simp only [hroot, hbody, decide_true, Bool.and_self, ↓reduceIte]
      rfl
    · have pos : 0 < ("/".intercalate path.parts).utf8ByteSize := by
        rwa [Nat.pos_iff_ne_zero, ne_eq, String.utf8ByteSize_eq_zero_iff]
      simp [hroot, hbody]
      omega
  · have pos : 0 < path.root.utf8ByteSize := by
      rwa [Nat.pos_iff_ne_zero, ne_eq, String.utf8ByteSize_eq_zero_iff]
    simp [hroot]
    omega

-- The first parts of a path.
def upTo (path : FilePath) (n : Nat) : FilePath :=
  { path with parts := path.parts.take n }

theorem upTo_join (path : FilePath) (name : String) {n : Nat} (h : n ≤ path.parts.length) :
    (path.join name).upTo n = path.upTo n := by
  simp [upTo, join, List.take_append_of_le_length h]

-- A path is no shorter than the folders on the way to it.
theorem utf8ByteSize_text_upTo_le (path : FilePath) (n : Nat) :
    (path.upTo n).text.utf8ByteSize ≤ path.text.utf8ByteSize := by
  have hbody : (path.upTo n).body.utf8ByteSize ≤ path.body.utf8ByteSize := by
    unfold body upTo
    by_cases hfront : path.parts.take n = []
    · simp [hfront]
    by_cases hback : path.parts.drop n = []
    · exact Nat.le_of_eq (by rw [List.take_of_length_le (List.drop_eq_nil_iff.mp hback)])
    · conv_rhs => rw [← List.take_append_drop n path.parts,
        String.intercalate_append_of_ne_nil hfront hback]
      simp only [String.utf8ByteSize_append]
      omega
  have hroot : (path.upTo n).root = path.root := rfl
  rw [utf8ByteSize_text, utf8ByteSize_text, hroot]
  omega

end FilePath

namespace Store

variable {s s' : Store} {position target : Position} {path : FilePath} {parts : List String}

-- What stands at a position after something was put somewhere. The positions that are always
-- there cannot be put over.
theorem entry?_put (s : Store) (position other : Position) (entry : Entry) :
    Store.entry? (s.put position entry) other =
      if isGiven other then some .folder
      else if other = position then some entry
      else s.entry? other := by
  have skipped : ∀ entries : List (Position × Entry), other ≠ position →
      (entries.filter (·.1 ≠ position)).lookup other = entries.lookup other := by
    intro entries hne
    induction entries with
    | nil => rfl
    | cons head rest ih =>
      obtain ⟨place, found⟩ := head
      by_cases hplace : place = position
      · have hother : (other == place) = false := by simpa [hplace] using hne
        simp only [hplace, ne_eq, not_true_eq_false, decide_false, Bool.false_eq_true,
          not_false_eq_true, List.filter_cons_of_neg, List.lookup_cons]
        rw [← hplace, hother]
        simpa [hplace] using ih
      · rw [List.filter_cons_of_pos (by simpa using hplace), List.lookup_cons, List.lookup_cons, ih]
  unfold entry?
  split
  · rfl
  · simp only [put, List.lookup_cons]
    by_cases hne : other = position
    · simp [hne]
    · simp only [beq_eq_false_iff_ne.mpr hne, hne, ↓reduceIte]
      exact skipped s.entries hne

-- Folders remain folders.
def FoldersStay (s s' : Store) : Prop :=
  ∀ position, s.entry? position = some .folder → s'.entry? position = some .folder

theorem FoldersStay.locateFrom (stay : FoldersStay s s')
    (h : s.locateFrom position parts = .ok target) : s'.locateFrom position parts = .ok target := by
  induction parts generalizing position with
  | nil => exact h
  | cons part rest ih =>
    rw [Store.locateFrom] at h ⊢
    cases he : s.entry? position with
    | none => simp [he] at h
    | some entry =>
      cases entry with
      | file bytes => simp [he] at h
      | folder =>
        rw [stay position he]
        simp only [he] at h ⊢
        split at h
        · cases h
        · next short =>
          rw [if_neg short]
          exact ih h

theorem FoldersStay.locate (stay : FoldersStay s s') (h : s.locate path = .ok target) :
    s'.locate path = .ok target := by
  unfold Store.locate at h ⊢
  split at h
  · cases h
  · next short =>
    rw [if_neg short]
    exact stay.locateFrom h

theorem locateFrom_append {rest : List String}
    (h : s.locateFrom position (parts ++ rest) = .ok target) :
    ∃ middle, s.locateFrom position parts = .ok middle ∧
      s.locateFrom middle rest = .ok target := by
  induction parts generalizing position with
  | nil => exact ⟨position, rfl, h⟩
  | cons part parts ih =>
    rw [List.cons_append, locateFrom] at h
    rw [locateFrom]
    cases he : s.entry? position with
    | none => simp [he] at h
    | some entry =>
      cases entry with
      | file bytes => simp [he] at h
      | folder =>
        simp only [he] at h ⊢
        split at h
        · cases h
        · next short =>
          rw [if_neg short]
          exact ih h

theorem entry?_of_locateFrom_cons {part : String}
    (h : s.locateFrom position (part :: parts) = .ok target) :
    s.entry? position = some .folder := by
  rw [locateFrom] at h
  cases he : s.entry? position with
  | none => simp [he] at h
  | some entry =>
    cases entry with
    | file bytes => simp [he] at h
    | folder => rfl

-- All that stands in front of the last part of a path is a folder.
theorem exists_locate_upTo (h : s.locate path = .ok target) {n : Nat} (hn : n < path.parts.length) :
    ∃ place, s.locate (path.upTo n) = .ok place ∧ s.entry? place = some .folder := by
  unfold locate at h
  split at h
  · cases h
  · next short =>
    obtain ⟨part, rest, hrest⟩ := List.exists_cons_of_ne_nil
      (List.drop_eq_nil_iff.not.mpr (Nat.not_le.mpr hn))
    have whole := List.take_append_drop n path.parts
    rw [hrest] at whole
    rw [← whole] at h
    obtain ⟨place, hplace, hfrom⟩ := locateFrom_append h
    refine ⟨place, ?_, entry?_of_locateFrom_cons hfrom⟩
    have hshort : ¬maxPath < (path.upTo n).text.utf8ByteSize := by
      have := path.utf8ByteSize_text_upTo_le n
      omega
    rw [locate, if_neg hshort]
    exact hplace

-- Where all of them are there, no folder is made.
theorem makeParts_of_folders {n : Nat}
    (h : ∀ k ≤ n, ∃ place, s.locate (path.upTo k) = .ok place ∧ s.entry? place = some .folder) :
    s.makeParts path n = (.ok (), s) := by
  induction n with
  | zero => rfl
  | succ n ih =>
    obtain ⟨place, hplace, hfolder⟩ := h (n + 1) (Nat.le_refl _)
    unfold FilePath.upTo at hplace
    rw [makeParts, ih fun k hk => h k (Nat.le_succ_of_le hk)]
    simp only [makeFolder, hplace, bind, Except.bind, hfolder]

theorem makeFolders_of_locate_join {name : String} (h : s.locate (path.join name) = .ok target) :
    s.makeFolders path = (.ok (), s) := by
  have folders : ∀ k ≤ path.parts.length, ∃ place, s.locate (path.upTo k) = .ok place ∧
      s.entry? place = some .folder := by
    intro k hk
    rw [← path.upTo_join name hk]
    exact exists_locate_upTo h (by simp [FilePath.join]; omega)
  have short : ¬maxPath < path.text.utf8ByteSize := by
    obtain ⟨place, hplace, -⟩ := folders path.parts.length (Nat.le_refl _)
    unfold locate at hplace
    split at hplace
    · cases hplace
    · next hshort => simpa [FilePath.upTo] using hshort
  rw [makeFolders, if_neg short, makeParts_of_folders folders]

-- What a path leads to whose last part is the name of no given folder stands in the folder that the
-- parts before lead to.
theorem entry?_above_of_locate_join {name : String} (hname : name ∉ ["..", "/", superuser])
    (h : s.locate (path.join name) = .ok target) :
    s.entry? (above target) = some .folder ∧ isGiven target = false := by
  simp only [List.mem_cons, List.not_mem_nil, or_false, not_or] at hname
  obtain ⟨hdots, hslash, huser⟩ := hname
  unfold locate at h
  split at h
  · cases h
  · obtain ⟨middle, -, hlast⟩ := locateFrom_append (show _ = _ from h)
    have folder := entry?_of_locateFrom_cons hlast
    rw [locateFrom, folder] at hlast
    simp only at hlast
    split at hlast
    · cases hlast
    · rw [locateFrom] at hlast
      cases hlast
      have htop : middle ++ [name] ≠ ["/"] := by
        intro he
        have := congrArg List.getLast? he
        simp [hslash] at this
      have hhome : middle ++ [name] ≠ ["/", superuser] := by
        intro he
        have := congrArg List.getLast? he
        simp [huser] at this
      have hproper : ¬(middle ++ [name]).all (· = "..") := by simp [hdots]
      rw [above, if_neg htop, if_neg hproper, List.dropLast_concat]
      exact ⟨folder, by simp [isGiven, htop, hhome, hdots]⟩

-- The bytes of the file at a position.
def bytesAt (s : Store) (position : Position) : Option ByteArray :=
  match s.entry? position with
  | some (.file bytes) => some bytes
  | _ => none

-- No file was made, changed or taken away.
def SameFiles (s s' : Store) : Prop :=
  ∀ position, s'.bytesAt position = s.bytesAt position

theorem SameFiles.refl (s : Store) : SameFiles s s :=
  fun _ => rfl

theorem SameFiles.trans {s'' : Store} (h : SameFiles s s') (h' : SameFiles s' s'') :
    SameFiles s s'' :=
  fun position => (h' position).trans (h position)

theorem bytesAt_put (s : Store) (hp : isGiven position = false) (bytes : ByteArray)
    (other : Position) :
    (s.put position (.file bytes)).bytesAt other =
      if other = position then some bytes else s.bytesAt other := by
  unfold bytesAt
  rw [entry?_put]
  by_cases hother : isGiven other
  · have hne : other ≠ position := by
      rintro rfl
      simp [hp] at hother
    simp [hother, hne, entry?]
  · by_cases hne : other = position <;> simp [hother, hne, hp]

section MakeFolders

-- Making folders only puts them where nothing stands, so it keeps whatever that keeps.
variable {R : Store → Store → Prop} (refl : ∀ s, R s s)
  (trans : ∀ s s' s'', R s s' → R s' s'' → R s s'')
  (vacant : ∀ s position, s.entry? position = none → R s (s.put position .folder))

include refl vacant in
theorem makeFolder_keeps {last : Bool} (h : s.makeFolder path last = .ok s') : R s s' := by
  unfold makeFolder at h
  obtain ⟨position, -, h⟩ := bind_eq_ok_iff.mp h
  split at h
  · cases h
    exact refl s
  · split at h
    · cases h
    · cases h
      exact refl s
  · next hnone =>
    cases h
    exact vacant s position hnone

include refl trans vacant in
theorem makeParts_keeps (s : Store) (path : FilePath) (n : Nat) : R s (s.makeParts path n).2 := by
  induction n with
  | zero => exact refl s
  | succ n ih =>
    rw [makeParts]
    split
    · next hparts =>
      rw [hparts] at ih
      exact ih
    · next hparts =>
      rw [hparts] at ih
      split
      · exact ih
      · next hmade => exact trans _ _ _ ih (makeFolder_keeps refl vacant hmade)

include refl trans vacant in
theorem makeFolders_keeps (s : Store) (path : FilePath) : R s (s.makeFolders path).2 := by
  unfold makeFolders
  split
  · exact refl s
  · exact makeParts_keeps refl trans vacant s path _

end MakeFolders

theorem makeFolders_sameFiles (s : Store) (path : FilePath) :
    SameFiles s (s.makeFolders path).2 := by
  refine makeFolders_keeps .refl (fun _ _ _ => .trans) (fun s position hnone other => ?_) s path
  unfold bytesAt
  rw [entry?_put]
  by_cases hother : isGiven other
  · simp [hother, entry?]
  · by_cases hne : other = position
    · subst hne
      simp [hother, hnone]
    · simp [hother, hne]

theorem makeFolders_environment (s : Store) (path : FilePath) :
    (s.makeFolders path).2.environment = s.environment :=
  makeFolders_keeps (R := fun s s' => s'.environment = s.environment) (fun _ => rfl)
    (fun _ _ _ h h' => h'.trans h) (fun _ _ _ => rfl) s path

theorem write_eq_ok_iff {bytes : ByteArray} :
    s.write path bytes = .ok s' ↔
      ∃ position, s.locate path = .ok position ∧ s.entry? position ≠ some .folder ∧
        s.entry? (above position) = some .folder ∧ s' = s.put position (.file bytes) := by
  unfold write
  rw [bind_eq_ok_iff]
  refine exists_congr fun position => and_congr_right fun _ => ?_
  cases hentry : s.entry? position with
  | none => cases habove : s.entry? (above position) with
    | none => simp
    | some entry => cases entry <;> simp [eq_comm]
  | some entry =>
    cases entry with
    | folder => simp
    | file old => cases habove : s.entry? (above position) with
      | none => simp
      | some entry => cases entry <;> simp [eq_comm]

end Store

end CommandCompletion
