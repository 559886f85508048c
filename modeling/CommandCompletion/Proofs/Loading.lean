import CommandCompletion.Loading
import CommandCompletion.Program.World
import CommandCompletion.Proofs.Data.Value
import CommandCompletion.Proofs.Json.Bounds
import CommandCompletion.Proofs.Registries

namespace CommandCompletion.Loading

open Program (isReportedLoad)

variable {α β : Type} {s : Store} {what : DataFile} {path : Text} {file : FilePath}
  {fault : LoadFault}

-- A loader comes to its end, or tells what kept it from that.
def Reported (loaded : Except LoadFault α) : Prop :=
  ∀ fault, loaded = .error fault → isReportedLoad fault = true

-- The file that a path names: its home is known, and nothing in the path keeps the file from
-- being looked for.
def Names (s : Store) (path : Text) (file : FilePath) : Prop :=
  (FilePath.ofText path).expandHome s.home? = some file ∧ path.hasHalf = false ∧
    file.hasNull = false

-- Bytes that are text, in which no number is too long and no value too deep.
def IsDocument (bytes : ByteArray) : Prop :=
  ∃ text, String.fromUTF8? bytes = some text ∧
    Json.read (Text.unifyLineEnds text.toList) ≠ .error .longNumber ∧
    Json.read (Text.unifyLineEnds text.toList) ≠ .error .tooDeep

-- A path names a file, and what can be read from the file is a document.
def Legible (s : Store) (path : Text) : Prop :=
  ∃ file, Names s path file ∧ ∀ bytes, s.read file = .ok bytes → IsDocument bytes

theorem reported_ok (a : α) : Reported (.ok a : Except LoadFault α) :=
  nofun

theorem reported_error :
    Reported (.error fault : Except LoadFault α) ↔ isReportedLoad fault = true :=
  ⟨fun h => h fault rfl, fun h _ he => Except.error.inj he ▸ h⟩

-- What is done with the data of a file adds its own faults to those of reading it.
theorem reported_bind {loaded : Except LoadFault α} {next : α → Except LoadFault β} :
    Reported (loaded >>= next) ↔ Reported loaded ∧ ∀ a, loaded = .ok a → Reported (next a) := by
  cases loaded with
  | error fault => simp [bind, Except.bind, reported_error]
  | ok a => simp [bind, Except.bind, reported_ok]

-- The data that a text stands for.
def parse (what : DataFile) (file : FilePath) (text : List Char) : Except LoadFault Value :=
  match Json.read text with
  | .ok value => .ok value
  | .error .longNumber => .error .longNumber
  | .error .tooDeep => .error .tooDeep
  | .error (.malformed mistake place) => .error (.malformed what file mistake place)

theorem readJson_of_expandHome (hfile : (FilePath.ofText path).expandHome s.home? = some file)
    (hhalf : path.hasHalf = false) :
    readJson s what path = readText s what file >>= parse what file := by
  simp only [readJson, hfile, hhalf]
  rfl

theorem reported_parse_iff {text : List Char} :
    Reported (parse what file text) ↔
      Json.read text ≠ .error .longNumber ∧ Json.read text ≠ .error .tooDeep := by
  unfold parse
  split <;> next hread => simp [hread, reported_ok, reported_error, isReportedLoad]

theorem reported_readText_iff :
    Reported (readText s what file) ↔ file.hasNull = false ∧
      ∀ bytes, s.read file = .ok bytes → (String.fromUTF8? bytes).isSome := by
  unfold readText
  cases hnull : file.hasNull with
  | true => simp [reported_error, isReportedLoad]
  | false =>
    cases hread : s.read file with
    | error error => simp [reported_error, isReportedLoad]
    | ok bytes => cases htext : String.fromUTF8? bytes <;>
        simp [htext, reported_ok, reported_error, isReportedLoad]

theorem readText_eq_ok_iff {text : List Char} :
    readText s what file = .ok text ↔ file.hasNull = false ∧ ∃ bytes content,
      s.read file = .ok bytes ∧ String.fromUTF8? bytes = some content ∧
        Text.unifyLineEnds content.toList = text := by
  unfold readText
  cases hnull : file.hasNull with
  | true => simp
  | false =>
    cases hread : s.read file with
    | error error => simp
    | ok bytes => cases htext : String.fromUTF8? bytes <;> simp [htext]

theorem reported_readJson_iff : Reported (readJson s what path) ↔ Legible s path := by
  cases hfile : (FilePath.ofText path).expandHome s.home? with
  | none =>
    refine iff_of_false (fun h => ?_) ?_
    · have stopped : readJson s what path = .error .noHome := by rw [readJson, hfile]
      cases h _ stopped
    · rintro ⟨file, ⟨hother, -⟩, -⟩
      cases hfile.symm.trans hother
  | some file =>
    cases hhalf : path.hasHalf with
    | true =>
      refine iff_of_false (fun h => ?_) ?_
      · have stopped : readJson s what path = .error .halfInPath := by
          simp only [readJson, hfile, hhalf]
          rfl
        cases h _ stopped
      · rintro ⟨file, ⟨-, hother, -⟩, -⟩
        cases hhalf.symm.trans hother
    | false =>
      rw [readJson_of_expandHome hfile hhalf, reported_bind, reported_readText_iff]
      simp only [readText_eq_ok_iff, reported_parse_iff]
      constructor
      · rintro ⟨⟨hnull, htext⟩, hparse⟩
        refine ⟨file, ⟨hfile, hhalf, hnull⟩, fun bytes hread => ?_⟩
        obtain ⟨text, hcontent⟩ := Option.isSome_iff_exists.mp (htext bytes hread)
        exact ⟨text, hcontent, hparse _ ⟨hnull, bytes, text, hread, hcontent, rfl⟩⟩
      · rintro ⟨other, ⟨hother, -, hnull⟩, hdocument⟩
        cases hfile.symm.trans hother
        refine ⟨⟨hnull, fun bytes hread => ?_⟩, ?_⟩
        · obtain ⟨text, hcontent, -⟩ := hdocument bytes hread
          rw [hcontent]
          rfl
        · rintro _ ⟨-, bytes, text, hread, hcontent, rfl⟩
          obtain ⟨text', hcontent', hparse⟩ := hdocument bytes hread
          cases hcontent.symm.trans hcontent'
          exact hparse

theorem reported_grammar_iff : Reported (grammar s path) ↔ Legible s path := by
  rw [grammar, reported_bind, reported_readJson_iff, and_iff_left]
  intro data _
  split
  · exact reported_ok _
  · exact reported_error.mpr rfl

theorem reported_registries_iff :
    Reported (registries s path) ↔ Legible s path ∧
      ∀ data, readJson s .registries path = .ok data → ¬Registries.Unlisted data := by
  rw [registries, reported_bind, reported_readJson_iff]
  refine and_congr_right fun _ => forall₂_congr fun data _ => ?_
  rw [← Registries.ofValue_eq_notListed_iff]
  split
  · next hdata => simp [hdata, reported_ok]
  · next fault hdata =>
    rw [reported_error, hdata]
    cases fault <;> simp [isReportedLoad]

-- A text with few brackets in it and no long run of digits is a document, whatever else it is.
theorem isDocument_of_bounds {bytes : ByteArray} {text : String}
    (htext : String.fromUTF8? bytes = some text)
    (shallow : Json.openings (Text.unifyLineEnds text.toList) ≤ Json.maxDepth)
    (short : ¬Json.HasLongRun (Text.unifyLineEnds text.toList)) : IsDocument bytes :=
  ⟨text, htext, fun h => short (Json.hasLongRun_of_read h),
    fun h => absurd (Json.maxDepth_lt_of_read h) (by omega)⟩

-- A working directory with one data file.
def storeOf (bytes : ByteArray) : Store where
  entries := [(["data.json"], .file bytes)]

end CommandCompletion.Loading
