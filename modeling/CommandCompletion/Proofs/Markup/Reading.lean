import CommandCompletion.Proofs.Markup.Nesting

namespace CommandCompletion.Markup

-- What marked-up text is taken for: the tags in it that count, and what is left of it as text.
structure Reading where
  tags : List Text := []
  text : Text
deriving DecidableEq, Repr

def Chunk.counted? : Chunk → Option Text
  | tag inside => some inside
  | _ => none

def Chunk.text : Chunk → Text
  | plain text => text
  | kept inside => bracketed inside
  | tag _ => []

def read (marked : Text) : Reading where
  tags := (chunks (pieces marked)).filterMap Chunk.counted?
  text := (chunks (pieces marked)).flatMap Chunk.text

namespace Piece

-- The tag of a piece, unless an odd number of backslashes keeps it as text.
def counted? : Piece → Option Text
  | tag n inside => if n % 2 = 1 then none else some inside
  | _ => none

-- What is left of a piece as text.
def text : Piece → Text
  | plain n c => Markup.slashes (if c = '[' then n - 1 else n) ++ [c]
  | tag n inside => Markup.slashes (n / 2) ++ if n % 2 = 1 then bracketed inside else []
  | ending n => Markup.slashes n

-- Whether no backslash of a piece is lost.
def IsWhole : Piece → Prop
  | plain n c => c = .char '[' → n = 0
  | tag n _ => n = 0
  | ending _ => True

-- Whether no backslash of a piece is lost once its tag is guarded.
def IsGuardable : Piece → Prop
  | plain n c => c = .char '[' → n = 0
  | _ => True

-- Whether a piece is text and nothing else.
def IsBare (piece : Piece) : Prop :=
  piece.IsWhole ∧ piece.counted? = none

end Piece

section Pieces

variable {ps : List Piece} {text rest inside after : Text}

theorem counted?_addPlain (text : Text) (cs : List Chunk) :
    (addPlain text cs).filterMap Chunk.counted? = cs.filterMap Chunk.counted? := by
  unfold addPlain
  split <;> rfl

theorem text_addPlain (text : Text) (cs : List Chunk) :
    (addPlain text cs).flatMap Chunk.text = text ++ cs.flatMap Chunk.text := by
  unfold addPlain
  split
  · exact List.append_assoc _ _ _
  · rfl

theorem filterMap_counted?_cons (piece : Piece) (ps : List Piece) :
    (piece :: ps).filterMap Piece.counted? =
      piece.counted?.toList ++ ps.filterMap Piece.counted? := by
  rw [List.filterMap_cons]
  cases piece.counted? <;> rfl

theorem counted?_chunks (ps : List Piece) :
    (chunks ps).filterMap Chunk.counted? = ps.filterMap Piece.counted? := by
  induction ps with
  | nil => rfl
  | cons piece ps ih =>
    cases piece with
    | plain n c => rw [chunks, counted?_addPlain, ih]; rfl
    | ending n => rw [chunks, counted?_addPlain, ih]; rfl
    | tag n inside =>
      rw [chunks, counted?_addPlain, filterMap_counted?_cons, ← ih, Piece.counted?]
      split <;> rfl

theorem text_chunks (ps : List Piece) :
    (chunks ps).flatMap Chunk.text = ps.flatMap Piece.text := by
  induction ps with
  | nil => rfl
  | cons piece ps ih =>
    cases piece with
    | plain n c => rw [chunks, text_addPlain, ih]; rfl
    | ending n => rw [chunks, text_addPlain, ih]; rfl
    | tag n inside =>
      rw [chunks, text_addPlain, List.flatMap_cons, List.flatMap_cons, ih, ← List.append_assoc,
        Piece.text]
      split <;> rfl

theorem read_eq (marked : Text) :
    read marked =
      ⟨(pieces marked).filterMap Piece.counted?, (pieces marked).flatMap Piece.text⟩ := by
  rw [read, counted?_chunks, text_chunks]

theorem length_slashes (n : Nat) : (slashes n).length = n :=
  List.length_replicate

-- The characters that tags which count are spelled with.
def tagLength (tags : List Text) : Nat :=
  (tags.flatMap bracketed).length

-- A piece is left as text and as a tag, and what is lost of it are backslashes.
theorem Piece.length_text (piece : Piece) :
    piece.text.length + tagLength piece.counted?.toList ≤ piece.source.length ∧
      (piece.text.length + tagLength piece.counted?.toList = piece.source.length →
        piece.IsWhole) := by
  cases piece with
  | plain n c =>
    simp only [Piece.text, counted?, source, IsWhole, List.length_append, length_slashes, tagLength,
      Option.toList_none, List.flatMap_nil, List.length_nil, List.length_singleton]
    split
    · simp_all
      omega
    · simp_all
  | ending n => simp [Piece.text, counted?, source, IsWhole, tagLength]
  | tag n inside =>
    simp only [Piece.text, counted?, source, IsWhole, List.length_append, length_slashes, tagLength]
    split
    · simp only [Option.toList_none, List.flatMap_nil, List.length_nil]
      omega
    · simp only [Option.toList_some, List.flatMap_singleton, List.length_nil]
      omega

theorem tagLength_append (tags others : List Text) :
    tagLength (tags ++ others) = tagLength tags + tagLength others := by
  simp [tagLength]

theorem length_flatMap_text (ps : List Piece) :
    (ps.flatMap Piece.text).length + tagLength (ps.filterMap Piece.counted?) ≤
        (ps.flatMap Piece.source).length ∧
      ((ps.flatMap Piece.text).length + tagLength (ps.filterMap Piece.counted?) =
        (ps.flatMap Piece.source).length → ∀ piece ∈ ps, piece.IsWhole) := by
  induction ps with
  | nil => exact ⟨Nat.le_refl _, fun _ => List.forall_mem_nil _⟩
  | cons piece ps ih =>
    obtain ⟨hle, hwhole⟩ := piece.length_text
    simp only [filterMap_counted?_cons, tagLength_append, List.flatMap_cons, List.length_append]
    refine ⟨by omega, fun he => List.forall_mem_cons.mpr ⟨hwhole ?_, ih.2 ?_⟩⟩ <;> omega

-- If tags and text make up for the length of what is read, nothing is lost of it.
theorem isWhole_of_length {marked : Text} (h : (read marked).text.length +
    tagLength (read marked).tags = marked.length) : ∀ piece ∈ pieces marked, piece.IsWhole := by
  rw [read_eq] at h
  apply (length_flatMap_text (pieces marked)).2
  rw [source_pieces]
  exact h

theorem Piece.text_of_isBare {piece : Piece} (h : piece.IsBare) : piece.text = piece.source := by
  obtain ⟨whole, uncounted⟩ := h
  cases piece with
  | plain n c =>
    have hn : (if c = .char '[' then n - 1 else n) = n := by
      split
      · next hc => rw [whole hc]
      · rfl
    rw [Piece.text, hn]
    rfl
  | ending n => rfl
  | tag n inside =>
    obtain rfl : n = 0 := whole
    simp [counted?] at uncounted

-- Text is read as it stands exactly if each of its pieces is text and nothing else.
theorem read_eq_self_iff {text : Text} :
    read text = ⟨[], text⟩ ↔ ∀ piece ∈ pieces text, piece.IsBare := by
  constructor
  · intro h piece hp
    refine ⟨isWhole_of_length ?_ piece hp, ?_⟩
    · rw [h]
      rfl
    · rw [read_eq] at h
      exact List.filterMap_eq_nil_iff.mp (congrArg Reading.tags h) piece hp
  · intro bare
    have htags : (pieces text).filterMap Piece.counted? = [] :=
      List.filterMap_eq_nil_iff.mpr fun piece hp => (bare piece hp).2
    have htext : (pieces text).flatMap Piece.text = (pieces text).flatMap Piece.source :=
      List.flatMap_congr fun piece hp => Piece.text_of_isBare (bare piece hp)
    rw [read_eq, htags, htext, source_pieces]

end Pieces

end CommandCompletion.Markup
