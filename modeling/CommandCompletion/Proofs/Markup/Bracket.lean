import CommandCompletion.Proofs.Markup.Reading

namespace CommandCompletion.Markup

-- What stands behind a bracket that opens a tag.
def IsOpening (after : Text) : Prop :=
  ∃ inside rest, IsTag inside ∧ after = inside ++ .char ']' :: rest

-- Text that is not marked up at all: no bracket in it opens a tag, and none is behind a backslash.
def Bare (text : Text) : Prop :=
  ∀ before after, text = before ++ .char '[' :: after →
    ¬IsOpening after ∧ before.getLast? ≠ some (.char '\\')

-- Text that can be guarded: only brackets that open tags are behind backslashes.
def Guardable (text : Text) : Prop :=
  ∀ before after, text = before ++ .char '[' :: after → before.getLast? = some (.char '\\') →
    IsOpening after

variable {text rest inside after : Text} {front ps : List Piece} {piece : Piece} {n k : Nat}

theorem bare_of_unbracketed (h : .char '[' ∉ text) : Bare text := by
  rintro before after rfl
  exact absurd (List.mem_append_right _ List.mem_cons_self) h

theorem Bare.guardable (h : Bare text) : Guardable text :=
  fun before after he hslash => absurd hslash (h before after he).2

theorem isOpening_of_tag? (h : tag? text = some (inside, after)) : IsOpening text :=
  ⟨inside, after, isTag_of_tag? h, eq_of_tag? h⟩

theorem tag?_eq_none_iff_not_isOpening : tag? text = none ↔ ¬IsOpening text := by
  constructor
  · rintro hnone ⟨inside, rest, htag, rfl⟩
    rw [tag?_append htag] at hnone
    cases hnone
  · intro closed
    cases htag : tag? text with
    | none => rfl
    | some found => exact absurd (isOpening_of_tag? htag) closed

theorem slashes_add (n m : Nat) : slashes (n + m) = slashes n ++ slashes m :=
  List.replicate_append_replicate.symm

theorem slashes_one : slashes 1 = [.char '\\'] :=
  rfl

theorem getLast?_append_slashes {before : Text} (h : k ≠ 0) :
    (before ++ slashes k).getLast? = some (.char '\\') := by
  obtain ⟨k, rfl⟩ := Nat.exists_eq_succ_of_ne_zero h
  rw [Nat.succ_eq_add_one, slashes_add, slashes_one, ← List.append_assoc, List.getLast?_concat]

-- How a text is cut in front of a bracket: into pieces and the backslashes right before the
-- bracket. `n` backslashes stand before the text.
structure Cut (n : Nat) (text : Text) (front : List Piece) (k : Nat) : Prop where
  ending : ∀ more, piecesAfter n (text ++ slashes more) = front ++ [.ending (k + more)]
  bracket : ∀ rest, piecesAfter n (text ++ .char '[' :: rest) =
    front ++ piecesAfter k (.char '[' :: rest)
  solid : (front.flatMap Piece.source).getLast? ≠ some (.char '\\')

-- Text that opens no tag and closes none that was open before it.
def IsApart (more : Text) : Prop :=
  tag? more = none ∧ (more.dropWhile staysInTag).head? ≠ some (.char ']')

theorem isApart_slashes (more : Nat) : IsApart (slashes more) := by
  have hdrop := dropWhile_slashes more []
  rw [List.append_nil] at hdrop
  rw [IsApart, hdrop]
  cases more with
  | zero => exact ⟨rfl, nofun⟩
  | succ more => exact ⟨tag?_eq_none_iff.mpr fun hopens => absurd hopens (by decide), nofun⟩

theorem isApart_bracket (rest : Text) : IsApart (.char '[' :: rest) := by
  have hstays : ¬staysInTag (.char '[') = true := by decide
  rw [IsApart, List.dropWhile_cons_of_neg hstays]
  exact ⟨tag?_eq_none_iff.mpr fun hopens => absurd hopens (by decide),
    fun h => absurd (Option.some.inj h) (by decide)⟩

-- A piece in front of what is cut, whatever stands behind.
theorem Cut.cons (cut : Cut 0 rest front k) (hpiece : piece.source.getLast? ≠ some (.char '\\'))
    (hread : ∀ more, IsApart more →
      piecesAfter n (text ++ more) = piece :: piecesAfter 0 (rest ++ more)) :
    Cut n text (piece :: front) k where
  ending more := by
    rw [hread _ (isApart_slashes more), cut.ending]
    rfl
  bracket more := by
    rw [hread _ (isApart_bracket more), cut.bracket]
    rfl
  solid := by
    have hfront := cut.solid
    rw [List.flatMap_cons, List.getLast?_append]
    cases hlast : (front.flatMap Piece.source).getLast? with
    | none => exact hpiece
    | some c => rwa [hlast] at hfront

theorem exists_cut (n : Nat) (text : Text) : ∃ front k, Cut n text front k := by
  induction n, text using cases_text with
  | nil n =>
    refine ⟨[], n, fun more => ?_, fun rest => rfl, nofun⟩
    have h := piecesAfter_slashes n more []
    rw [List.append_nil] at h
    rw [List.nil_append, List.nil_append, h, piecesAfter]
  | slash n rest ih =>
    obtain ⟨front, k, cut⟩ := ih
    have next (more : Text) : piecesAfter n (.char '\\' :: more) = piecesAfter (n + 1) more := by
      rw [piecesAfter, if_pos rfl]
    refine ⟨front, k, fun more => ?_, fun more => ?_, cut.solid⟩
    · rw [List.cons_append, next, cut.ending]
    · rw [List.cons_append, next, cut.bracket]
  | tag n rest inside after htag ih =>
    obtain ⟨front, k, cut⟩ := ih
    refine ⟨.tag n inside :: front, k, cut.cons ?_ fun more _ => ?_⟩
    · rw [Piece.source, bracketed, ← List.append_assoc, List.getLast?_concat]
      exact fun h => absurd (Option.some.inj h) (by decide)
    · rw [List.cons_append, piecesAfter_tag (tag?_append_of_some htag _)]
  | plain n c rest hslash hopen ih =>
    obtain ⟨front, k, cut⟩ := ih
    refine ⟨.plain n c :: front, k, cut.cons ?_ fun more apart => ?_⟩
    · simpa [Piece.source] using hslash
    · rw [List.cons_append, piecesAfter_plain hslash fun hc =>
        tag?_append_eq_none (hopen hc) apart.1 apart.2]

namespace Cut

theorem pieces_eq (cut : Cut n text front k) : piecesAfter n text = front ++ [.ending k] := by
  have h := cut.ending 0
  rwa [slashes, List.replicate_zero, List.append_nil, Nat.add_zero] at h

theorem source_eq (cut : Cut n text front k) :
    slashes n ++ text = front.flatMap Piece.source ++ slashes k := by
  have h := source_piecesAfter n text
  rw [cut.pieces_eq, List.flatMap_append] at h
  simpa [Piece.source] using h.symm

-- The pieces of a text tell how it is cut.
theorem of_pieces (h : piecesAfter n text = front ++ [.ending k]) : Cut n text front k := by
  obtain ⟨others, j, cut⟩ := exists_cut n text
  obtain ⟨rfl, hj⟩ := List.append_inj' (cut.pieces_eq.symm.trans h) rfl
  obtain rfl : j = k := by simpa using hj
  exact cut

theorem append_slashes (cut : Cut n text front k) (more : Nat) :
    Cut n (text ++ slashes more) front (k + more) :=
  of_pieces (cut.ending more)

-- The backslashes at the end of a text.
theorem slashes_suffix_iff (cut : Cut 0 text front k) {j : Nat} :
    slashes j <:+ text ↔ j ≤ k := by
  have source : text = front.flatMap Piece.source ++ slashes k := cut.source_eq
  constructor
  · rintro ⟨before, hbefore⟩
    by_contra hlt
    have hmore : slashes j = slashes (j - k - 1) ++ slashes 1 ++ slashes k := by
      rw [← slashes_add, ← slashes_add]
      congr 1
      omega
    rw [source, hmore, ← List.append_assoc, ← List.append_assoc] at hbefore
    have hlast := congrArg List.getLast? (List.append_cancel_right hbefore)
    rw [getLast?_append_slashes Nat.one_ne_zero] at hlast
    exact cut.solid hlast.symm
  · intro hle
    rw [source, ← Nat.sub_add_cancel hle, slashes_add, ← List.append_assoc]
    exact List.suffix_append _ _

theorem getLast?_iff (cut : Cut 0 text front k) :
    text.getLast? = some (.char '\\') ↔ k ≠ 0 := by
  have source : text = front.flatMap Piece.source ++ slashes k := cut.source_eq
  rw [source]
  cases k with
  | zero => simpa [slashes] using cut.solid
  | succ k => simpa using getLast?_append_slashes k.succ_ne_zero

end Cut

-- A bracket of a text is a piece with the backslashes before it, or opens one.
theorem Cut.mem_pieces {before after : Text} (cut : Cut 0 before front k) :
    (∀ inside rest, IsTag inside → after = inside ++ .char ']' :: rest →
      .tag k inside ∈ pieces (before ++ .char '[' :: after)) ∧
    (¬IsOpening after → .plain k (.char '[') ∈ pieces (before ++ .char '[' :: after)) := by
  rw [pieces, cut.bracket]
  constructor
  · rintro inside rest htag rfl
    rw [piecesAfter_tag (tag?_append htag rest)]
    simp
  · intro closed
    rw [piecesAfter_plain (by decide) fun _ => tag?_eq_none_iff_not_isOpening.mpr closed]
    simp

-- A bracket stands in the text behind `k` backslashes, and what follows it is as `p` says.
def HasBracket (k : Nat) (p : Text → Prop) (text : Text) : Prop :=
  ∃ before after, text = before ++ slashes k ++ .char '[' :: after ∧ p after

theorem HasBracket.append_left {p : Text → Prop} (front : Text) (h : HasBracket k p text) :
    HasBracket k p (front ++ text) := by
  obtain ⟨before, after, rfl, hp⟩ := h
  exact ⟨front ++ before, after, by simp only [List.append_assoc], hp⟩

-- The bracket of a piece stands in the text, behind the backslashes of the piece.
theorem hasBracket_of_mem_pieces {n : Nat} {text : Text} :
    (∀ k inside, .tag k inside ∈ piecesAfter n text →
      HasBracket k IsOpening (slashes n ++ text)) ∧
    (∀ k, .plain k (.char '[') ∈ piecesAfter n text →
      HasBracket k (¬IsOpening ·) (slashes n ++ text)) := by
  induction n, text using cases_text with
  | nil n => simp [piecesAfter]
  | slash n rest ih =>
    rw [piecesAfter, if_pos rfl]
    have hmore : slashes n ++ .char '\\' :: rest = slashes (n + 1) ++ rest := by
      rw [slashes, slashes, List.replicate_succ', List.append_assoc]
      rfl
    rwa [hmore]
  | tag n rest inside after htag ih =>
    have hbehind : slashes n ++ .char '[' :: rest = slashes n ++ bracketed inside ++ after := by
      simp [eq_of_tag? htag, bracketed]
    rw [piecesAfter_tag htag]
    constructor
    · intro k other h
      rcases List.mem_cons.mp h with he | h
      · cases he
        exact ⟨[], rest, rfl, isOpening_of_tag? htag⟩
      · exact hbehind ▸ (ih.1 k other h).append_left _
    · intro k h
      exact hbehind ▸ (ih.2 k ((List.mem_cons.mp h).resolve_left (by simp))).append_left _
  | plain n c rest hslash hopen ih =>
    have hbehind : slashes n ++ c :: rest = slashes n ++ [c] ++ rest := by simp
    rw [piecesAfter_plain hslash hopen]
    constructor
    · intro k other h
      exact hbehind ▸
        (ih.1 k other ((List.mem_cons.mp h).resolve_left (by simp))).append_left _
    · intro k h
      rcases List.mem_cons.mp h with he | h
      · cases he
        exact ⟨[], rest, rfl, tag?_eq_none_iff_not_isOpening.mp (hopen rfl)⟩
      · exact hbehind ▸ (ih.2 k h).append_left _

theorem guardable_iff : Guardable text ↔ ∀ piece ∈ pieces text, piece.IsGuardable := by
  constructor
  · intro guardable piece hp
    cases piece with
    | tag n inside => trivial
    | ending n => trivial
    | plain n c =>
      rintro rfl
      obtain ⟨before, after, he, closed⟩ := hasBracket_of_mem_pieces.2 n hp
      by_contra hn
      exact closed (guardable _ _ he (getLast?_append_slashes hn))
  · rintro guardable before after rfl hlast
    obtain ⟨front, k, cut⟩ := exists_cut 0 before
    by_contra closed
    exact cut.getLast?_iff.mp hlast (guardable _ (cut.mem_pieces.2 closed) rfl)

theorem bare_iff : Bare text ↔ ∀ piece ∈ pieces text, piece.IsBare := by
  constructor
  · intro bare piece hp
    cases piece with
    | ending n => exact ⟨trivial, rfl⟩
    | plain n c => exact ⟨guardable_iff.mp bare.guardable _ hp, rfl⟩
    | tag n inside =>
      obtain ⟨before, after, he, opening⟩ := hasBracket_of_mem_pieces.1 n inside hp
      exact absurd opening (bare _ _ he).1
  · rintro bare before after rfl
    obtain ⟨front, k, cut⟩ := exists_cut 0 before
    have closed : ¬IsOpening after := by
      rintro ⟨inside, rest, htag, he⟩
      obtain ⟨whole, uncounted⟩ := bare _ (cut.mem_pieces.1 inside rest htag he)
      obtain rfl : k = 0 := whole
      cases uncounted
    refine ⟨closed, fun hlast => cut.getLast?_iff.mp hlast ?_⟩
    exact (bare _ (cut.mem_pieces.2 closed)).1 rfl

-- Bare text is what is read as it stands.
theorem read_eq_self_iff_bare : read text = ⟨[], text⟩ ↔ Bare text :=
  read_eq_self_iff.trans bare_iff.symm

instance (text : Text) : Decidable (Bare text) :=
  decidable_of_iff _ read_eq_self_iff_bare

instance (piece : Piece) : Decidable piece.IsGuardable :=
  match piece with
  | .plain n c => inferInstanceAs (Decidable (c = .char '[' → n = 0))
  | .tag _ _ => .isTrue trivial
  | .ending _ => .isTrue trivial

instance (text : Text) : Decidable (Guardable text) :=
  decidable_of_iff _ guardable_iff.symm

end CommandCompletion.Markup
