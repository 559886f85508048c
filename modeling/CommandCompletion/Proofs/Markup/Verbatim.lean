import CommandCompletion.Proofs.Markup.Bracket

namespace CommandCompletion

namespace Markup

variable {text name style rest : Text} {front ps : List Piece} {k : Nat}

theorem slashes_inj {n m : Nat} : slashes n = slashes m ↔ n = m := by
  refine ⟨fun h => ?_, congrArg slashes⟩
  rw [← length_slashes n, h, length_slashes]

-- What was guarded is text.
theorem Piece.counted?_guarded (piece : Piece) : piece.guarded.counted? = none := by
  cases piece with
  | plain n c => rfl
  | ending n => rfl
  | tag n inside =>
    have hodd : (2 * n + 1) % 2 = 1 := by omega
    exact if_pos hodd

theorem Piece.text_guarded_of_isGuardable {piece : Piece} (h : piece.IsGuardable) :
    piece.guarded.text = piece.source := by
  cases piece with
  | plain n c => exact (text_of_isBare ⟨h, rfl⟩ : (Piece.plain n c).text = _)
  | ending n => rfl
  | tag n inside =>
    have hodd : (2 * n + 1) % 2 = 1 := by omega
    have hhalf : (2 * n + 1) / 2 = n := by omega
    rw [guarded, Piece.text, if_pos hodd, hhalf, source]

-- Guarded pieces are left as they were, unless a backslash stands before a bracket that opens no
-- tag.
theorem text_guarded_iff {more others : Text} :
    (ps.map (·.guarded)).flatMap Piece.text ++ more = ps.flatMap Piece.source ++ others ↔
      (∀ piece ∈ ps, piece.IsGuardable) ∧ more = others := by
  induction ps with
  | nil => simp
  | cons piece ps ih =>
    rw [List.map_cons, List.flatMap_cons, List.flatMap_cons, List.append_assoc, List.append_assoc,
      List.forall_mem_cons, and_assoc, ← ih]
    by_cases guardable : piece.IsGuardable
    · rw [Piece.text_guarded_of_isGuardable guardable, List.append_cancel_left_eq,
        and_iff_right guardable]
    · refine iff_of_false (fun he => ?_) (fun h => guardable h.1)
      cases piece with
      | ending n => exact guardable trivial
      | tag n inside => exact guardable trivial
      | plain n c =>
        obtain ⟨rfl, hn⟩ := Classical.not_imp.mp guardable
        obtain ⟨n, rfl⟩ := Nat.exists_eq_succ_of_ne_zero hn
        -- Behind the same backslashes one side has the bracket and the other one more backslash.
        simp only [Piece.guarded, Piece.text, Piece.source, ↓reduceIte, Nat.succ_eq_add_one,
          Nat.add_sub_cancel, slashes_add, List.append_assoc, List.append_cancel_left_eq] at he
        exact absurd (List.cons.inj he).1 (by decide)

namespace Cut

theorem endsInOneSlash_iff (cut : Cut 0 text front k) : endsInOneSlash text = true ↔ k = 1 := by
  have source : text = front.flatMap Piece.source ++ slashes k := cut.source_eq
  have solid : (front.flatMap Piece.source).reverse.head? ≠ some (.char '\\') := by
    rw [List.head?_reverse]
    exact cut.solid
  have hreverse : text.reverse = slashes k ++ (front.flatMap Piece.source).reverse := by
    rw [source, List.reverse_append, slashes, List.reverse_replicate]
  unfold endsInOneSlash
  rw [hreverse]
  generalize (front.flatMap Piece.source).reverse = body at solid
  rcases k with _ | _ | k
  · rw [slashes, List.replicate_zero, List.nil_append]
    split <;> simp_all
  · rw [slashes_one, List.singleton_append]
    split <;> simp_all
  · rw [slashes, List.replicate_succ, List.replicate_succ, List.cons_append, List.cons_append]
    simp

-- An escaped text is cut where the text is. A single backslash at the end has become two.
theorem escape (cut : Cut 0 text front k) :
    Cut 0 (Markup.escape text) (front.map (·.guarded)) (if k = 1 then 2 else k) := by
  have guarded : Cut 0 (guardedAfter 0 text) (front.map (·.guarded)) k := by
    refine of_pieces ?_
    rw [← pieces, pieces_guardedAfter, cut.pieces_eq, List.map_append]
    rfl
  have hescape : Markup.escape text = if endsInOneSlash (guardedAfter 0 text) = true then
      guardedAfter 0 text ++ slashes 1 else guardedAfter 0 text := rfl
  by_cases hk : k = 1
  · subst hk
    rw [hescape, if_pos (guarded.endsInOneSlash_iff.mpr rfl), if_pos rfl]
    exact guarded.append_slashes 1
  · rw [hescape, if_neg (mt guarded.endsInOneSlash_iff.mp hk), if_neg hk]
    exact guarded

theorem guardable_iff (cut : Cut 0 text front k) :
    Guardable text ↔ ∀ piece ∈ front, piece.IsGuardable := by
  rw [Markup.guardable_iff, pieces, cut.pieces_eq, List.forall_mem_append, and_iff_left]
  exact List.forall_mem_singleton.mpr trivial

theorem bare_iff (cut : Cut 0 text front k) : Bare text ↔ ∀ piece ∈ front, piece.IsBare := by
  rw [Markup.bare_iff, pieces, cut.pieces_eq, List.forall_mem_append, and_iff_left]
  exact List.forall_mem_singleton.mpr ⟨trivial, rfl⟩

-- What is left of a guarded text with backslashes behind it is the text itself only if it ends in
-- as many.
theorem text_guarded_iff (cut : Cut 0 text front k) {j : Nat} :
    (front.map (·.guarded)).flatMap Piece.text ++ slashes j = text ↔ Guardable text ∧ j = k := by
  have source : text = front.flatMap Piece.source ++ slashes k := cut.source_eq
  rw [cut.guardable_iff, ← slashes_inj, ← Markup.text_guarded_iff, ← source]

end Cut

theorem counted?_map_guarded (ps : List Piece) :
    (ps.map (·.guarded)).filterMap Piece.counted? = [] := by
  refine List.filterMap_eq_nil_iff.mpr fun piece hp => ?_
  obtain ⟨plain, -, rfl⟩ := List.mem_map.mp hp
  exact plain.counted?_guarded

-- How an escaped text is read.
theorem Cut.read_escape (cut : Cut 0 text front k) : read (Markup.escape text) =
    ⟨[], (front.map (·.guarded)).flatMap Piece.text ++ slashes (if k = 1 then 2 else k)⟩ := by
  rw [read_eq, pieces, cut.escape.pieces_eq, List.filterMap_append, counted?_map_guarded,
    List.flatMap_append]
  simp [Piece.text, Piece.counted?]

-- No tag of an escaped text counts.
theorem tags_read_escape (text : Text) : (read (escape text)).tags = [] := by
  obtain ⟨front, k, cut⟩ := exists_cut 0 text
  rw [cut.read_escape]

-- Text that is the same once it is escaped and read. A single backslash at its end would be
-- doubled.
def Escapable (text : Text) : Prop :=
  Guardable text ∧ (slashes 1 <:+ text → slashes 2 <:+ text)

instance (text : Text) : Decidable (Escapable text) :=
  inferInstanceAs (Decidable (_ ∧ _))

theorem read_escape_iff : read (escape text) = ⟨[], text⟩ ↔ Escapable text := by
  obtain ⟨front, k, cut⟩ := exists_cut 0 text
  have ends : (if k = 1 then 2 else k) = k ↔ (1 ≤ k → 2 ≤ k) := by
    split <;> omega
  rw [Escapable, cut.read_escape, Reading.mk.injEq, and_iff_right rfl, cut.text_guarded_iff,
    cut.slashes_suffix_iff, cut.slashes_suffix_iff, ends]

theorem escape_eq_nil_iff : escape text = [] ↔ text = [] := by
  constructor
  · intro h
    obtain ⟨front, k, cut⟩ := exists_cut 0 text
    have source : text = front.flatMap Piece.source ++ slashes k := cut.source_eq
    have hpieces := cut.escape.pieces_eq
    rw [h, piecesAfter, ← List.nil_append [Piece.ending 0]] at hpieces
    obtain ⟨hfront, hk⟩ := List.append_inj' hpieces rfl
    obtain rfl : front = [] := List.map_eq_nil_iff.mp hfront.symm
    obtain rfl : k = 0 := by
      have he : 0 = if k = 1 then 2 else k := by simpa using hk
      split at he <;> omega
    exact source
  · rintro rfl
    rw [escape, pieces, piecesAfter]
    rfl

-- The tag that closes the last one.
theorem isTag_close : IsTag [.char '/'] := by
  decide

-- An escaped text in a style that is closed without its name.
theorem pieces_escape_styled (opens : IsTag style) (cut : Cut 0 text front k) :
    pieces (bracketed style ++ escape text ++ bracketed [.char '/']) =
      .tag 0 style :: (front.map (·.guarded) ++
        [.tag (if k = 1 then 2 else k) [.char '/'], .ending 0]) := by
  have close : bracketed [.char '/'] = .char '[' :: [.char '/', .char ']'] := rfl
  rw [List.append_assoc, pieces, piecesAfter_bracketed opens, close, cut.escape.bracket, ← close,
    ← List.append_nil (bracketed _), piecesAfter_bracketed isTag_close, piecesAfter]

theorem Cut.read_escape_styled (opens : IsTag style) (cut : Cut 0 text front k) :
    read (bracketed style ++ Markup.escape text ++ bracketed [.char '/']) =
      ⟨style :: (Piece.tag (if k = 1 then 2 else k) [.char '/']).counted?.toList,
        (front.map (·.guarded)).flatMap Piece.text ++
          (Piece.tag (if k = 1 then 2 else k) [.char '/']).text⟩ := by
  rw [read_eq, pieces_escape_styled opens cut]
  simp only [filterMap_counted?_cons, List.filterMap_append, counted?_map_guarded,
    List.flatMap_cons, List.flatMap_append]
  simp [Piece.counted?, Piece.text, slashes]

-- Only the tags around an escaped text count, and the second one may not.
theorem tags_read_escape_styled (opens : IsTag style) (text : Text) :
    (read (bracketed style ++ escape text ++ bracketed [.char '/'])).tags = [style] ∨
      (read (bracketed style ++ escape text ++ bracketed [.char '/'])).tags =
        [style, [.char '/']] := by
  obtain ⟨front, k, cut⟩ := exists_cut 0 text
  rw [cut.read_escape_styled opens]
  generalize (if k = 1 then 2 else k) = j
  by_cases hodd : j % 2 = 1
  · exact .inl (by simp [Piece.counted?, hodd])
  · exact .inr (by simp [Piece.counted?, hodd])

-- When an escaped text in a style is read as it stands.
theorem read_escape_styled_iff (opens : IsTag style) :
    read (bracketed style ++ escape text ++ bracketed [.char '/']) = ⟨[style, [.char '/']], text⟩ ↔
      Guardable text ∧ ¬slashes 2 <:+ text := by
  obtain ⟨front, k, cut⟩ := exists_cut 0 text
  rw [cut.read_escape_styled opens, cut.slashes_suffix_iff, Reading.mk.injEq, List.cons.injEq,
    and_iff_right rfl]
  generalize hj : (if k = 1 then 2 else k) = j
  by_cases hodd : j % 2 = 1
  · have hk : 2 ≤ k := by
      split at hj <;> omega
    simp [Piece.counted?, hodd, hk]
  · have hhalf : j / 2 = k ↔ ¬2 ≤ k := by
      split at hj <;> omega
    simp only [Piece.counted?, Piece.text, if_neg hodd, List.append_nil, Option.toList_some,
      true_and, cut.text_guarded_iff, hhalf]

-- Texts, each behind a comma.
def listed (texts : List Text) : Text :=
  texts.flatMap (", " ++ ·)

theorem listed_cons (text : Text) (texts : List Text) :
    listed (text :: texts) = ", " ++ text ++ listed texts :=
  rfl

theorem comma_append_join {texts : List Text} (hne : texts ≠ []) :
    ", " ++ Text.join ", " texts = listed texts := by
  induction texts with
  | nil => exact absurd rfl hne
  | cons text texts ih =>
    cases texts with
    | nil => simp [Text.join, listed]
    | cons next texts =>
      rw [listed_cons, ← ih (List.cons_ne_nil _ _), Text.join,
        List.intercalate_cons_cons, Text.join]
      simp only [List.append_assoc]

section Listed

theorem pieces_comma (rest : Text) :
    pieces (", " ++ rest) = .plain 0 (.char ',') :: .plain 0 (.char ' ') :: pieces rest := by
  have he : (", " ++ rest : Text) = .char ',' :: .char ' ' :: rest := rfl
  rw [he, pieces, piecesAfter_cons (by decide), piecesAfter_cons isPlain_space, pieces]

theorem read_nil : read [] = ⟨[], []⟩ := by
  rw [read_eq, pieces, piecesAfter]
  rfl

theorem read_comma (rest : Text) :
    read (", " ++ rest) = ⟨(read rest).tags, ", " ++ (read rest).text⟩ := by
  rw [read_eq, read_eq, pieces_comma]
  rfl

variable (hstyle : IsStyle style)

include hstyle

-- A name in a style behind a comma, and what follows it.
theorem pieces_listed (cut : Cut 0 name front k) (rest : Text) :
    pieces (", " ++ inStyle style name ++ rest) = .plain 0 (.char ',') :: .plain 0 (.char ' ') ::
      .tag 0 style :: (front ++ .tag k (.char '/' :: style) :: pieces rest) := by
  have close : bracketed (.char '/' :: style) ++ rest =
      .char '[' :: (.char '/' :: style ++ [.char ']'] ++ rest) := rfl
  rw [List.append_assoc, pieces_comma, inStyle, List.append_assoc, List.append_assoc, pieces,
    piecesAfter_bracketed hstyle.opens, close, cut.bracket, ← close,
    piecesAfter_bracketed hstyle.closes, pieces]

-- If nothing is lost of names in a style, each has its two tags, and no others only if no name is
-- marked up.
theorem counted?_listed {names : List Text}
    (whole : ∀ piece ∈ pieces (listed (names.map (inStyle style))), piece.IsWhole) :
    let tags := (pieces (listed (names.map (inStyle style)))).filterMap Piece.counted?
    2 * names.length ≤ tags.length ∧
      (tags.length = 2 * names.length → ∀ name ∈ names, Bare name ∧ ¬slashes 1 <:+ name) := by
  induction names with
  | nil => exact ⟨Nat.zero_le _, fun _ => List.forall_mem_nil _⟩
  | cons name names ih =>
    obtain ⟨front, k, cut⟩ := exists_cut 0 name
    rw [List.map_cons, listed_cons, pieces_listed hstyle cut] at whole ⊢
    simp only [List.forall_mem_cons, List.forall_mem_append] at whole
    obtain ⟨-, -, -, hfront, hk, hrest⟩ := whole
    obtain rfl : k = 0 := hk
    obtain ⟨hle, hnames⟩ := ih hrest
    simp only [filterMap_counted?_cons, List.filterMap_append, List.length_append,
      List.length_cons, Piece.counted?, Option.toList_none, Option.toList_some, List.length_nil,
      Nat.zero_mod, Nat.zero_ne_one, if_false]
    refine ⟨by omega, fun he => List.forall_mem_cons.mpr ⟨⟨?_, ?_⟩, hnames (by omega)⟩⟩
    · have untagged : front.filterMap Piece.counted? = [] :=
        List.eq_nil_of_length_eq_zero (by omega)
      exact cut.bare_iff.mpr fun piece hp =>
        ⟨hfront piece hp, List.filterMap_eq_nil_iff.mp untagged piece hp⟩
    · rw [cut.slashes_suffix_iff]
      omega

theorem read_listed {names : List Text}
    (h : ∀ name ∈ names, Bare name ∧ ¬slashes 1 <:+ name) :
    read (listed (names.map (inStyle style))) =
      ⟨names.flatMap fun _ => [style, .char '/' :: style], listed names⟩ := by
  induction names with
  | nil => exact read_nil
  | cons name names ih =>
    obtain ⟨⟨bare, ends⟩, hnames⟩ := List.forall_mem_cons.mp h
    obtain ⟨front, k, cut⟩ := exists_cut 0 name
    rw [cut.slashes_suffix_iff] at ends
    obtain rfl : k = 0 := by omega
    have source : name = front.flatMap Piece.source := by
      have he := cut.source_eq
      simpa [slashes] using he
    have hfront := cut.bare_iff.mp bare
    have untagged : front.filterMap Piece.counted? = [] :=
      List.filterMap_eq_nil_iff.mpr fun piece hp => (hfront piece hp).2
    have text : front.flatMap Piece.text = name :=
      (List.flatMap_congr fun piece hp => Piece.text_of_isBare (hfront piece hp)).trans source.symm
    have others := ih hnames
    rw [read_eq, Reading.mk.injEq] at others
    rw [List.map_cons, listed_cons, read_eq, pieces_listed hstyle cut]
    simp only [filterMap_counted?_cons, List.filterMap_append, List.flatMap_cons,
      List.flatMap_append, untagged, text, others]
    simp [Piece.counted?, Piece.text, slashes, listed]
    rfl

omit hstyle in
theorem length_listed (names : List Text) :
    (listed names).length + tagLength (names.flatMap fun _ => [style, .char '/' :: style]) =
      (listed (names.map (inStyle style))).length := by
  induction names with
  | nil => rfl
  | cons name names ih =>
    have tags : tagLength [style, .char '/' :: style] =
        (bracketed style).length + (bracketed (.char '/' :: style)).length := by
      simp [tagLength]
    rw [List.map_cons, listed_cons, listed_cons, List.flatMap_cons, tagLength_append, tags, inStyle]
    simp only [List.length_append]
    omega

-- When names in a style are read as they stand.
theorem read_join_inStyle_iff {names : List Text} :
    read (Text.join ", " (names.map (inStyle style))) =
        ⟨names.flatMap fun _ => [style, .char '/' :: style], Text.join ", " names⟩ ↔
      ∀ name ∈ names, Bare name ∧ ¬slashes 1 <:+ name := by
  by_cases hne : names = []
  · subst hne
    exact iff_of_true read_nil (List.forall_mem_nil _)
  have hread := read_comma (Text.join ", " (names.map (inStyle style)))
  rw [comma_append_join (by simpa using hne)] at hread
  constructor
  · intro h
    rw [h, comma_append_join hne] at hread
    have hlength : (read (listed (names.map (inStyle style)))).text.length +
        tagLength (read (listed (names.map (inStyle style)))).tags =
          (listed (names.map (inStyle style))).length := by
      rw [hread]
      exact length_listed names
    refine (counted?_listed hstyle (isWhole_of_length hlength)).2 ?_
    have htags := congrArg (fun reading => reading.tags.length) hread
    rw [read_eq] at htags
    exact htags.trans (by simp [Nat.mul_comm])
  · intro h
    rw [read_listed hstyle h, ← comma_append_join hne, Reading.mk.injEq,
      List.append_cancel_left_eq] at hread
    exact (congr (congrArg Reading.mk hread.1) hread.2).symm

omit hstyle in
theorem join_inStyle_eq_nil_iff {names : List Text} :
    Text.join ", " (names.map (inStyle style)) = [] ↔ names = [] := by
  cases names with
  | nil => exact iff_of_true rfl rfl
  | cons name names =>
    refine iff_of_false (fun h => ?_) (List.cons_ne_nil _ _)
    have he := comma_append_join (List.cons_ne_nil (inStyle style name) (names.map (inStyle style)))
    rw [← List.map_cons, h, List.map_cons, listed_cons, List.append_assoc,
      List.append_cancel_left_eq] at he
    cases he

end Listed

end Markup

end CommandCompletion
