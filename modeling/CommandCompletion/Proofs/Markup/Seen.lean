import CommandCompletion.Proofs.Markup.Verbatim

namespace CommandCompletion.Markup

-- Text that is seen as it stands where it is not marked up: it moves no cursor, and no picture is
-- named between two of its colons.
def Calm (text : Text) : Prop :=
  (∀ c ∈ text, isHidden c = false) ∧
    ∀ code, (":" ++ code ++ ":" : Text) <:+: text → coded? code = none

variable {text more code after : Text} {tags : List Text} {opened : List Tag} {offset : Nat}

theorem Calm.of_infix (h : Calm text) (hmore : more <:+: text) : Calm more :=
  ⟨fun c hc => h.1 c (hmore.subset hc), fun code hcode => h.2 code (hcode.trans hmore)⟩

theorem eq_of_code? (h : code? text = some (code, after)) : text = code ++ .char ':' :: after := by
  unfold code? at h
  split at h
  · next heq =>
    cases h
    rw [← heq, List.takeWhile_append_dropWhile]
  · cases h

theorem illustrate_of_calm (calm : Calm text) : illustrate text = text := by
  fun_induction illustrate text with
  | case1 => rfl
  | case2 rest h ih => rw [ih (calm.of_infix (List.suffix_cons _ _).isInfix)]
  | case3 rest code after h ih =>
    have whole : (.char ':' :: rest : Text) = ":" ++ code ++ ":" ++ after := by
      rw [eq_of_code? h]
      exact (List.append_assoc (.char ':' :: code) [.char ':'] after).symm
    rw [whole] at calm ⊢
    rw [calm.2 code (List.prefix_append _ _).isInfix, Option.getD_none,
      ih (calm.of_infix (List.suffix_append _ _).isInfix)]
  | case4 c rest hc ih => rw [ih (calm.of_infix (List.suffix_cons _ _).isInfix)]

theorem shown_of_calm (calm : Calm text) : shown text = text := by
  rw [shown, illustrate_of_calm calm]
  exact List.filter_eq_self.mpr fun c hc => by simp [calm.1 c hc]

-- What is seen of calm text is what it is read as.
theorem text_of_reveal {cs : List Chunk} {s : Styled} (calm : Calm (cs.flatMap Chunk.text))
    (h : reveal opened offset cs = .ok s) : s.text = cs.flatMap Chunk.text := by
  induction cs generalizing opened offset s with
  | nil =>
    cases h
    rfl
  | cons chunk cs ih =>
    rw [List.flatMap_cons] at calm ⊢
    have front := shown_of_calm (calm.of_infix (List.prefix_append _ _).isInfix)
    have behind := calm.of_infix (List.suffix_append _ _).isInfix
    cases chunk with
    | plain text =>
      obtain ⟨t, ht, hs⟩ := exists_reveal_plain h
      rw [hs, ih behind ht]
      exact congrArg (· ++ _) front
    | kept inside =>
      obtain ⟨t, ht, rfl⟩ := map_eq_ok_iff.mp h
      exact congr (congrArg _ front) (ih behind ht)
    | tag inside =>
      obtain ⟨others, t, ht, hs⟩ := exists_reveal_tag h
      rw [hs, ih behind ht]
      rfl

-- Tags that can be turned one after the other, wherever they stand, and end only styles that can be
-- shown.
def Settles (opened : List Tag) : List Text → Prop
  | [] => ∀ last, opened.flatMap (·.runs last) = []
  | inside :: tags =>
    ∀ offset, ∃ others, turn opened offset inside = .ok (others, []) ∧ Settles others tags

theorem Settles.exists_reveal {cs : List Chunk} (h : Settles opened (cs.filterMap Chunk.counted?))
    (offset : Nat) : ∃ s, reveal opened offset cs = .ok s ∧ s.faulty = [] := by
  induction cs generalizing opened offset with
  | nil => exact ⟨_, rfl, h offset⟩
  | cons chunk cs ih =>
    cases chunk with
    | plain text =>
      obtain ⟨s, hs, hfaulty⟩ := ih h (offset + (shown text).length)
      exact ⟨{ s with text := shown text ++ s.text }, by rw [reveal, hs]; rfl, hfaulty⟩
    | kept inside =>
      obtain ⟨s, hs, hfaulty⟩ := ih h (offset + (shown (bracketed inside)).length)
      exact ⟨{ s with text := shown (bracketed inside) ++ s.text }, by simp only [reveal, hs]; rfl,
        hfaulty⟩
    | tag inside =>
      obtain ⟨others, hturn, hothers⟩ := h offset
      obtain ⟨s, hs, hfaulty⟩ := ih hothers offset
      exact ⟨_, by simp only [reveal, hturn, hs]; rfl, hfaulty⟩

theorem isClear_of_settles (h : Settles [] (read text).tags) : IsClear text :=
  h.exists_reveal 0

theorem settles_nil : Settles [] [] :=
  fun _ => rfl

-- The tag that closes the last one takes its style away.
theorem IsStyle.turn_close_last {style : Text} (h : IsStyle style) {last : Tag}
    (hname : last.name = style) (hlone : last.parameter = none) (opened : List Tag) (offset : Nat) :
    turn (last :: opened) offset [.char '/'] = .ok (opened, []) := by
  have inside : Tag.ofInside [.char '/'] offset = ⟨[.char '/'], none, offset⟩ := rfl
  have unnamed : (Text.trim []).isEmpty = true := by decide
  unfold turn
  rw [inside]
  simp [unnamed, h.close_eq hname hlone offset, bind, Except.bind, pure, Except.pure]

theorem IsStyle.settles_pair {style : Text} (h : IsStyle style) (hrest : Settles [] tags) :
    Settles [] (style :: (.char '/' :: style) :: tags) :=
  fun offset => ⟨_, h.turn_open [] offset, fun last => ⟨_, h.turn_close rfl rfl [] last, hrest⟩⟩

theorem IsStyle.settles_last {style : Text} (h : IsStyle style) :
    Settles [] [style] ∧ Settles [] [style, [.char '/']] := by
  refine ⟨fun offset => ⟨_, h.turn_open [] offset, fun last => ?_⟩,
    fun offset => ⟨_, h.turn_open [] offset, fun last => ⟨_, h.turn_close_last rfl rfl [] last,
      settles_nil⟩⟩⟩
  rw [List.flatMap_cons, h.runs_eq_nil rfl rfl]
  rfl

-- Marked-up text of which people see a text, in the styles of the tags that are read.
structure Shows (marked : Text) (reading : Reading) : Prop where
  read : Markup.read marked = reading
  clear : IsClear marked
  seen : Calm reading.text → visible marked = .ok ⟨reading.text, []⟩

theorem shows_iff {marked : Text} {reading : Reading} (h : Settles [] reading.tags) :
    Shows marked reading ↔ read marked = reading := by
  refine ⟨Shows.read, fun hread => ?_⟩
  have clear : IsClear marked := isClear_of_settles (hread ▸ h)
  refine ⟨hread, clear, fun calm => ?_⟩
  obtain ⟨⟨text, faulty⟩, hvisible, rfl⟩ := clear
  subst hread
  have seen : text = (Markup.read marked).text := text_of_reveal calm hvisible
  rw [hvisible, seen]

section Shows

theorem shows_bare_iff : Shows text ⟨[], text⟩ ↔ Bare text :=
  (shows_iff settles_nil).trans read_eq_self_iff_bare

theorem shows_escape_iff : Shows (escape text) ⟨[], text⟩ ↔ Escapable text :=
  (shows_iff settles_nil).trans read_escape_iff

theorem shows_inStyle {style : Text} (h : IsStyle style) (bare : Bare text)
    (ends : ¬slashes 1 <:+ text) :
    Shows (inStyle style text) ⟨[style, .char '/' :: style], text⟩ := by
  refine (shows_iff (h.settles_pair settles_nil)).mpr ?_
  have hread : read (Text.join ", " ([text].map (inStyle style))) =
      ⟨[text].flatMap fun _ => [style, .char '/' :: style], Text.join ", " [text]⟩ :=
    (read_join_inStyle_iff h).mpr (List.forall_mem_singleton.mpr ⟨bare, ends⟩)
  simpa [Text.join] using hread

theorem shows_of_unbracketed (h : .char '[' ∉ text) : Shows text ⟨[], text⟩ :=
  shows_bare_iff.mpr (bare_of_unbracketed h)

-- An escaped message behind a sign.
theorem shows_signed_iff {style : Text} {mark : CodePoint} (h : IsSign style mark)
    (hstyle : IsStyle style) {message : Text} :
    Shows (sign style mark ++ .char ' ' :: escape message)
        ⟨[style, .char '/' :: style], mark :: .char ' ' :: message⟩ ↔ Escapable message := by
  have hread : read (sign style mark ++ .char ' ' :: escape message) =
      ⟨[style, .char '/' :: style], mark :: .char ' ' :: (read (escape message)).text⟩ := by
    have untagged : (pieces (escape message)).filterMap Piece.counted? = [] := by
      have htags := tags_read_escape message
      rwa [read_eq] at htags
    rw [read_eq, h.pieces_eq, read_eq]
    simp only [filterMap_counted?_cons, untagged, List.flatMap_cons]
    simp [Piece.counted?, Piece.text, slashes, h.plain.2.1]
  have escaped : (read (escape message)).text = message ↔
      read (escape message) = ⟨[], message⟩ := by
    rw [← tags_read_escape message]
    exact ⟨fun h => congrArg (Reading.mk _) h, fun h => congrArg Reading.text h⟩
  rw [shows_iff (hstyle.settles_pair settles_nil), hread, ← read_escape_iff, ← escaped]
  simp

end Shows

-- Marked-up text that can be shown and holds no tags.
def Untagged (marked : Text) : Prop :=
  IsClear marked ∧ (read marked).tags = []

theorem untagged_escape (text : Text) : Untagged (escape text) :=
  ⟨isClear_escape text, tags_read_escape text⟩

theorem untagged_of_unbracketed (h : .char '[' ∉ text) : Untagged text :=
  ⟨isClear_of_unbracketed h, congrArg Reading.tags (shows_of_unbracketed h).read⟩

theorem IsStyle.isClear_escape_styled {style : Text} (h : IsStyle style) (text : Text) :
    IsClear (bracketed style ++ escape text ++ bracketed [.char '/']) := by
  apply isClear_of_settles
  rcases tags_read_escape_styled h.opens text with htags | htags <;> rw [htags]
  · exact h.settles_last.1
  · exact h.settles_last.2

end CommandCompletion.Markup
