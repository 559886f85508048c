import CommandCompletion.Markup
import CommandCompletion.Proofs.Data.Result

namespace CommandCompletion.Markup

-- A character that is shown as it is, wherever it stands in marked-up text.
def IsPlain (c : CodePoint) : Prop :=
  c ≠ .char '\\' ∧ c ≠ .char '[' ∧ c ≠ .char ':' ∧ isHidden c = false

instance (c : CodePoint) : Decidable (IsPlain c) :=
  inferInstanceAs (Decidable (_ ∧ _))

theorem isPlain_space : IsPlain (.char ' ') := by
  decide

theorem piecesAfter_cons {c : CodePoint} (plain : IsPlain c) (n : Nat) (rest : Text) :
    piecesAfter n (c :: rest) = .plain n c :: piecesAfter 0 rest := by
  rw [piecesAfter, if_neg plain.1, if_neg plain.2.1]

theorem shown_nil : shown [] = [] := by
  simp [shown, illustrate]

theorem shown_cons {c : CodePoint} (plain : IsPlain c) (rest : Text) :
    shown (c :: rest) = c :: shown rest := by
  rw [shown, illustrate, if_neg plain.2.2.1, List.filter_cons_of_pos (by simp [plain.2.2.2])]
  rfl

-- Text of plain characters is one piece after the other, one chunk, and shown as it stands.
section Plain

variable {text : Text} (plain : ∀ c ∈ text, IsPlain c)

include plain

theorem pieces_of_plain : pieces text = text.map (.plain 0) ++ [.ending 0] := by
  induction text with
  | nil => simp [pieces, piecesAfter]
  | cons c text ih =>
    obtain ⟨hc, plain⟩ := List.forall_mem_cons.mp plain
    rw [pieces, piecesAfter_cons hc, ← pieces, ih plain, List.map_cons, List.cons_append]

theorem chunks_of_plain : chunks (pieces text) = [.plain text] := by
  rw [pieces_of_plain plain]
  induction text with
  | nil => rfl
  | cons c text ih =>
    obtain ⟨hc, plain⟩ := List.forall_mem_cons.mp plain
    rw [List.map_cons, List.cons_append, chunks, ih plain]
    simp [addPlain, slashes]

theorem shown_of_plain : shown text = text := by
  induction text with
  | nil => exact shown_nil
  | cons c text ih =>
    obtain ⟨hc, plain⟩ := List.forall_mem_cons.mp plain
    rw [shown_cons hc, ih plain]

theorem visible_of_plain : visible text = .ok ⟨text, []⟩ := by
  rw [visible, chunks_of_plain plain, reveal, shown_of_plain plain, reveal]
  simp [Except.map]

theorem escape_of_plain : escape text = text := by
  have guarded : (pieces text).flatMap (·.guarded.source) = text := by
    rw [pieces_of_plain plain]
    induction text with
    | nil => rfl
    | cons c text ih =>
      obtain ⟨hc, plain⟩ := List.forall_mem_cons.mp plain
      rw [List.map_cons, List.cons_append, List.flatMap_cons, ih plain]
      rfl
  have ending : endsInOneSlash text = false := by
    unfold endsInOneSlash
    split
    · rfl
    · next behind hreverse =>
      have hmem : .char '\\' ∈ text := List.mem_reverse.mp (hreverse ▸ List.mem_cons_self)
      exact absurd rfl (plain _ hmem).1
    · rfl
  rw [escape, guarded, ending]
  rfl

end Plain

-- The inside of a tag, as it stands between brackets.
def IsTag (inside : Text) : Prop :=
  inside.head?.any opensTag = true ∧ ∀ c ∈ inside.tail, staysInTag c = true

instance (inside : Text) : Decidable (IsTag inside) :=
  inferInstanceAs (Decidable (_ ∧ _))

theorem tag?_append {inside : Text} (h : IsTag inside) (rest : Text) :
    tag? (inside ++ .char ']' :: rest) = some (inside, rest) := by
  have closing : staysInTag (.char ']') = false := by decide
  obtain ⟨opens, stays⟩ := h
  cases inside with
  | nil => cases opens
  | cons c inside =>
    rw [List.head?_cons, Option.any_some] at opens
    rw [List.tail_cons] at stays
    rw [List.cons_append, tag?, if_pos opens, List.dropWhile_append_of_pos stays,
      List.takeWhile_append_of_pos stays]
    simp [closing]

theorem piecesAfter_bracketed {inside : Text} (h : IsTag inside) (n : Nat) (rest : Text) :
    piecesAfter n (bracketed inside ++ rest) = .tag n inside :: piecesAfter 0 rest := by
  have whole : bracketed inside ++ rest = .char '[' :: (inside ++ .char ']' :: rest) := by
    simp [bracketed]
  have htag := tag?_append h rest
  rw [whole, piecesAfter]
  split
  · next hslash => exact absurd hslash (by decide)
  · simp only [↓reduceIte]
    split
    · next hsome =>
      rw [htag] at hsome
      cases hsome
      rfl
    · next hnone =>
      rw [htag] at hnone
      cases hnone

theorem exists_addPlain (text : Text) (rest : List Chunk) :
    ∃ more others, addPlain text rest = .plain (text ++ more) :: others := by
  unfold addPlain
  split
  · exact ⟨_, _, rfl⟩
  · exact ⟨[], rest, by rw [List.append_nil]⟩

-- A tag shows nothing itself, whatever it opens or closes.
theorem exists_reveal_tag {opened : List Tag} {offset : Nat} {inside : Text} {rest : List Chunk}
    {s : Styled} (h : reveal opened offset (.tag inside :: rest) = .ok s) :
    ∃ others t, reveal others offset rest = .ok t ∧ s.text = t.text := by
  rw [reveal] at h
  split at h
  · cases h
  · next others runs hturn =>
    obtain ⟨t, ht, rfl⟩ := map_eq_ok_iff.mp h
    exact ⟨others, t, ht, rfl⟩

theorem exists_reveal_plain {opened : List Tag} {offset : Nat} {text : Text} {rest : List Chunk}
    {s : Styled} (h : reveal opened offset (.plain text :: rest) = .ok s) :
    ∃ t, reveal opened (offset + (shown text).length) rest = .ok t ∧
      s.text = shown text ++ t.text := by
  obtain ⟨t, ht, rfl⟩ := map_eq_ok_iff.mp h
  exact ⟨t, ht, rfl⟩

-- A mark in a style of its own.
def sign (style : Text) (mark : CodePoint) : Text :=
  bracketed style ++ mark :: bracketed (.char '/' :: style)

-- A sign whose mark is visible in one cell.
structure IsSign (style : Text) (mark : CodePoint) : Prop where
  opens : IsTag style
  closes : IsTag (.char '/' :: style)
  plain : IsPlain mark
  ink : Text.isBlank mark = false
  width : Text.pointWidth mark = 1

namespace IsSign

variable {style : Text} {mark : CodePoint} {message : Text}

-- A sign is cut into the mark and the tags around it, whatever message follows.
theorem pieces_eq (h : IsSign style mark) (message : Text) :
    pieces (sign style mark ++ .char ' ' :: message) =
      .tag 0 style :: .plain 0 mark :: .tag 0 (.char '/' :: style) ::
        .plain 0 (.char ' ') :: pieces message := by
  rw [pieces, sign, List.append_assoc, piecesAfter_bracketed h.opens, List.cons_append,
    piecesAfter_cons h.plain, piecesAfter_bracketed h.closes, piecesAfter_cons isPlain_space,
    pieces]

theorem chunks_eq (h : IsSign style mark) (message : Text) :
    chunks (pieces (sign style mark ++ .char ' ' :: message)) =
      .plain [] :: .tag style :: .plain [mark] :: .tag (.char '/' :: style) ::
        addPlain [.char ' '] (chunks (pieces message)) := by
  rw [h.pieces_eq, chunks, chunks, chunks, chunks]
  simp [slashes, h.plain.2.1, addPlain]

-- Of a message behind a sign the mark is seen first, and then the space.
theorem prefix_visible (h : IsSign style mark) {s : Styled}
    (seen : visible (sign style mark ++ .char ' ' :: message) = .ok s) :
    [mark, .char ' '] <+: s.text := by
  obtain ⟨more, others, hbehind⟩ := exists_addPlain [.char ' '] (chunks (pieces message))
  rw [visible, h.chunks_eq, hbehind] at seen
  obtain ⟨s₁, h₁, ht₁⟩ := exists_reveal_plain seen
  obtain ⟨_, s₂, h₂, ht₂⟩ := exists_reveal_tag h₁
  obtain ⟨s₃, h₃, ht₃⟩ := exists_reveal_plain h₂
  obtain ⟨_, s₄, h₄, ht₄⟩ := exists_reveal_tag h₃
  obtain ⟨s₅, -, ht₅⟩ := exists_reveal_plain h₄
  rw [ht₁, ht₂, ht₃, ht₄, ht₅, shown_nil, shown_cons h.plain, shown_nil, List.singleton_append,
    List.singleton_append, shown_cons isPlain_space]
  exact ⟨shown more ++ s₅.text, rfl⟩

-- A plain message is seen as it stands, if the style of the sign is one.
theorem visible_of_plain (h : IsSign style mark) {opened : List Tag}
    (hopen : turn [] 0 style = .ok (opened, []))
    (hclose : turn opened 1 (.char '/' :: style) = .ok ([], []))
    (hmessage : ∀ c ∈ message, IsPlain c) :
    visible (sign style mark ++ .char ' ' :: message) = .ok ⟨mark :: .char ' ' :: message, []⟩ := by
  have hmark : shown [mark] = [mark] := by rw [shown_cons h.plain, shown_nil]
  have hspace : shown (.char ' ' :: message) = .char ' ' :: message := by
    rw [shown_cons isPlain_space, shown_of_plain hmessage]
  rw [visible, h.chunks_eq, chunks_of_plain hmessage]
  simp [addPlain, reveal, shown_nil, hmark, hspace, hopen, hclose, Except.map]

end IsSign

end CommandCompletion.Markup
