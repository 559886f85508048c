import CommandCompletion.Proofs.Markup.Sign

namespace CommandCompletion.Markup

variable {text rest inside after : Text} {ps : List Piece} {cs : List Chunk}

theorem piecesAfter_slashes (n more : Nat) (rest : Text) :
    piecesAfter n (slashes more ++ rest) = piecesAfter (n + more) rest := by
  induction more generalizing n with
  | zero => rfl
  | succ more ih =>
    rw [slashes, List.replicate_succ, List.cons_append, piecesAfter, if_pos rfl, ← slashes, ih,
      Nat.add_right_comm, Nat.add_assoc]

theorem piecesAfter_plain {c : CodePoint} (hslash : c ≠ .char '\\')
    (hopen : c = .char '[' → tag? rest = none) (n : Nat) :
    piecesAfter n (c :: rest) = .plain n c :: piecesAfter 0 rest := by
  rw [piecesAfter, if_neg hslash]
  split
  · next hc =>
    split
    · next hsome =>
      rw [hopen hc] at hsome
      cases hsome
    · rfl
  · rfl

theorem piecesAfter_tag (h : tag? text = some (inside, after)) (n : Nat) :
    piecesAfter n (.char '[' :: text) = .tag n inside :: piecesAfter 0 after := by
  rw [piecesAfter]
  split
  · next hslash => exact absurd hslash (by decide)
  · simp only [↓reduceIte]
    split
    · next hsome =>
      rw [h] at hsome
      cases hsome
      rfl
    · next hnone =>
      rw [h] at hnone
      cases hnone

theorem isTag_of_tag? (h : tag? text = some (inside, after)) : IsTag inside := by
  unfold tag? at h
  split at h
  · cases h
  · next c rest =>
    split at h
    · next hopens =>
      split at h
      · cases h
        exact ⟨hopens, fun c hc => List.all_eq_true.mp List.all_takeWhile c hc⟩
      · cases h
    · cases h

-- A text behind backslashes, with one more than twice its own in front of each tag.
def guardedAfter (n : Nat) (text : Text) : Text :=
  (piecesAfter n text).flatMap (·.guarded.source)

theorem guardedAfter_nil (n : Nat) : guardedAfter n [] = slashes n := by
  simp [guardedAfter, piecesAfter, Piece.guarded, Piece.source]

theorem guardedAfter_slash (n : Nat) (rest : Text) :
    guardedAfter n (.char '\\' :: rest) = guardedAfter (n + 1) rest := by
  rw [guardedAfter, piecesAfter, if_pos rfl, guardedAfter]

theorem guardedAfter_tag (h : tag? rest = some (inside, after)) (n : Nat) :
    guardedAfter n (.char '[' :: rest) =
      slashes (2 * n + 1) ++ (bracketed inside ++ guardedAfter 0 after) := by
  rw [guardedAfter, piecesAfter_tag h, List.flatMap_cons, Piece.guarded, Piece.source,
    List.append_assoc, guardedAfter]

theorem guardedAfter_plain {c : CodePoint} (hslash : c ≠ .char '\\')
    (hopen : c = .char '[' → tag? rest = none) (n : Nat) :
    guardedAfter n (c :: rest) = slashes n ++ c :: guardedAfter 0 rest := by
  rw [guardedAfter, piecesAfter_plain hslash hopen, List.flatMap_cons, guardedAfter]
  exact List.append_assoc _ _ _

-- What follows a bracket in a text is a tag or not, and any other character but a backslash is
-- plain.
theorem cases_text {motive : Nat → Text → Prop} (nil : ∀ n, motive n [])
    (slash : ∀ n rest, motive (n + 1) rest → motive n (.char '\\' :: rest))
    (tag : ∀ n rest inside after, tag? rest = some (inside, after) → motive 0 after →
      motive n (.char '[' :: rest))
    (plain : ∀ n c rest, c ≠ .char '\\' → (c = .char '[' → tag? rest = none) → motive 0 rest →
      motive n (c :: rest)) (n : Nat) (text : Text) : motive n text := by
  fun_induction piecesAfter n text with
  | case1 n => exact nil n
  | case2 n rest ih => exact slash n rest ih
  | case3 n rest inside after h _ ih => exact tag n rest inside after h ih
  | case4 n rest h _ ih => exact plain n _ rest (by decide) (fun _ => h) ih
  | case5 n c rest hslash hopen ih => exact plain n c rest hslash (fun h => absurd h hopen) ih

theorem exists_slashes_append {n : Nat} (h : 0 < n) (rest : Text) :
    ∃ others, slashes n ++ rest = .char '\\' :: others := by
  obtain ⟨n, rfl⟩ := Nat.exists_eq_succ_of_ne_zero (Nat.ne_of_gt h)
  exact ⟨slashes n ++ rest, rfl⟩

theorem exists_guardedAfter {n : Nat} (h : 0 < n) (text : Text) :
    ∃ others, guardedAfter n text = .char '\\' :: others := by
  induction n, text using cases_text with
  | nil n =>
    rw [guardedAfter_nil, ← List.append_nil (slashes n)]
    exact exists_slashes_append h []
  | slash n rest ih =>
    rw [guardedAfter_slash]
    exact ih n.succ_pos
  | tag n rest inside after htag =>
    rw [guardedAfter_tag htag]
    exact exists_slashes_append (Nat.succ_pos _) _
  | plain n c rest hslash hopen =>
    rw [guardedAfter_plain hslash hopen]
    exact exists_slashes_append h _

theorem dropWhile_slashes (n : Nat) (rest : Text) :
    (slashes n ++ rest).dropWhile staysInTag = rest.dropWhile staysInTag :=
  List.dropWhile_append_of_pos fun _ hc => List.eq_of_mem_replicate hc ▸ by decide

-- The first bracket stays the same.
theorem head?_dropWhile_guardedAfter (n : Nat) (text : Text) :
    ((guardedAfter n text).dropWhile staysInTag).head? = (text.dropWhile staysInTag).head? := by
  have hbracket : staysInTag (.char '[') = false := by decide
  induction n, text using cases_text with
  | nil n =>
    have h := dropWhile_slashes n []
    rw [List.append_nil] at h
    rw [guardedAfter_nil, h]
  | slash n rest ih =>
    rw [guardedAfter_slash, ih, List.dropWhile_cons_of_pos (by decide)]
  | tag n rest inside after htag =>
    rw [guardedAfter_tag htag, dropWhile_slashes, bracketed, List.cons_append, List.cons_append,
      List.dropWhile_cons_of_neg (by simp [hbracket]),
      List.dropWhile_cons_of_neg (by simp [hbracket])]
    rfl
  | plain n c rest hslash hopen ih =>
    rw [guardedAfter_plain hslash hopen, dropWhile_slashes]
    by_cases stays : staysInTag c = true
    · rw [List.dropWhile_cons_of_pos stays, List.dropWhile_cons_of_pos stays, ih]
    · rw [List.dropWhile_cons_of_neg stays, List.dropWhile_cons_of_neg stays]
      rfl

theorem tag?_eq_none_iff {c : CodePoint} : tag? (c :: rest) = none ↔
    (opensTag c = true → (rest.dropWhile staysInTag).head? ≠ some (.char ']')) := by
  unfold tag?
  dsimp only
  split
  · next hopens =>
    split
    · next hdrop => simp [hdrop, hopens]
    · next hother =>
      simp only [hopens, forall_const, true_iff]
      intro hhead
      obtain ⟨after, hafter⟩ := List.head?_eq_some_iff.mp hhead
      exact hother _ hafter
  · next hopens => simp [hopens]

-- Guards make no tag of what was none.
theorem tag?_guardedAfter (h : tag? text = none) : tag? (guardedAfter 0 text) = none := by
  have hslash (others : Text) : tag? (.char '\\' :: others) = none :=
    tag?_eq_none_iff.mpr fun hopens => absurd hopens (by decide)
  cases text with
  | nil =>
    rw [guardedAfter_nil]
    rfl
  | cons c rest =>
    by_cases hc : c = .char '\\'
    · subst hc
      obtain ⟨others, ho⟩ := exists_guardedAfter (Nat.succ_pos 0) rest
      rw [guardedAfter_slash, ho]
      exact hslash others
    · by_cases hopen : c = .char '[' → tag? rest = none
      · rw [guardedAfter_plain hc hopen]
        refine tag?_eq_none_iff.mpr fun hopens => ?_
        rw [head?_dropWhile_guardedAfter]
        exact tag?_eq_none_iff.mp h hopens
      · obtain ⟨rfl, hsome⟩ := Classical.not_imp.mp hopen
        obtain ⟨⟨inside, after⟩, htag⟩ := Option.ne_none_iff_exists'.mp hsome
        rw [guardedAfter_tag htag]
        exact hslash _

-- What was guarded is cut into the same pieces again, each with its guard.
theorem pieces_guardedAfter (n : Nat) (text : Text) :
    pieces (guardedAfter n text) = (piecesAfter n text).map (·.guarded) := by
  have hslashes (n : Nat) (rest : Text) : pieces (slashes n ++ rest) = piecesAfter n rest := by
    rw [pieces, piecesAfter_slashes, Nat.zero_add]
  induction n, text using cases_text with
  | nil n =>
    rw [guardedAfter_nil, ← List.append_nil (slashes n), hslashes, piecesAfter]
    rfl
  | slash n rest ih => rw [guardedAfter_slash, ih, piecesAfter, if_pos rfl]
  | tag n rest inside after htag ih =>
    rw [guardedAfter_tag htag, hslashes, piecesAfter_bracketed (isTag_of_tag? htag), ← pieces, ih,
      piecesAfter_tag htag]
    rfl
  | plain n c rest hslash hopen ih =>
    rw [guardedAfter_plain hslash hopen, hslashes,
      piecesAfter_plain hslash fun hc => tag?_guardedAfter (hopen hc), ← pieces, ih,
      piecesAfter_plain hslash hopen]
    rfl

-- What closes no tag opens none behind a bracket that opened none.
theorem tag?_append_eq_none {more : Text} (h : tag? text = none) (hmore : tag? more = none)
    (hclose : (more.dropWhile staysInTag).head? ≠ some (.char ']')) :
    tag? (text ++ more) = none := by
  cases text with
  | nil => exact hmore
  | cons c rest =>
    rw [List.cons_append]
    refine tag?_eq_none_iff.mpr fun hopens => ?_
    rw [List.dropWhile_append]
    split
    · exact hclose
    · next hrest =>
      rw [List.head?_append_of_ne_nil _ (by simpa using hrest)]
      exact tag?_eq_none_iff.mp h hopens

theorem tag?_append_of_some (h : tag? text = some (inside, after)) (more : Text) :
    tag? (text ++ more) = some (inside, after ++ more) := by
  rw [eq_of_tag? h, List.append_assoc, List.cons_append]
  exact tag?_append (isTag_of_tag? h) _

-- A backslash at the end guards nothing.
theorem guardedAfter_append_slash (n : Nat) (text : Text) :
    guardedAfter n (text ++ [.char '\\']) = guardedAfter n text ++ [.char '\\'] := by
  induction n, text using cases_text with
  | nil n =>
    rw [List.nil_append, guardedAfter_slash, guardedAfter_nil, guardedAfter_nil, slashes,
      List.replicate_succ', slashes]
  | slash n rest ih => rw [List.cons_append, guardedAfter_slash, ih, guardedAfter_slash]
  | tag n rest inside after htag ih =>
    rw [List.cons_append, guardedAfter_tag (tag?_append_of_some htag _), guardedAfter_tag htag, ih]
    simp only [List.append_assoc]
  | plain n c rest hslash hopen ih =>
    rw [List.cons_append, guardedAfter_plain hslash fun hc =>
        tag?_append_eq_none (hopen hc) rfl (by decide),
      guardedAfter_plain hslash hopen, ih, List.append_assoc, List.cons_append]

theorem exists_escape (text : Text) : ∃ source, escape text = guardedAfter 0 source := by
  have hslash : Text.ofString "\\" = [.char '\\'] := by decide
  unfold escape
  rw [hslash]
  dsimp only
  split
  · exact ⟨_, (guardedAfter_append_slash 0 text).symm⟩
  · exact ⟨text, rfl⟩

theorem tag_mem_addPlain (h : .tag inside ∈ addPlain text cs) : .tag inside ∈ cs := by
  unfold addPlain at h
  split at h
  · exact List.mem_cons_of_mem _ ((List.mem_cons.mp h).resolve_left nofun)
  · exact (List.mem_cons.mp h).resolve_left nofun

-- Guarded tags are kept as text.
theorem tag_notMem_chunks (ps : List Piece) : .tag inside ∉ chunks (ps.map (·.guarded)) := by
  induction ps with
  | nil => exact List.not_mem_nil
  | cons piece ps ih =>
    intro h
    cases piece with
    | plain n c => exact ih (tag_mem_addPlain h)
    | ending n => exact ih (tag_mem_addPlain h)
    | tag n name =>
      have hodd : (2 * n + 1) % 2 = 1 := by omega
      rw [List.map_cons, Piece.guarded, chunks, if_pos hodd] at h
      exact ih ((List.mem_cons.mp (tag_mem_addPlain h)).resolve_left (by simp))

theorem tag_notMem_escape (text : Text) : .tag inside ∉ chunks (pieces (escape text)) := by
  obtain ⟨source, hsource⟩ := exists_escape text
  rw [hsource, pieces_guardedAfter]
  exact tag_notMem_chunks _

-- What holds no tags is shown where none is open.
theorem exists_reveal_of_untagged (untagged : ∀ inside, .tag inside ∉ cs) (offset : Nat) :
    ∃ text, reveal [] offset cs = .ok ⟨text, []⟩ := by
  induction cs generalizing offset with
  | nil => exact ⟨[], rfl⟩
  | cons chunk cs ih =>
    have hothers (offset : Nat) := ih (fun inside h => untagged inside (List.mem_cons_of_mem _ h))
      offset
    cases chunk with
    | plain more =>
      obtain ⟨text, htext⟩ := hothers (offset + (shown more).length)
      exact ⟨shown more ++ text, by rw [reveal, htext]; rfl⟩
    | kept name =>
      obtain ⟨text, htext⟩ := hothers (offset + (shown (bracketed name)).length)
      exact ⟨shown (bracketed name) ++ text, by simp only [reveal, htext]; rfl⟩
    | tag name => exact absurd List.mem_cons_self (untagged name)

-- An escaped message behind a sign is shown, whatever it holds.
theorem IsSign.exists_visible_escape {style : Text} {mark : CodePoint} (h : IsSign style mark)
    {opened : List Tag} (hopen : turn [] 0 style = .ok (opened, []))
    (hclose : turn opened 1 (.char '/' :: style) = .ok ([], [])) (message : Text) :
    ∃ text, visible (sign style mark ++ .char ' ' :: escape message) = .ok ⟨text, []⟩ := by
  have hmark : shown [mark] = [mark] := by rw [shown_cons h.plain, shown_nil]
  have untagged (inside : Text) :
      .tag inside ∉ addPlain [.char ' '] (chunks (pieces (escape message))) :=
    fun htag => tag_notMem_escape message (tag_mem_addPlain htag)
  obtain ⟨text, htext⟩ := exists_reveal_of_untagged untagged 1
  rw [visible, h.chunks_eq]
  simp [reveal, shown_nil, hmark, hopen, hclose, htext, Except.map]

end CommandCompletion.Markup
