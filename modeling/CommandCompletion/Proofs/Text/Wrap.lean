import CommandCompletion.Proofs.Text.Spacing
import CommandCompletion.Text.Wrap
import Mathlib.Data.List.Infix

namespace CommandCompletion.Text

-- A page begins as the text that is laid out on it does. The beginning that is followed through
-- the layout is a mark that takes one cell and the space behind it.

theorem splitLines_ne_nil (text : Text) : splitLines text ≠ [] := by
  cases text with
  | nil => simp [splitLines]
  | cons c rest =>
    rw [splitLines]
    split
    · split <;> simp
    · simp

theorem exists_splitLines {front : Text} (h : .char '\n' ∉ front) (rest : Text) :
    ∃ first others, splitLines (front ++ rest) = (front ++ first) :: others := by
  induction front with
  | nil =>
    obtain ⟨first, others, he⟩ := List.exists_cons_of_ne_nil (splitLines_ne_nil rest)
    exact ⟨first, others, he⟩
  | cons c front ih =>
    rw [List.mem_cons, not_or] at h
    obtain ⟨first, others, he⟩ := ih h.2
    refine ⟨first, others, ?_⟩
    rw [List.cons_append, splitLines, he]
    simp [Ne.symm h.1]

theorem exists_tabPieces {front : Text} (hne : front ≠ []) (h : .char '\t' ∉ front) (rest : Text) :
    ∃ more others, tabPieces (front ++ rest) = (front ++ more) :: others := by
  induction front with
  | nil => exact absurd rfl hne
  | cons c front ih =>
    rw [List.mem_cons, not_or] at h
    rw [List.cons_append, tabPieces, if_neg (Ne.symm h.1)]
    cases front with
    | nil => split <;> simp
    | cons d front =>
      obtain ⟨more, others, he⟩ := ih (by simp) h.2
      exact ⟨more, others, by rw [he]; rfl⟩

-- Only a line of white space has no words.
theorem spacedWords_eq_nil_iff {line : Text} : spacedWords line = [] ↔ IsGap line := by
  induction line with
  | nil => simp [spacedWords, IsGap]
  | cons c rest ih =>
    rw [IsGap, List.forall_mem_cons, ← IsGap, ← ih, spacedWords]
    split
    · next hnil => simp [hnil]
    · next word others hwords =>
      simp only [hwords, reduceCtorEq, and_false, iff_false]
      split <;> simp

-- A mark and the white space behind it make up the first word of a line.
theorem exists_spacedWords {mark : CodePoint} (ink : isBlank mark = false) (rest : Text) :
    ∃ gap others, IsGap gap ∧
      spacedWords (mark :: .char ' ' :: rest) = (mark :: .char ' ' :: gap) :: others := by
  have space : isBlank (.char ' ') = true := by decide
  cases hwords : spacedWords rest with
  | nil =>
    refine ⟨rest, [], spacedWords_eq_nil_iff.mp hwords, ?_⟩
    simp [spacedWords, hwords, space, ink]
  | cons word others =>
    refine ⟨word.takeWhile isBlank, word.dropWhile isBlank :: others,
      fun c hc => List.mem_takeWhile_imp hc, ?_⟩
    simp [spacedWords, hwords, space, ink]

namespace Wrapping

-- The first of the lines in the making.
def firstLine (w : Wrapping) : Text :=
  ((w.current :: w.finished).getLast (List.cons_ne_nil _ _)).reverse.flatten

theorem lines_eq_cons (w : Wrapping) : ∃ others, w.lines = w.firstLine :: others := by
  have hlast := List.dropLast_append_getLast (List.cons_ne_nil w.current w.finished)
  refine ⟨(w.current :: w.finished).dropLast.reverse.map fun pieces => pieces.reverse.flatten, ?_⟩
  rw [lines, firstLine, ← List.map_cons (f := fun pieces : List Text => pieces.reverse.flatten),
    ← List.reverse_concat', hlast]

theorem firstLine_add (w : Wrapping) (piece : Text) :
    w.firstLine <+: (w.add piece).firstLine := by
  obtain ⟨finished, current, taken⟩ := w
  cases finished with
  | nil => simp [firstLine, add]
  | cons line finished => simp [firstLine, add]

theorem firstLine_breakLine (w : Wrapping) : w.breakLine.firstLine = w.firstLine := by
  unfold breakLine
  split <;> simp [firstLine]

-- What is placed goes behind the first line.
theorem firstLine_place (overflow : Overflow) (limit : Nat) (w : Wrapping) (word : Text) :
    w.firstLine <+: (w.place overflow limit word).firstLine := by
  have next (w : Wrapping) (piece : Text) :
      w.firstLine <+: (w.breakLine.add piece).firstLine := by
    rw [← firstLine_breakLine w]
    exact firstLine_add _ _
  have folded (pieces : List Text) (w : Wrapping) :
      w.firstLine <+: (pieces.foldl (fun w piece => w.breakLine.add piece) w).firstLine := by
    induction pieces generalizing w with
    | nil => exact List.prefix_rfl
    | cons piece pieces ih => exact (next w piece).trans (ih _)
  unfold place
  simp only
  split
  · exact firstLine_add _ _
  · split
    · exact next _ _
    · split
      · exact folded _ _
      · exact next _ _

theorem firstLine_foldl_place (overflow : Overflow) (limit : Nat) (words : List Text)
    (w : Wrapping) :
    w.firstLine <+: (words.foldl (place overflow limit) w).firstLine := by
  induction words generalizing w with
  | nil => exact List.prefix_rfl
  | cons word words ih => exact (firstLine_place overflow limit w word).trans (ih _)

end Wrapping

-- The first piece of a line begins with its mark.
theorem exists_wrap {mark : CodePoint} (ink : isBlank mark = false) (width : pointWidth mark = 1)
    (overflow : Overflow) {limit : Nat} (roomy : 0 < limit) (rest : Text) :
    ∃ first others, wrap overflow limit (mark :: .char ' ' :: rest) = first :: others ∧
      [mark, .char ' '] <+: first := by
  obtain ⟨gap, others, blank, hwords⟩ := exists_spacedWords ink rest
  have placed : Wrapping.place overflow limit {} (mark :: .char ' ' :: gap) =
      Wrapping.add {} (mark :: .char ' ' :: gap) := by
    have htrim : trimEnd ([mark] ++ .char ' ' :: gap) = [mark] :=
      trimEnd_append_gap (by simpa [Tight] using ink)
        (List.forall_mem_cons.mpr ⟨by decide, blank⟩)
    have hwidth : Text.width [mark] = 1 := by
      have hselector : mark ≠ pictureSelector := by
        rintro rfl
        exact absurd width (by decide)
      have hjoiner : mark ≠ joiner := by
        rintro rfl
        exact absurd width (by decide)
      simp [Text.width, widthFrom, hselector, hjoiner, width]
    rw [List.singleton_append] at htrim
    unfold Wrapping.place
    simp only [htrim, hwidth]
    rw [if_pos (by simpa using Nat.succ_le_of_lt roomy)]
  have hfirst := Wrapping.firstLine_foldl_place overflow limit others
    (Wrapping.add {} (mark :: .char ' ' :: gap))
  obtain ⟨more, hlines⟩ := Wrapping.lines_eq_cons
    (others.foldl (Wrapping.place overflow limit) (Wrapping.add {} (mark :: .char ' ' :: gap)))
  refine ⟨_, more, ?_, List.IsPrefix.trans ?_ hfirst⟩
  · simp only [wrap, hwords, List.foldl_cons, placed, hlines]
  · exact ⟨gap, by simp [Wrapping.firstLine, Wrapping.add]⟩

theorem prefix_trimBeyond {front line : Text} {limit : Nat} (h : front <+: line)
    (roomy : front.length ≤ limit) : front <+: trimBeyond limit line := by
  have hlength := h.length_le
  rw [trimBeyond, List.prefix_take_iff]
  exact ⟨h, by omega⟩

theorem tail_grow (more : Text) (extra : Nat) (done : List Cluster) :
    (grow more extra done).tail = done.tail := by
  cases done <;> rfl

-- Only the last cluster, which comes first, can still grow.
theorem prefix_clustersAfter (done : List Cluster) (last : Option CodePoint) (text : Text) :
    done.tail.reverse <+: clustersAfter done last text := by
  have kept (done : List Cluster) : done.tail.reverse <+: done.reverse :=
    List.reverse_prefix.mpr (List.tail_suffix done)
  fun_induction clustersAfter done last text with
  | case1 => exact kept _
  | case2 done last c =>
    split
    · exact (kept done).trans (by simp)
    · split <;> rw [← tail_grow] <;> exact kept _
  | case3 done last c next rest h ih => rwa [tail_grow] at ih
  | case4 done last c next rest h wide ih => exact (kept _).trans ih
  | case5 done last c next rest h wide selects ih => rwa [tail_grow] at ih
  | case6 done last c next rest h wide selects ih => rwa [tail_grow] at ih

theorem exists_clusters {mark : CodePoint} (width : pointWidth mark = 1) (rest : Text) :
    ∃ others, clusters (mark :: .char ' ' :: rest) = ⟨[mark], 1⟩ :: others := by
  have space : pointWidth (.char ' ') = 1 := by decide
  have hspace : (.char ' ' : CodePoint) ≠ joiner := by decide
  have marked : clusters (mark :: .char ' ' :: rest) =
      clustersAfter [⟨[mark], 1⟩] (some mark) (.char ' ' :: rest) := by
    simp [clusters, clustersAfter, width]
  rw [marked]
  cases rest with
  | nil => exact ⟨_, by simp [clustersAfter, space]; rfl⟩
  | cons next rest =>
    obtain ⟨others, he⟩ := prefix_clustersAfter [⟨[.char ' '], 1⟩, ⟨[mark], 1⟩]
      (some (.char ' ')) (next :: rest)
    exact ⟨others, by simp [clustersAfter, space, hspace, ← he]⟩

theorem prefix_truncate {mark : CodePoint} (width : pointWidth mark = 1) {line : Text}
    (h : [mark, .char ' '] <+: line) {limit : Nat} (roomy : 0 < limit) :
    [mark] <+: truncate .fold limit line := by
  obtain ⟨rest, rfl⟩ := h
  obtain ⟨others, hclusters⟩ := exists_clusters width rest
  have whole : [mark] <+: [mark, .char ' '] ++ rest := by simp
  unfold truncate
  split
  · exact whole
  · next wide =>
    obtain ⟨limit, rfl⟩ := Nat.exists_eq_add_one.mpr roomy
    simp only [takeCells, wide, ↓reduceIte]
    rw [List.cons_append, List.singleton_append, hclusters]
    simp [takeClusters]

end CommandCompletion.Text
