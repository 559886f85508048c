import CommandCompletion.Proofs.Markup.Sign
import CommandCompletion.Report.Table

namespace CommandCompletion

namespace Table

-- Plain cells are seen as they stand, where there is room for them.
theorem look_of_plain {t : Table} (unstyled : t.styles = [])
    (plain : ∀ cells ∈ t.lines, ∀ text ∈ cells, ∀ c ∈ text, Markup.IsPlain c) :
    t.look = .ok ((List.range t.columns).map fun i => t.lines.map fun cells =>
      ⟨if t.isRoomy then cell cells i else [], []⟩) := by
  refine mapM_eq_ok fun i _ => ?_
  have styled : t.checkStyle i = .ok () := by
    rw [checkStyle, unstyled]
    rfl
  have seen (cells : List Text) (hcells : cells ∈ t.lines) :
      Markup.visible (cell cells i) = .ok ⟨cell cells i, []⟩ := by
    refine Markup.visible_of_plain fun c hc => ?_
    unfold cell at hc
    cases htext : cells[i]? with
    | none => simp [htext] at hc
    | some text =>
      rw [htext] at hc
      exact plain cells hcells text (List.mem_of_getElem? htext) c hc
  have looked : (if t.isRoomy then t.lines.mapM fun cells => Markup.visible (cell cells i)
      else return t.lines.map fun _ => ⟨[], []⟩) =
      Except.ok (t.lines.map fun cells => ⟨if t.isRoomy then cell cells i else [], []⟩) := by
    by_cases roomy : t.isRoomy = true
    · simpa only [if_pos roomy] using mapM_eq_ok seen
    · simp only [if_neg roomy]
      rfl
  rw [looked, styled]
  by_cases wide : 0 < t.limit
  · rw [if_pos wide]
    rfl
  · rw [if_neg wide]

end Table

end CommandCompletion
