import CommandCompletion.Proofs.Line.Choice
import CommandCompletion.Proofs.Line.Ending
import Mathlib.Data.List.Basic

namespace CommandCompletion

open Text (IsWord IsGap Flush Settled)

-- A name with something visible right behind it is not taken.
theorem takeLiteral_append_eq_none {name behind : Text} (hne : behind ≠ [])
    (flush : Flush behind) : takeLiteral name (name ++ behind) = none := by
  by_contra htakes
  obtain ⟨rest, taken⟩ := Option.ne_none_iff_exists'.mp htakes
  obtain ⟨gap, blank, he, -, hend⟩ := takeLiteral_eq_some_iff.mp taken
  have hbehind : behind = gap ++ rest := List.append_cancel_left he
  have detached : Text.Detached behind := by
    rw [hbehind]
    exact blank.detached_append fun hgap => hend hgap ▸ Text.detached_nil
  exact hne (detached.eq_nil flush)

namespace Grammar

variable {g : Grammar} {start spot tip : g.Spot} {line left behind : Text} {step : Step g}
  {steps : List (Step g)}

-- Everything in front of a remainder ends in a blank.
theorem Course.settled (course : g.Course start line steps tip left) (hne : left ≠ []) :
    Settled (steps.flatMap (·.taken)) := by
  induction course with
  | nil => simp [Settled]
  | @cons spot tip line rest left step steps turn others ih =>
    obtain ⟨phrase, spelled, htaken, -, hend⟩ := turn.spelled
    have closed : phrase.Closed := by
      by_contra hopen
      have hrest := hend hopen
      subst hrest
      exact hne others.of_nil.2
    rw [List.flatMap_cons, htaken]
    exact (spelled.settled_text closed).append (ih hne)

-- The names on the way of a line begin with that of a literal only if the literal takes something.
theorem isSome_bite?_of_walk (hmem : ∃ children, g.childrenOf spot = .ok children ∧
      (step.name, step.spot) ∈ children)
    (h : [step.name] <+: (g.walk spot line).steps.map (·.name)) :
    (step.spot.node.bite? step.name line).isSome := by
  rcases walk_cases spot line with ⟨fault, hc⟩ | stops | ⟨first, rest, turn⟩
  · rw [walk_of_error hc] at h
    simp at h
  · rw [walk_of_stops stops] at h
    simp at h
  · obtain ⟨children, hc, hstep⟩ := hmem
    obtain ⟨others, ho, hfirst⟩ := turn.mem_childrenOf
    cases hc.symm.trans ho
    rw [walk_of_turn turn] at h
    have hname : step.name = first.name := by simpa [Walk.cons] using h
    have hspot : step.spot = first.spot := by
      have found := Dict.get?_of_mem (nodup_names hc) hstep
      rw [hname, Dict.get?_of_mem (nodup_names hc) hfirst] at found
      exact (Option.some.inj found).symm
    rw [hname, hspot, turn.bite]
    rfl

-- Where the text of some steps does not end in a blank, the last of them is a literal that ends the
-- line.
theorem Course.exists_open_last (course : g.Course start line steps tip left)
    (unsettled : ¬Settled (steps.flatMap (·.taken))) :
    ∃ before step spot here children, steps = before ++ [step] ∧
      g.Course start line before spot here ∧ Settled (before.flatMap (·.taken)) ∧
      g.childrenOf spot = .ok children ∧ (step.name, step.spot) ∈ children ∧
      step.spot.node.kind = .literal ∧ step.taken = step.name := by
  rcases List.eq_nil_or_concat' steps with rfl | ⟨before, step, rfl⟩
  · exact absurd (by simp [Settled]) unsettled
  obtain ⟨spot, here, front, back⟩ := course.cut
  cases back with
  | cons turn others =>
    obtain ⟨phrase, spelled, htaken, -, -⟩ := turn.spelled
    obtain ⟨children, hc, hmem⟩ := turn.mem_childrenOf
    have hfront := front.settled (List.ne_nil_of_length_pos (Nat.zero_lt_of_lt turn.length_lt))
    have hopen : ¬phrase.Closed := by
      intro closed
      apply unsettled
      rw [List.flatMap_append, List.flatMap_singleton, htaken]
      exact hfront.append (spelled.settled_text closed)
    obtain ⟨kind, rfl, -⟩ := spelled.of_not_closed hopen
    exact ⟨before, step, spot, here, children, rfl, front, hfront, hc, hmem, kind,
      by simpa using htaken⟩

-- Something visible that is put behind what was taken leaves the steps as they are if the text in
-- front of it is empty or ends in a blank. Otherwise it would belong to the name of the last step,
-- which is then not taken again.
theorem Course.prefix_iff_settled (plain : g.PlainNames) (last : g.ArgumentLast)
    (course : g.Course start line steps tip left) (hne : behind ≠ []) (flush : Flush behind)
    {parse : Parse g}
    (parsed : g.parseFrom start (steps.flatMap (·.taken) ++ behind) = .ok parse) :
    steps.map (·.name) <+: parse.path ↔ Settled (steps.flatMap (·.taken)) := by
  constructor
  · intro kept
    by_contra unsettled
    obtain ⟨before, step, spot, here, children, rfl, front, hfront, hc, hmem, kind, hname⟩ :=
      course.exists_open_last unsettled
    have hword : IsWord step.name := plain.isWord hc hmem kind
    have again := front.replay plain last hfront (hword.flush_append behind)
    rw [List.flatMap_append, List.flatMap_singleton, hname, List.append_assoc] at parsed
    rw [again.path_eq parsed, List.map_append, List.prefix_append_right_inj] at kept
    have htakes := isSome_bite?_of_walk ⟨children, hc, hmem⟩ kept
    rw [Node.bite?, kind, takeLiteral_append_eq_none hne flush] at htakes
    cases htakes
  · intro settled
    have again := course.replay plain last settled flush
    exact ⟨_, (again.path_eq parsed).symm⟩

end Grammar

end CommandCompletion
