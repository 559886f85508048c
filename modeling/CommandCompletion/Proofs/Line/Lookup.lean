import CommandCompletion.Line.Suggestion
import CommandCompletion.Proofs.Line.Course
import CommandCompletion.Sample

namespace CommandCompletion

variable {g : Grammar}

-- The spot that a walk from `start` stands on after so many steps.
def Walk.spotAfter (walk : Walk g) (start : g.Spot) (count : Nat) : g.Spot :=
  ((walk.steps.take count).getLast?.map (·.spot)).getD start

namespace Grammar

-- A course goes through its spots in the order in which a walk by names finds them.
theorem Course.findFrom_take {start tip : g.Spot} {line left : Text} {steps : List (Step g)}
    (course : g.Course start line steps tip left) (count : Nat) :
    g.findFrom start ((steps.map (·.name)).take count) =
      .ok (some (((steps.take count).getLast?.map (·.spot)).getD start)) := by
  rw [← List.take_append_drop count steps] at course
  obtain ⟨spot, here, front, -⟩ := course.cut
  rw [← List.map_take, front.findFrom, front.tip_eq]

-- The walk that a parse comes from takes the turns of a course.
theorem exists_course_of_parseFrom {start : g.Spot} {line : Text} {parse : Parse g}
    (parsed : g.parseFrom start line = .ok parse) :
    g.Course start line (g.walk start line).steps parse.tip parse.remainder ∧
      g.Stops parse.tip parse.remainder ∧
        parse.path = (g.walk start line).steps.map (·.name) := by
  obtain ⟨steps, course, stops, -, hpath⟩ := parseFrom_eq_ok_iff.mp parsed
  have hsteps : (g.walk start line).steps = steps := by
    rw [walk_of_course course, walk_of_stops stops]
    exact List.append_nil steps
  rw [hsteps]
  exact ⟨course, stops, hpath⟩

-- The path of a parse finds every spot on its way and at last its tip, and candidates are drawn
-- from the children of what it finds.
theorem find_path_of_parse {line : Text} {parse : Parse g} (parsed : g.parse line = .ok parse) :
    g.find parse.path = .ok (some parse.tip) ∧
      (∀ count, g.find (parse.path.take count) =
        .ok (some ((g.walk g.top line).spotAfter g.top count))) ∧
      ∀ found, g.find parse.path = .ok (some found) →
        ∃ children, g.childrenOf found = .ok children ∧
          ∀ registries, g.suggest registries parse.tip parse.remainder =
            .ok (((children.flatMap fun (name, child) => child.node.offers name registries).filter
              (·.extends? parse.remainder)).map (·.addCommitCharacters commitCharacters)) := by
  obtain ⟨course, ⟨children, hc, -⟩, hpath⟩ := exists_course_of_parseFrom parsed
  have atEnd : g.find parse.path = .ok (some parse.tip) := by
    rw [hpath]
    exact course.findFrom
  refine ⟨atEnd, fun count => ?_, fun found hfound => ?_⟩
  · rw [hpath]
    exact course.findFrom_take count
  · rw [atEnd] at hfound
    cases hfound
    refine ⟨children, hc, fun registries => ?_⟩
    rw [suggest, hc]
    rfl

-- A line that goes twice through the root by a redirect and ends on a node that redirects itself.
theorem find_path_of_parse_sample :
    let g := Sample.grammar
    let line : Text := "execute run execute at @s run tp "
    let path : Path := ["execute", "run", "execute", "at", "targets", "run", "tp"]
    ∃ parse children, g.parse line = .ok parse ∧ parse.path = path ∧
      g.find path = .ok (some parse.tip) ∧
      g.find (path.take 3) = .ok (some ((g.walk g.top line).spotAfter g.top 3)) ∧
      g.childrenOf parse.tip = .ok children := by
  intro g line path
  have parsed : (g.parse line).map (·.path) = .ok path := by decide +kernel
  obtain ⟨parse, hparse, hpath⟩ := map_eq_ok_iff.mp parsed
  obtain ⟨atEnd, onTheWay, drawn⟩ := find_path_of_parse hparse
  obtain ⟨children, hc, -⟩ := drawn _ atEnd
  rw [hpath] at atEnd onTheWay
  exact ⟨parse, children, hparse, hpath, atEnd, onTheWay 3, hc⟩

end Grammar

end CommandCompletion
