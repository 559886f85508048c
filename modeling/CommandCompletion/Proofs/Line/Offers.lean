import CommandCompletion.Proofs.Grammar.Children
import CommandCompletion.Proofs.Line.Narrowing
import CommandCompletion.Sample

namespace CommandCompletion

-- What a child proposes before anything is typed: a literal its name, an argument all that could
-- stand for it. A space accepts each of it.
def Node.proposals (r : Registries) (name : Text) (child : Node) : List Candidate :=
  match child.kind with
  | .root => []
  | .literal => [⟨name, .keyword, none, [" "]⟩]
  | .argument => (child.argument.candidates r).map fun c => { c with commitCharacters := [" "] }

variable {r : Registries} {name : Text} {c : Candidate}

-- No candidate for an argument has commit characters of its own.
theorem Argument.commitCharacters_eq_nil {a : Argument} (h : c ∈ a.candidates r) :
    c.commitCharacters = [] := by
  have listed {names : List Text} (h : c ∈ identifiers names) : c.commitCharacters = [] := by
    obtain ⟨name, -, rfl⟩ := List.mem_map.mp h
    rfl
  cases a with
  | entity =>
    obtain ⟨selector, -, rfl⟩ := List.mem_map.mp h
    rfl
  | itemStack | blockState | blockPredicate => exact listed h
  | other => cases h
  | blockPos | vec3 | rotation =>
    simp only [candidates, List.mem_cons, List.not_mem_nil, or_false] at h
    rcases h with rfl | rfl <;> rfl

theorem Node.map_offers (child : Node) (name : Text) (r : Registries) :
    (child.offers name r).map (·.addCommitCharacters commitCharacters) = child.proposals r name := by
  unfold offers proposals
  cases child.kind with
  | root => rfl
  | literal => rfl
  | argument =>
    refine List.map_congr_left fun c hc => ?_
    simp [Candidate.addCommitCharacters, Argument.commitCharacters_eq_nil hc, commitCharacters]

theorem Node.commitCharacters_of_mem_proposals {child : Node} (h : c ∈ child.proposals r name) :
    c.commitCharacters = [" "] := by
  unfold proposals at h
  split at h
  · cases h
  · exact List.mem_singleton.mp h ▸ rfl
  · obtain ⟨plain, -, rfl⟩ := List.mem_map.mp h
    rfl

namespace Grammar

variable {g : Grammar}

theorem suggest_eq (r : Registries) {tip target : g.Spot} (resolved : tip.resolve = .ok target)
    (typed : Text) : g.suggest r tip typed =
      .ok ((target.node.children.flatMap fun (name, child) => child.proposals r name).filter
        (Continues typed ·.label)) := by
  have hmatches : (fun c : Candidate => c.extends? typed) =
      (fun c => decide (Continues typed c.label)) ∘ (·.addCommitCharacters commitCharacters) := by
    funext c
    exact Bool.eq_iff_iff.mpr (Candidate.extends?_iff.trans decide_eq_true_iff.symm)
  rw [suggest, childrenOf, resolved, ← map_ownChildren, List.flatMap_map]
  simp only [Except.map, hmatches, ← List.filter_map, List.map_flatMap, Node.map_offers]

-- The laws of suggestions. All that the children propose is suggested while nothing is typed, in
-- their order, and each of it is accepted by a space. When something is typed what goes on from it
-- is left, and when more is typed no more than that.
theorem suggest_laws (g : Grammar) (r : Registries) {tip target : g.Spot}
    (resolved : tip.resolve = .ok target) :
    ∃ all, all = (target.node.children.flatMap fun (name, child) => child.proposals r name) ∧
      g.suggest r tip [] = .ok all ∧ (∀ c ∈ all, c.commitCharacters = [" "]) ∧
      (∀ typed, g.suggest r tip typed = .ok (all.filter (Continues typed ·.label))) ∧
      ∀ typed longer, typed <+: longer → ∃ more fewer, g.suggest r tip typed = .ok more ∧
        g.suggest r tip longer = .ok fewer ∧ fewer.Sublist more := by
  refine ⟨_, rfl, ?_, fun c hc => ?_, suggest_eq r resolved, fun typed longer h => ?_⟩
  · rw [suggest_eq r resolved, List.filter_eq_self.mpr]
    exact fun c _ => decide_eq_true (.inl List.nil_prefix)
  · obtain ⟨child, -, hchild⟩ := List.mem_flatMap.mp hc
    exact Node.commitCharacters_of_mem_proposals hchild
  · have suggested := suggest_eq r resolved typed
    obtain ⟨fewer, hfewer, hsublist⟩ := exists_suggest_sublist h suggested
    exact ⟨_, fewer, suggested, hfewer, hsublist⟩

-- Behind an argument that leads on, a letter leaves some of the literals; items are found without
-- their namespace.
theorem suggest_laws_sample :
    let g := Sample.grammar
    let tip := g.spotAt ["execute", "at", "targets"] (by decide +kernel)
    let item := g.spotAt ["give", "targets"] (by decide +kernel)
    ∃ all items fewer, g.suggest Sample.registries tip [] = .ok all ∧
      (g.suggest Sample.registries tip "a" = .ok (all.filter (Continues "a" ·.label))) ∧
      g.suggest Sample.registries item "d" = .ok items ∧
      g.suggest Sample.registries item "dia" = .ok fewer ∧ fewer.Sublist items ∧
      fewer.map (·.label) = ["minecraft:diamond", "minecraft:diamond_sword"] := by
  intro g tip item
  let target := g.spotAt ["execute"] (by decide +kernel)
  have resolved : tip.resolve = .ok target := by decide +kernel
  have direct : item.resolve = .ok item := by decide +kernel
  obtain ⟨all, -, hall, -, hfilter, -⟩ := suggest_laws g Sample.registries resolved
  obtain ⟨_, -, -, -, -, hnarrow⟩ := suggest_laws g Sample.registries direct
  obtain ⟨items, fewer, hitems, hfewer, hsublist⟩ := hnarrow "d" "dia" ⟨"ia", rfl⟩
  have labels : (g.suggest Sample.registries item "dia").map (·.map (·.label)) =
      .ok ["minecraft:diamond", "minecraft:diamond_sword"] := by decide +kernel
  rw [hfewer] at labels
  exact ⟨all, items, fewer, hall, hfilter "a", hitems, hfewer, hsublist, Except.ok.inj labels⟩

end Grammar

end CommandCompletion
