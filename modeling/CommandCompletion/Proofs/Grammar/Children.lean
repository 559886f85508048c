import CommandCompletion.Line.Walk
import CommandCompletion.Proofs.Text.Spacing
import Mathlib.Data.List.Pairwise

namespace CommandCompletion

open Text (isBlank IsWord)

namespace Node

-- The names of literal children have no blanks in them.
def PlainNames (node : Node) : Prop :=
  ∀ pair ∈ node.children, pair.2.kind = .literal → ∀ c ∈ pair.1, isBlank c = false

-- There is at most one argument among the children, and all literals stand before it.
def ArgumentLast (node : Node) : Prop :=
  (node.children.filter (·.2.kind = .argument)).length ≤ 1 ∧
    node.children.Pairwise fun earlier later =>
      earlier.2.kind = .argument → later.2.kind ≠ .literal

instance (node : Node) : Decidable node.PlainNames :=
  inferInstanceAs (Decidable (∀ pair ∈ node.children, _))

instance (node : Node) : Decidable node.ArgumentLast :=
  inferInstanceAs (Decidable (_ ∧ _))

-- Nothing that takes from a line stands behind an argument.
theorem ArgumentLast.pairwise {node : Node} (h : node.ArgumentLast) :
    node.children.Pairwise fun earlier later =>
      earlier.2.kind = .argument → later.2.kind ≠ .literal ∧ later.2.kind ≠ .argument := by
  obtain ⟨one, last⟩ := h
  have alone : (node.children.filter (·.2.kind = .argument)).Pairwise fun _ _ => False := by
    cases hf : node.children.filter (·.2.kind = .argument) with
    | nil => exact .nil
    | cons first others =>
      rw [hf, List.length_cons] at one
      have hnil : others = [] := List.length_eq_zero_iff.mp (by omega)
      rw [hnil]
      exact List.pairwise_singleton _ _
  rw [List.pairwise_filter] at alone
  refine (last.and alone).imp fun {earlier later} both harg => ⟨both.1 harg, fun hlater => ?_⟩
  exact both.2 (decide_eq_true harg) (decide_eq_true hlater)

end Node

namespace Grammar

variable {g : Grammar}

-- The place at the end of a path that leads somewhere.
def spotAt (g : Grammar) (path : Path) (h : (g.root.lookup path).isSome) : g.Spot :=
  ⟨path, (g.root.lookup path).get h, (Option.some_get h).symm⟩

def PlainNames (g : Grammar) : Prop :=
  ∀ entry ∈ g.root.walk [], entry.2.PlainNames

def ArgumentLast (g : Grammar) : Prop :=
  ∀ entry ∈ g.root.walk [], entry.2.ArgumentLast

instance (g : Grammar) : Decidable g.PlainNames :=
  inferInstanceAs (Decidable (∀ entry ∈ g.root.walk [], _))

instance (g : Grammar) : Decidable g.ArgumentLast :=
  inferInstanceAs (Decidable (∀ entry ∈ g.root.walk [], _))

theorem childrenOf_eq_ok_iff {spot : g.Spot} {children : List (Text × g.Spot)} :
    g.childrenOf spot = .ok children ↔
      ∃ place, spot.resolve = .ok place ∧ children = g.ownChildren place := by
  unfold childrenOf
  cases spot.resolve with
  | error fault => simp [Except.map]
  | ok place => simp [Except.map, eq_comm]

theorem map_ownChildren (spot : g.Spot) :
    (g.ownChildren spot).map (fun pair => (pair.1, pair.2.node)) = spot.node.children := by
  rw [ownChildren, List.map_map]
  exact List.attach_map_subtype_val spot.node.children

theorem nodup_names {spot : g.Spot} {children : List (Text × g.Spot)}
    (hc : g.childrenOf spot = .ok children) : (children.map Prod.fst).Nodup := by
  obtain ⟨place, -, rfl⟩ := childrenOf_eq_ok_iff.mp hc
  have distinct := g.distinct_children place
  rw [Dict.Distinct, ← map_ownChildren, Dict.keys, List.map_map] at distinct
  exact distinct

theorem name_ne_nil {spot child : g.Spot} {children : List (Text × g.Spot)} {name : Text}
    (hc : g.childrenOf spot = .ok children) (hmem : (name, child) ∈ children) : name ≠ [] := by
  obtain ⟨place, -, rfl⟩ := childrenOf_eq_ok_iff.mp hc
  exact g.name_ne_empty hmem

-- The children of a place are those of a node of the tree.
theorem exists_mem_children {spot child : g.Spot} {children : List (Text × g.Spot)} {name : Text}
    (hc : g.childrenOf spot = .ok children) (hmem : (name, child) ∈ children) :
    ∃ place : g.Spot, (name, child.node) ∈ place.node.children := by
  obtain ⟨place, -, rfl⟩ := childrenOf_eq_ok_iff.mp hc
  refine ⟨place, ?_⟩
  rw [← map_ownChildren]
  exact List.mem_map.mpr ⟨_, hmem, rfl⟩

theorem PlainNames.isWord {spot child : g.Spot} {children : List (Text × g.Spot)} {name : Text}
    (plain : g.PlainNames) (hc : g.childrenOf spot = .ok children)
    (hmem : (name, child) ∈ children) (kind : child.node.kind = .literal) : IsWord name := by
  obtain ⟨place, hown⟩ := exists_mem_children hc hmem
  exact ⟨name_ne_nil hc hmem, plain _ place.mem_walk _ hown kind⟩

theorem ArgumentLast.pairwise {spot : g.Spot} {children : List (Text × g.Spot)}
    (last : g.ArgumentLast) (hc : g.childrenOf spot = .ok children) :
    children.Pairwise fun earlier later => earlier.2.node.kind = .argument →
      later.2.node.kind ≠ .literal ∧ later.2.node.kind ≠ .argument := by
  obtain ⟨place, -, rfl⟩ := childrenOf_eq_ok_iff.mp hc
  have own := (last _ place.mem_walk).pairwise
  rw [← map_ownChildren, List.pairwise_map] at own
  exact own

-- There is one argument at most.
theorem ArgumentLast.unique {spot : g.Spot} {children : List (Text × g.Spot)}
    (last : g.ArgumentLast) (hc : g.childrenOf spot = .ok children) {pair other : Text × g.Spot}
    (hp : pair ∈ children) (ho : other ∈ children) (kind : pair.2.node.kind = .argument)
    (okind : other.2.node.kind = .argument) : pair = other := by
  by_contra hne
  let apart (one two : Text × g.Spot) : Prop :=
    ¬(one.2.node.kind = .argument ∧ two.2.node.kind = .argument)
  have symmetric : Std.Symm apart := ⟨fun _ _ h both => h both.symm⟩
  have pairwise : children.Pairwise apart :=
    (last.pairwise hc).imp fun behind both => (behind both.1).2 both.2
  exact pairwise.forall hp ho hne ⟨kind, okind⟩

end Grammar

end CommandCompletion
