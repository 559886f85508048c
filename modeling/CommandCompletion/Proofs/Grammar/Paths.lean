import CommandCompletion.Grammar.Distinct
import Mathlib.Data.List.Nodup
import Mathlib.Data.List.Perm.Subperm

namespace CommandCompletion.Node

variable {root : Node} {entry : Path × Node}

theorem mem_paths_of_lookup {path : Path} {node : Node} (h : root.lookup path = some node) :
    path ∈ root.paths :=
  List.mem_map.mpr ⟨_, by simpa using mem_walk_of_lookup [] h, rfl⟩

theorem length_paths (root : Node) : root.paths.length = root.size :=
  List.length_map _

mutual

-- A node met on the walk stands where its path leads, because its siblings have other names.
theorem exists_lookup_of_mem_walk :
    (start : Path) → (root : Node) →
      (∀ other ∈ root.walk start, Dict.Distinct other.2.children) →
      entry ∈ root.walk start → ∃ path, entry.1 = start ++ path ∧ root.lookup path = some entry.2
  | start, ⟨kind, children, executable, redirect, parser, properties⟩, distinct, h => by
    simp only [walk, List.mem_cons, forall_eq_or_imp] at distinct h
    rcases h with rfl | h
    · exact ⟨[], (List.append_nil start).symm, rfl⟩
    · obtain ⟨name, child, rest, hmem, hpath, hl⟩ :=
        exists_lookup_of_mem_walkAll start children distinct.2 h
      refine ⟨name :: rest, hpath, ?_⟩
      simp only [lookup, Dict.get?_of_mem distinct.1 hmem, hl]

theorem exists_lookup_of_mem_walkAll :
    (start : Path) → (children : List (Text × Node)) →
      (∀ other ∈ walkAll start children, Dict.Distinct other.2.children) →
      entry ∈ walkAll start children → ∃ name child rest, (name, child) ∈ children ∧
        entry.1 = start ++ name :: rest ∧ child.lookup rest = some entry.2
  | _, [], _, h => by
    cases h
  | start, (name, child) :: others, distinct, h => by
    simp only [walkAll, List.mem_append, or_imp, forall_and] at distinct h
    rcases h with h | h
    · obtain ⟨rest, hpath, hl⟩ := exists_lookup_of_mem_walk (start ++ [name]) child distinct.1 h
      exact ⟨name, child, rest, List.mem_cons_self, by simpa using hpath, hl⟩
    · obtain ⟨key, node, rest, hmem, found⟩ :=
        exists_lookup_of_mem_walkAll start others distinct.2 h
      exact ⟨key, node, rest, List.mem_cons_of_mem _ hmem, found⟩

end

theorem lookup_of_mem_walk (distinct : ∀ other ∈ root.walk [], Dict.Distinct other.2.children)
    (h : entry ∈ root.walk []) : root.lookup entry.1 = some entry.2 := by
  obtain ⟨path, hpath, hl⟩ := exists_lookup_of_mem_walk [] root distinct h
  rwa [hpath]

theorem lookup_eq_none_iff (distinct : ∀ other ∈ root.walk [], Dict.Distinct other.2.children)
    {path : Path} : root.lookup path = none ↔ path ∉ root.paths := by
  constructor
  · intro lost hmem
    obtain ⟨entry, hentry, rfl⟩ := List.mem_map.mp hmem
    simp [lookup_of_mem_walk distinct hentry] at lost
  · intro fresh
    by_contra hne
    obtain ⟨node, hl⟩ := Option.ne_none_iff_exists'.mp hne
    exact fresh (mem_paths_of_lookup hl)

mutual

-- No path is met twice.
theorem nodup_walk :
    (start : Path) → (root : Node) →
      (∀ other ∈ root.walk start, Dict.Distinct other.2.children) →
      ((root.walk start).map Prod.fst).Nodup
  | start, ⟨kind, children, executable, redirect, parser, properties⟩, distinct => by
    simp only [walk, List.mem_cons, forall_eq_or_imp] at distinct
    simp only [walk, List.map_cons, List.nodup_cons]
    refine ⟨?_, nodup_walkAll start children distinct.1 distinct.2⟩
    intro hmem
    obtain ⟨entry, h, hpath⟩ := List.mem_map.mp hmem
    obtain ⟨name, child, rest, -, below, -⟩ :=
      exists_lookup_of_mem_walkAll start children distinct.2 h
    simp [below] at hpath

theorem nodup_walkAll :
    (start : Path) → (children : List (Text × Node)) → Dict.Distinct children →
      (∀ other ∈ walkAll start children, Dict.Distinct other.2.children) →
      ((walkAll start children).map Prod.fst).Nodup
  | _, [], _, _ => List.nodup_nil
  | start, (name, child) :: others, names, distinct => by
    simp only [walkAll, List.mem_append, or_imp, forall_and] at distinct
    obtain ⟨fresh, names⟩ := List.nodup_cons.mp names
    rw [walkAll, List.map_append]
    refine List.nodup_append.mpr ⟨nodup_walk (start ++ [name]) child distinct.1,
      nodup_walkAll start others names distinct.2, ?_⟩
    rintro path hhere _ hthere rfl
    obtain ⟨entry, h, rfl⟩ := List.mem_map.mp hhere
    obtain ⟨other, ho, hpath⟩ := List.mem_map.mp hthere
    obtain ⟨below, hbelow, -⟩ := exists_lookup_of_mem_walk (start ++ [name]) child distinct.1 h
    obtain ⟨key, node, rest, hmem, hother, -⟩ :=
      exists_lookup_of_mem_walkAll start others distinct.2 ho
    have hkey : key = name := by
      rw [hother, hbelow, List.append_assoc] at hpath
      exact (List.cons.inj (List.append_cancel_left hpath)).1
    exact fresh (List.mem_map.mpr ⟨(key, node), hmem, hkey⟩)

end

theorem nodup_paths (distinct : ∀ other ∈ root.walk [], Dict.Distinct other.2.children) :
    root.paths.Nodup :=
  nodup_walk [] root distinct

-- There are no more paths than nodes.
theorem length_le_size {paths : List Path} (nodup : paths.Nodup) (h : paths ⊆ root.paths) :
    paths.length ≤ root.size := by
  rw [← length_paths]
  exact (List.subperm_of_subset nodup h).length_le

end CommandCompletion.Node
