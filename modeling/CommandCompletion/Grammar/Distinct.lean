import CommandCompletion.Grammar.Shape

namespace CommandCompletion.Node

-- No two children of a node below here share a name.
def AllDistinct (node : Node) : Prop :=
  ∀ path, ∀ entry ∈ node.walk path, Dict.Distinct entry.2.children

theorem allDistinct_of_children {node : Node} (distinct : Dict.Distinct node.children)
    (below : ∀ pair ∈ node.children, pair.2.AllDistinct) : node.AllDistinct := by
  intro path entry h
  rw [walk_eq] at h
  rcases List.mem_cons.mp h with rfl | h
  · exact distinct
  · obtain ⟨pair, hp, he⟩ := mem_walkAll.mp h
    exact below pair hp _ _ he

theorem assemble_eq_ok {kind : Checked Kind} {children : Checked (List (Text × Node))}
    {executable : Checked Bool} {redirect : Checked (Option Path)}
    {parser : Checked (Option Text)}
    {properties : Checked (Option (List (Text × Value)))} {node : Node}
    (h : assemble kind children executable redirect parser properties = .ok node) :
    kind = .ok node.kind ∧ children = .ok node.children ∧ executable = .ok node.executable ∧
      redirect = .ok node.redirect ∧ parser = .ok node.parser ∧
      properties = .ok node.properties := by
  unfold assemble at h
  split at h
  · cases h; simp
  · cases h

theorem within_eq_ok {α : Type} {crumb : Crumb} {checked : Checked α} {value : α}
    (h : Checked.within crumb checked = .ok value) : checked = .ok value := by
  cases checked <;> simp_all [Checked.within]

mutual

theorem allDistinct_of_readBelow {node : Node} :
    (depth : Nat) → (data : Value) → readBelow depth data = .ok node → node.AllDistinct
  | depth, .table members, h => by
    rw [readBelow] at h
    split at h
    · cases h
    · obtain ⟨_, hc, _⟩ := assemble_eq_ok h
      obtain ⟨distinct, below⟩ := distinct_of_childrenIn depth members hc
      exact allDistinct_of_children distinct below
  | _, .null, h | _, .bool _, h | _, .int _, h | _, .double _, h | _, .text _, h
  | _, .moment _, h | _, .list _, h => by
    simp [readBelow, Checked.refuse] at h

theorem distinct_of_childrenIn {children : List (Text × Node)} (depth : Nat) :
    (members : List (Text × Value)) → childrenIn depth members = .ok children →
      Dict.Distinct children ∧ ∀ pair ∈ children, pair.2.AllDistinct
  | [], h => by
    cases h; simp [Dict.Distinct, Dict.keys]
  | (name, value) :: rest, h => by
    rw [childrenIn] at h
    split at h
    · exact distinct_of_childrenOf depth value (within_eq_ok h)
    · exact distinct_of_childrenIn depth rest h

theorem distinct_of_childrenOf {children : List (Text × Node)} (depth : Nat) :
    (data : Value) → childrenOf depth data = .ok children →
      Dict.Distinct children ∧ ∀ pair ∈ children, pair.2.AllDistinct
  | .null, h => by
    cases h; simp [Dict.Distinct, Dict.keys]
  | .table members, h => by
    rw [childrenOf] at h
    split at h
    · next found hn =>
      cases h
      exact ⟨Dict.distinct_ofList _, fun pair hp =>
        allDistinct_of_namedNodes depth members hn pair (Dict.mem_of_mem_ofList hp)⟩
    · cases h
  | .bool _, h | .int _, h | .double _, h | .text _, h | .moment _, h | .list _, h => by
    simp [childrenOf, Checked.refuse] at h

theorem allDistinct_of_namedNodes {children : List (Text × Node)} (depth : Nat) :
    (members : List (Text × Value)) → namedNodes depth members = .ok children →
      ∀ pair ∈ children, pair.2.AllDistinct
  | [], h => by
    cases h; simp
  | (name, value) :: rest, h => by
    rw [namedNodes] at h
    split at h
    · next child others hc ho =>
      cases h
      intro pair hp
      rcases List.mem_cons.mp hp with rfl | hp
      · exact allDistinct_of_readBelow (depth + 1) value (within_eq_ok hc)
      · exact allDistinct_of_namedNodes depth rest ho pair hp
    · cases h

end

theorem allDistinct_of_ofValue {node : Node} (data : Value) (h : ofValue data = .ok node) :
    node.AllDistinct :=
  allDistinct_of_readBelow 0 data h

end CommandCompletion.Node
