import CommandCompletion.Grammar.Tree
import CommandCompletion.Proofs.Json.Decoded

namespace CommandCompletion

namespace Value

theorem IsDecoded.text_iff {s : Text} : (Value.text s).IsDecoded ↔ s.IsJoined :=
  ⟨fun h => by cases h with | text joined => exact joined, .text⟩

theorem IsDecoded.list_iff {items : List Value} :
    (Value.list items).IsDecoded ↔ ∀ item ∈ items, item.IsDecoded :=
  ⟨fun h => by cases h with | list items_decoded => exact items_decoded, .list⟩

theorem IsDecoded.table_iff {members : List (Text × Value)} :
    (Value.table members).IsDecoded ↔ Dict.Distinct members ∧
      (∀ member ∈ members, member.1.IsJoined) ∧ ∀ member ∈ members, member.2.IsDecoded :=
  ⟨fun h => by cases h with | table distinct joined decoded => exact ⟨distinct, joined, decoded⟩,
    fun ⟨distinct, joined, decoded⟩ => .table distinct joined decoded⟩

end Value

namespace Node

-- A node as it is read from a document, with everything below it.
inductive IsDecoded : Node → Prop
  | mk {node : Node} (distinct : Dict.Distinct node.children)
    (joined : ∀ child ∈ node.children, child.1.IsJoined)
    (children_decoded : ∀ child ∈ node.children, IsDecoded child.2)
    (redirect : ∀ path ∈ node.redirect, ∀ name ∈ path, name.IsJoined)
    (parser : ∀ name ∈ node.parser, name.IsJoined)
    (properties : ∀ members ∈ node.properties, (Value.table members).IsDecoded) : IsDecoded node

variable {members : List (Text × Value)} {node : Node} {name : Text} {value : Value}

theorem childrenIn_eq_ok {children : List (Text × Node)} {depth : Nat}
    (h : childrenIn depth members = .ok children) :
    children = [] ∨ ∃ member ∈ members, childrenOf depth member.2 = .ok children := by
  induction members with
  | nil =>
    cases h
    exact .inl rfl
  | cons member rest ih =>
    rw [childrenIn] at h
    split at h
    · exact .inr ⟨member, List.mem_cons_self, within_eq_ok h⟩
    · exact (ih h).imp id fun ⟨found, hfound, hchildren⟩ =>
        ⟨found, List.mem_cons_of_mem _ hfound, hchildren⟩

theorem exists_of_namedNodes {children : List (Text × Node)} {depth : Nat}
    (h : namedNodes depth members = .ok children) :
    ∀ child ∈ children, ∃ value, (child.1, value) ∈ members ∧
      readBelow (depth + 1) value = .ok child.2 := by
  induction members generalizing children with
  | nil =>
    cases h
    exact nofun
  | cons member rest ih =>
    rw [namedNodes] at h
    split at h
    · next node others hnode hothers =>
      cases h
      refine List.forall_mem_cons.mpr ⟨⟨member.2, List.mem_cons_self, within_eq_ok hnode⟩, ?_⟩
      intro child hchild
      obtain ⟨value, hvalue, hread⟩ := ih hothers child hchild
      exact ⟨value, List.mem_cons_of_mem _ hvalue, hread⟩
    · cases h

theorem isJoined_of_namesFrom {items : List Value} {names : List Text} {i : Nat}
    (decoded : ∀ item ∈ items, item.IsDecoded) (h : namesFrom i items = .ok names) :
    ∀ name ∈ names, name.IsJoined := by
  induction items generalizing i names with
  | nil =>
    cases h
    exact nofun
  | cons item items ih =>
    obtain ⟨hitem, hitems⟩ := List.forall_mem_cons.mp decoded
    unfold namesFrom at h
    split at h
    · next hothers =>
      cases h
      exact List.forall_mem_cons.mpr ⟨Value.IsDecoded.text_iff.mp hitem, ih hitems hothers⟩
    all_goals cases h

theorem isDecoded_of_get? (decoded : ∀ member ∈ members, member.2.IsDecoded)
    (h : Dict.get? members name = some value) : value.IsDecoded :=
  decoded _ (Dict.mem_of_get? h)

theorem isJoined_of_redirectOf {redirect : Option Path}
    (decoded : ∀ member ∈ members, member.2.IsDecoded) (h : redirectOf members = .ok redirect) :
    ∀ path ∈ redirect, ∀ name ∈ path, name.IsJoined := by
  unfold redirectOf at h
  split at h
  · cases h
    exact nofun
  · cases h
    exact nofun
  · next s hget =>
    cases h
    rintro _ ⟨⟩
    exact List.forall_mem_singleton.mpr
      (Value.IsDecoded.text_iff.mp (isDecoded_of_get? decoded hget))
  · next items hget =>
    obtain ⟨names, hnames, he⟩ := map_eq_ok_iff.mp (within_eq_ok h)
    cases he
    rintro _ ⟨⟩
    exact isJoined_of_namesFrom (Value.IsDecoded.list_iff.mp (isDecoded_of_get? decoded hget))
      hnames
  · cases h

theorem isJoined_of_parserOf {parser : Option Text}
    (decoded : ∀ member ∈ members, member.2.IsDecoded) (h : parserOf members = .ok parser) :
    ∀ name ∈ parser, name.IsJoined := by
  unfold parserOf at h
  split at h
  · cases h
    exact nofun
  · cases h
    exact nofun
  · next s hget =>
    cases h
    rintro _ ⟨⟩
    exact Value.IsDecoded.text_iff.mp (isDecoded_of_get? decoded hget)
  · cases h

theorem mem_of_eitherMember {first second : Text}
    (h : eitherMember members first second = some (name, value)) : (name, value) ∈ members := by
  unfold eitherMember at h
  split at h
  · next hget =>
    cases h
    exact Dict.mem_of_get? hget
  · obtain ⟨value, hget, he⟩ := Option.map_eq_some_iff.mp h
    cases he
    exact Dict.mem_of_get? hget

theorem isDecoded_of_propertiesOf {properties : Option (List (Text × Value))}
    (decoded : ∀ member ∈ members, member.2.IsDecoded)
    (h : propertiesOf members = .ok properties) :
    ∀ members ∈ properties, (Value.table members).IsDecoded := by
  unfold propertiesOf at h
  split at h
  · cases h
    exact nofun
  · cases h
    exact nofun
  · next hmember =>
    cases h
    rintro _ ⟨⟩
    exact decoded _ (mem_of_eitherMember hmember)
  · cases h

-- What is read as a node, and what is read as the children of one. Children are the members of a
-- member, so the induction is on both at once.
theorem isDecoded_of_data {data : Value} (h : data.IsDecoded) :
    (∀ {depth node}, readBelow depth data = .ok node → node.IsDecoded) ∧
    (∀ {depth children}, childrenOf depth data = .ok children → Dict.Distinct children ∧
      ∀ child ∈ children, child.1.IsJoined ∧ child.2.IsDecoded) := by
  induction h with
  | table distinct joined decoded ih =>
    constructor
    · intro depth node h
      rw [readBelow] at h
      split at h
      · cases h
      · obtain ⟨-, hchildren, -, hredirect, hparser, hproperties⟩ := assemble_eq_ok h
        have hbelow : Dict.Distinct node.children ∧
            ∀ child ∈ node.children, child.1.IsJoined ∧ child.2.IsDecoded := by
          rcases childrenIn_eq_ok hchildren with hnone | ⟨member, hmember, hchildren⟩
          · rw [hnone]
            exact ⟨.nil, nofun⟩
          · exact (ih member hmember).2 hchildren
        exact ⟨hbelow.1, fun child hchild => (hbelow.2 child hchild).1,
          fun child hchild => (hbelow.2 child hchild).2, isJoined_of_redirectOf decoded hredirect,
          isJoined_of_parserOf decoded hparser, isDecoded_of_propertiesOf decoded hproperties⟩
    · intro depth children h
      rw [childrenOf] at h
      split at h
      · next found hfound =>
        cases h
        refine ⟨Dict.distinct_ofList _, fun child hchild => ?_⟩
        obtain ⟨value, hvalue, hread⟩ :=
          exists_of_namedNodes hfound child (Dict.mem_of_mem_ofList hchild)
        exact ⟨joined _ hvalue, (ih _ hvalue).1 hread⟩
      · cases h
  | null =>
    refine ⟨fun h => by simp [readBelow, Checked.refuse] at h, fun h => ?_⟩
    cases h
    exact ⟨.nil, nofun⟩
  | bool | int | double | text | list =>
    exact ⟨fun h => by simp [readBelow, Checked.refuse] at h,
      fun h => by simp [childrenOf, Checked.refuse] at h⟩

theorem isDecoded_of_ofValue {data : Value} (decoded : data.IsDecoded)
    (h : ofValue data = .ok node) : node.IsDecoded :=
  (isDecoded_of_data decoded).1 h

theorem IsDecoded.lookup {root : Node} (h : root.IsDecoded) {path : Path}
    (hnode : root.lookup path = some node) : node.IsDecoded := by
  induction path generalizing root with
  | nil =>
    cases hnode
    exact h
  | cons name path ih =>
    rw [Node.lookup] at hnode
    split at hnode
    · cases hnode
    · next child hchild =>
      cases h with
      | mk _ _ below => exact ih (below _ (Dict.mem_of_get? hchild)) hnode

end Node

namespace Grammar

theorem root_of_ofRoot {root : Node} {distinct : root.AllDistinct} {g : Grammar}
    (h : ofRoot root distinct = .ok g) : g.root = root := by
  unfold ofRoot at h
  split at h
  · split at h
    · cases h
    · cases h
      rfl
  · cases h

theorem root_of_build {data : Value} {g : Grammar} (h : build data = .ok g) :
    Node.ofValue data = .ok g.root := by
  unfold build at h
  split at h
  · cases h
  · next root hroot => rw [hroot, root_of_ofRoot h]

theorem isDecoded_of_build {data : Value} {g : Grammar} (decoded : data.IsDecoded)
    (h : build data = .ok g) : g.root.IsDecoded :=
  Node.isDecoded_of_ofValue decoded (root_of_build h)

-- Data that gives the root of a grammar gives the grammar.
theorem build_of_root {data : Value} {g : Grammar} (h : Node.ofValue data = .ok g.root) :
    build data = .ok g := by
  unfold build
  split
  · next hmisfits => cases h.symm.trans hmisfits
  · next root hroot =>
    obtain rfl : g.root = root := Except.ok.inj (h.symm.trans hroot)
    rw [ofRoot, dif_pos g.isRoot]
    split
    · next d hdefect =>
      obtain ⟨entry, hentry, hd⟩ := List.exists_of_findSome?_eq_some hdefect
      cases (g.sound entry hentry).symm.trans hd
    · rfl

end Grammar

end CommandCompletion
