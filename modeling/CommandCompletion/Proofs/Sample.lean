import CommandCompletion.Proofs.Line.Decoded

namespace CommandCompletion.Sample

variable {child : Text × Node} {children : List (Text × Node)} {name parser : Text}

-- Children as they are read from a document.
def AreDecoded (children : List (Text × Node)) : Prop :=
  Dict.Distinct children ∧ ∀ child ∈ children, child.1.IsJoined ∧ child.2.IsDecoded

theorem areDecoded_nil : AreDecoded [] :=
  ⟨.nil, nofun⟩

theorem areDecoded_cons (unused : child.1 ∉ Dict.keys children) (joined : child.1.IsJoined)
    (decoded : child.2.IsDecoded) (others : AreDecoded children) :
    AreDecoded (child :: children) :=
  ⟨List.nodup_cons.mpr ⟨unused, others.1⟩, List.forall_mem_cons.mpr ⟨⟨joined, decoded⟩, others.2⟩⟩

theorem isDecoded_literal (below : AreDecoded children) : (literal name children).2.IsDecoded :=
  ⟨below.1, fun child hchild => (below.2 child hchild).1,
    fun child hchild => (below.2 child hchild).2, nofun, nofun, nofun⟩

theorem isDecoded_argument (joined : parser.IsJoined) (below : AreDecoded children) :
    (argument name parser children).2.IsDecoded :=
  ⟨below.1, fun child hchild => (below.2 child hchild).1,
    fun child hchild => (below.2 child hchild).2, nofun,
    fun _ h => Option.mem_some.mp h ▸ joined, nofun⟩

theorem isDecoded_withProperties {members : List (Text × Value)} {node : Node}
    (properties : (Value.table members).IsDecoded) (decoded : node.IsDecoded) :
    { node with properties := some members : Node }.IsDecoded := by
  cases decoded with
  | mk distinct joined below redirect parser =>
    exact ⟨distinct, joined, below, redirect, parser, fun _ h => Option.mem_some.mp h ▸ properties⟩

theorem isDecoded_runs (decoded : child.2.IsDecoded) : (runs child).2.IsDecoded := by
  cases h : child.2
  cases decoded with
  | mk distinct joined below redirect parser properties =>
    exact ⟨distinct, joined, below, redirect, parser, properties⟩

theorem isDecoded_leadsTo {target : Path} (joined : ∀ name ∈ target, name.IsJoined)
    (decoded : child.2.IsDecoded) : (leadsTo target child).2.IsDecoded := by
  cases decoded with
  | mk distinct names below _ parser properties =>
    exact ⟨distinct, names, below, fun _ h => Option.mem_some.mp h ▸ joined, parser, properties⟩

theorem isDecoded_entity {type amount : Text} (htype : type.IsJoined) (hamount : amount.IsJoined)
    (below : AreDecoded children) : (entity name type amount children).2.IsDecoded := by
  have distinct : (["type", "amount"] : List Text).Nodup := by decide
  have hargument : (argument name "minecraft:entity" children).2.IsDecoded :=
    isDecoded_argument (Text.isJoined_ofString "minecraft:entity") below
  refine isDecoded_withProperties (.table (by exact distinct) ?_ ?_) hargument
  · simp [Text.isJoined_ofString]
  · simp [Value.IsDecoded.text_iff, htype, hamount]

theorem isDecoded_atLeast {least : Int} (short : Value.isLongNumber least = false)
    (decoded : child.2.IsDecoded) : (atLeast least child).2.IsDecoded := by
  have distinct : (["min"] : List Text).Nodup := by decide
  refine isDecoded_withProperties (.table (by exact distinct) ?_ ?_) decoded
  · simp [Text.isJoined_ofString]
  · simpa using .int short

-- Each word that the tree is built with keeps it as it could be read.
theorem isDecoded_grammar : grammar.root.IsDecoded := by
  have target (name : String) : ∀ text ∈ [Text.ofString name], text.IsJoined := by
    simp [Text.isJoined_ofString]
  have one : Value.isLongNumber 1 = false :=
    Value.isLongNumber_of_lt (by decide : Int.natAbs 1 < Nat.pow 10 1) (by decide)
  have below : AreDecoded root.children := by
    unfold root
    repeat' first
      | exact areDecoded_nil
      | exact Text.isJoined_ofString _
      | exact target _
      | exact List.forall_mem_nil _
      | apply areDecoded_cons
      | apply isDecoded_runs
      | apply isDecoded_literal
      | apply isDecoded_argument
      | apply isDecoded_entity
      | apply isDecoded_leadsTo
      | apply isDecoded_atLeast one
      | decide
  exact ⟨below.1, fun child hchild => (below.2 child hchild).1,
    fun child hchild => (below.2 child hchild).2, nofun, nofun, nofun⟩

end CommandCompletion.Sample
