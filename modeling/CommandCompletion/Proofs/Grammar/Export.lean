import CommandCompletion.Grammar.Export
import CommandCompletion.Proofs.Grammar.Decoded
import CommandCompletion.Proofs.Text.Half

namespace CommandCompletion

theorem Text.isJoined_of_hasHalf {text : Text} (h : text.hasHalf = false) : text.IsJoined := by
  obtain ⟨chars, rfl⟩ := exists_eq_ofChars h
  exact Json.isJoined_ofChars chars

theorem Text.isJoined_ofString (s : String) : (Text.ofString s).IsJoined :=
  Json.isJoined_ofChars _

namespace Value

mutual

-- Whether half of a character stands in the name of a member anywhere in a value.
def hasHalfName : Value → Bool
  | list items => anyHalfName items
  | table members => memberHalfName members
  | _ => false

def anyHalfName : List Value → Bool
  | [] => false
  | item :: items => item.hasHalfName || anyHalfName items

def memberHalfName : List (Text × Value) → Bool
  | [] => false
  | (name, value) :: rest => name.hasHalf || value.hasHalfName || memberHalfName rest

end

variable {v : Value} {items : List Value} {members : List (Text × Value)}

theorem anyHalfName_eq_false_iff :
    anyHalfName items = false ↔ ∀ item ∈ items, item.hasHalfName = false := by
  induction items with
  | nil => simp [anyHalfName]
  | cons item items ih => simp [anyHalfName, ih]

theorem memberHalfName_eq_false_iff : memberHalfName members = false ↔
    ∀ member ∈ members, member.1.hasHalf = false ∧ member.2.hasHalfName = false := by
  induction members with
  | nil => simp [memberHalfName]
  | cons member members ih => simp [memberHalfName, ih]

theorem exportedItems_eq_map : exportedItems items = items.map exported := by
  induction items with
  | nil => rfl
  | cons item items ih => rw [exportedItems, ih, List.map_cons]

theorem exportedMembers_eq_map :
    exportedMembers members = members.map fun member => (member.1.whole, member.2.exported) := by
  induction members with
  | nil => rfl
  | cons member members ih => rw [exportedMembers, ih, List.map_cons]

theorem mem_exportedMembers {member : Text × Value}
    (h : member ∈ Dict.ofList (exportedMembers members)) :
    ∃ old ∈ members, (old.1.whole, old.2.exported) = member := by
  have hmem := Dict.mem_of_mem_ofList h
  rwa [exportedMembers_eq_map, List.mem_map] at hmem

-- What is exported can be read from a document.
theorem IsDecoded.exported (h : v.IsDecoded) : v.exported.IsDecoded := by
  induction h with
  | null => exact .null
  | bool b => exact .bool b
  | int short => exact .int short
  | text joined => exact .text joined
  | double d =>
    rw [Value.exported]
    split
    · exact .null
    · exact .double d
  | list _ ih =>
    rw [Value.exported, exportedItems_eq_map]
    exact .list (List.forall_mem_map.mpr ih)
  | table _ _ _ ih =>
    rw [Value.exported]
    refine .table (Dict.distinct_ofList _) ?_ ?_
    · intro member hmember
      obtain ⟨old, -, rfl⟩ := mem_exportedMembers hmember
      exact Text.isJoined_of_hasHalf (Text.hasHalf_whole _)
    · intro member hmember
      obtain ⟨old, hold, rfl⟩ := mem_exportedMembers hmember
      exact ih old hold

-- Data without halves in its names and without floating-point numbers is exported as it is.
theorem IsDecoded.exported_eq (h : v.IsDecoded) (exact : v.hasDouble = false)
    (whole : v.hasHalfName = false) : v.exported = v := by
  induction h with
  | null | bool | int | text => rfl
  | double => cases exact
  | list _ ih =>
    rw [Value.hasDouble, anyDouble_eq_false_iff] at exact
    rw [Value.hasHalfName, anyHalfName_eq_false_iff] at whole
    rw [Value.exported, exportedItems_eq_map, List.map_congr_left fun item hitem =>
      ih item hitem (exact item hitem) (whole item hitem), List.map_id']
  | table distinct _ _ ih =>
    rw [Value.hasDouble, memberDouble_eq_false_iff] at exact
    rw [Value.hasHalfName, memberHalfName_eq_false_iff] at whole
    rw [Value.exported, exportedMembers_eq_map, List.map_congr_left fun member hmember =>
      Prod.ext (Text.whole_of_hasHalf (whole member hmember).1)
        (ih member hmember (exact member hmember) (whole member hmember).2), List.map_id',
      Dict.ofList_of_distinct distinct]

theorem depthOfItems_le_iff {limit : Nat} :
    depthOfItems items ≤ limit ↔ ∀ item ∈ items, item.depth ≤ limit := by
  induction items with
  | nil => simp [depthOfItems]
  | cons item items ih => rw [depthOfItems, Nat.max_le, ih, List.forall_mem_cons]

theorem depthOfMembers_le_iff {limit : Nat} :
    depthOfMembers members ≤ limit ↔ ∀ member ∈ members, member.2.depth ≤ limit := by
  induction members with
  | nil => simp [depthOfMembers]
  | cons member members ih => rw [depthOfMembers, Nat.max_le, ih, List.forall_mem_cons]

theorem IsDecoded.depth_exported_le (h : v.IsDecoded) : v.exported.depth ≤ v.depth := by
  induction h with
  | null | bool | int | text => exact Nat.le_refl _
  | double d =>
    rw [Value.exported]
    split <;> exact Nat.le_refl _
  | list _ ih =>
    rw [Value.exported, exportedItems_eq_map, Value.depth, Value.depth, Nat.add_le_add_iff_right,
      depthOfItems_le_iff, List.forall_mem_map]
    exact fun item hitem => (ih item hitem).trans (depthOfItems_le_iff.mp le_rfl item hitem)
  | table _ _ _ ih =>
    rw [Value.exported, Value.depth, Value.depth, Nat.add_le_add_iff_right, depthOfMembers_le_iff]
    intro member hmember
    obtain ⟨old, hold, rfl⟩ := mem_exportedMembers hmember
    exact (ih old hold).trans (depthOfMembers_le_iff.mp le_rfl old hold)

end Value

namespace Node

mutual

-- Whether a floating-point number stands in the properties of a node below here.
def hasDouble : Node → Bool
  | ⟨_, children, _, _, _, properties⟩ =>
    childHasDouble children || Value.memberDouble (properties.getD [])

def childHasDouble : List (Text × Node) → Bool
  | [] => false
  | (_, child) :: rest => child.hasDouble || childHasDouble rest

end

mutual

-- Whether half of a character stands in the name of a node or of a property below here.
def hasHalfName : Node → Bool
  | ⟨_, children, _, _, _, properties⟩ =>
    childHasHalfName children || Value.memberHalfName (properties.getD [])

def childHasHalfName : List (Text × Node) → Bool
  | [] => false
  | (name, child) :: rest => name.hasHalf || child.hasHalfName || childHasHalfName rest

end

variable {node : Node} {children : List (Text × Node)}

theorem hasDouble_eq_false_iff : node.hasDouble = false ↔
    (∀ child ∈ node.children, child.2.hasDouble = false) ∧
      Value.memberDouble (node.properties.getD []) = false := by
  have hchildren (children : List (Text × Node)) : childHasDouble children = false ↔
      ∀ child ∈ children, child.2.hasDouble = false := by
    induction children with
    | nil => simp [childHasDouble]
    | cons child children ih => simp [childHasDouble, ih]
  cases node
  rw [hasDouble, Bool.or_eq_false_iff, hchildren]

theorem hasHalfName_eq_false_iff : node.hasHalfName = false ↔
    (∀ child ∈ node.children, child.1.hasHalf = false ∧ child.2.hasHalfName = false) ∧
      Value.memberHalfName (node.properties.getD []) = false := by
  have hchildren (children : List (Text × Node)) : childHasHalfName children = false ↔
      ∀ child ∈ children, child.1.hasHalf = false ∧ child.2.hasHalfName = false := by
    induction children with
    | nil => simp [childHasHalfName]
    | cons child children ih => simp [childHasHalfName, ih]
  cases node
  rw [hasHalfName, Bool.or_eq_false_iff, hchildren]

theorem depth_le_iff {limit : Nat} : node.depth ≤ limit + 1 ↔
    (∀ child ∈ node.children, child.2.depth ≤ limit) ∧
      Value.depthOfMembers (node.properties.getD []) ≤ limit := by
  have hchildren (children : List (Text × Node)) : depthOfChildren children ≤ limit ↔
      ∀ child ∈ children, child.2.depth ≤ limit := by
    induction children with
    | nil => simp [depthOfChildren]
    | cons child children ih => rw [depthOfChildren, Nat.max_le, ih, List.forall_mem_cons]
  cases node
  rw [depth, Nat.add_le_add_iff_right, Nat.max_le, hchildren]

theorem childValues_eq_map :
    childValues children = children.map fun child => (child.1.whole, child.2.toValue) := by
  induction children with
  | nil => rfl
  | cons child children ih => rw [childValues, ih, List.map_cons]

-- The members that a node is exported with.
def exportMembers (node : Node) : List (Text × Value) :=
  member "type" (some (.text node.kind.name)) ++
    (member "children" (if node.children.isEmpty then none
      else some (.table (Dict.ofList (childValues node.children)))) ++
    (member "executable" (if node.executable then some (.bool true) else none) ++
    (member "redirect" (node.redirect.map fun path => .list (path.map .text)) ++
    (member "parser" (node.parser.map .text) ++
    member "properties" (node.properties.map fun members => (Value.table members).exported)))))

theorem toValue_eq (node : Node) : node.toValue = .table node.exportMembers := by
  cases node
  simp only [toValue, exportMembers, List.append_assoc]

theorem get?_member_append (name key : Text) (value : Option Value) (rest : List (Text × Value)) :
    Dict.get? (member name value ++ rest) key =
      if key = name then value.or (Dict.get? rest key) else Dict.get? rest key := by
  cases value with
  | none => simp [member]
  | some value => simp [member, Dict.get?_cons]

theorem get?_member (name key : Text) (value : Option Value) :
    Dict.get? (member name value) key = if key = name then value else none := by
  have h := get?_member_append name key value []
  simpa [Dict.get?] using h

theorem kindOf_exportMembers : kindOf node.exportMembers = .ok node.kind := by
  have hname : Kind.ofName? (Text.ofString node.kind.name) = some node.kind := by
    cases node.kind <;> decide
  rw [kindOf, eitherMember, exportMembers, get?_member_append, if_pos rfl]
  simp only [Option.some_or, hname]

theorem executableOf_exportMembers : executableOf node.exportMembers = .ok node.executable := by
  have hget : Dict.get? node.exportMembers "executable" =
      if node.executable then some (.bool true) else none := by
    simp +decide [exportMembers, get?_member_append, get?_member]
  rw [executableOf, hget]
  cases node.executable <;> rfl

theorem namesFrom_map_text (i : Nat) (names : List Text) :
    namesFrom i (names.map .text) = .ok names := by
  induction names generalizing i with
  | nil => rfl
  | cons name names ih => simp only [List.map_cons, namesFrom, ih]

theorem redirectOf_exportMembers : redirectOf node.exportMembers = .ok node.redirect := by
  have hget : Dict.get? node.exportMembers "redirect" =
      node.redirect.map fun path => .list (path.map .text) := by
    simp +decide [exportMembers, get?_member_append, get?_member]
  rw [redirectOf, hget]
  cases node.redirect with
  | none => rfl
  | some path =>
    simp only [Option.map_some, namesFrom_map_text]
    rfl

theorem parserOf_exportMembers : parserOf node.exportMembers = .ok node.parser := by
  have hget : Dict.get? node.exportMembers "parser" = node.parser.map .text := by
    simp +decide [exportMembers, get?_member_append, get?_member]
  rw [parserOf, hget]
  cases node.parser <;> rfl

theorem propertiesOf_exportMembers
    (h : ∀ members ∈ node.properties, (Value.table members).exported = .table members) :
    propertiesOf node.exportMembers = .ok node.properties := by
  have hget (key : Text) (hkey : key ∈ ([("properties" : Text), "parser_properties"] : List Text)) :
      Dict.get? node.exportMembers key =
        if key = "properties" then
          node.properties.map fun members => (Value.table members).exported
        else none := by
    rcases List.mem_pair.mp hkey with rfl | rfl <;>
      simp +decide [exportMembers, get?_member_append, get?_member]
  rw [propertiesOf, eitherMember, hget _ (by decide), hget _ (by decide), if_pos rfl,
    if_neg (by decide)]
  cases hproperties : node.properties with
  | none => rfl
  | some members => rw [Option.map_some, h members hproperties]

theorem childrenIn_member_append {name : Text} (hname : name ≠ "children") (value : Option Value)
    (depth : Nat) (rest : List (Text × Value)) :
    childrenIn depth (member name value ++ rest) = childrenIn depth rest := by
  cases value with
  | none => rfl
  | some value => exact if_neg hname

theorem childrenIn_exportMembers (depth : Nat) : childrenIn depth node.exportMembers =
    if node.children.isEmpty then .ok []
    else Checked.within (.member "children")
      (childrenOf depth (.table (Dict.ofList (childValues node.children)))) := by
  have hrest (executable redirect parser properties : Option Value) :
      childrenIn depth (member "executable" executable ++ (member "redirect" redirect ++
        (member "parser" parser ++ member "properties" properties))) = .ok [] := by
    rw [childrenIn_member_append (by decide), childrenIn_member_append (by decide),
      childrenIn_member_append (by decide), ← List.append_nil (member "properties" _),
      childrenIn_member_append (by decide)]
    rfl
  rw [exportMembers, childrenIn_member_append (by decide)]
  split
  · exact hrest _ _ _ _
  · exact if_pos rfl

theorem namedNodes_map {depth : Nat}
    (h : ∀ child ∈ children, readBelow (depth + 1) child.2.toValue = .ok child.2) :
    namedNodes depth (children.map fun child => (child.1, child.2.toValue)) = .ok children := by
  induction children with
  | nil => rfl
  | cons child children ih =>
    obtain ⟨hchild, hchildren⟩ := List.forall_mem_cons.mp h
    rw [List.map_cons, namedNodes, hchild, ih hchildren]
    rfl

theorem readBelow_eq_ok {depth : Nat} {members : List (Text × Value)} (hdepth : depth < maxDepth)
    (hkind : kindOf members = .ok node.kind)
    (hchildren : childrenIn depth members = .ok node.children)
    (hexecutable : executableOf members = .ok node.executable)
    (hredirect : redirectOf members = .ok node.redirect)
    (hparser : parserOf members = .ok node.parser)
    (hproperties : propertiesOf members = .ok node.properties) :
    readBelow depth (.table members) = .ok node := by
  rw [readBelow, if_neg (not_le.mpr hdepth), hkind, hchildren, hexecutable, hredirect, hparser,
    hproperties]
  cases node
  rfl

-- A node that fits below the nodes above it is read from what it was exported as. By induction on
-- the node: all of its members are read back, and its children by the hypothesis.
theorem readBelow_toValue (h : node.IsDecoded) {depth : Nat}
    (exact : node.hasDouble = false) (whole : node.hasHalfName = false)
    (fits : depth + node.depth ≤ maxDepth) : readBelow depth node.toValue = .ok node := by
  induction h generalizing depth with
  | @mk node distinct _ _ _ _ properties ih =>
    obtain ⟨exactChildren, exactProperties⟩ := hasDouble_eq_false_iff.mp exact
    obtain ⟨wholeChildren, wholeProperties⟩ := hasHalfName_eq_false_iff.mp whole
    have hpositive : 0 < node.depth := by
      cases node
      exact Nat.succ_pos _
    have hlimit : node.depth ≤ maxDepth - (depth + 1) + 1 := by omega
    obtain ⟨depthChildren, -⟩ := depth_le_iff.mp hlimit
    have hnames : childValues node.children =
        node.children.map fun child => (child.1, child.2.toValue) := by
      rw [childValues_eq_map]
      refine List.map_congr_left fun child hchild => ?_
      rw [Text.whole_of_hasHalf (wholeChildren child hchild).1]
    have hdistinct : Dict.Distinct (childValues node.children) := by
      rw [hnames, Dict.Distinct, Dict.keys, List.map_map]
      exact distinct
    have hread : namedNodes depth (childValues node.children) = .ok node.children := by
      rw [hnames]
      refine namedNodes_map fun child hchild => ih child hchild (exactChildren child hchild)
        (wholeChildren child hchild).2 ?_
      have := depthChildren child hchild
      omega
    have hchildren : childrenIn depth node.exportMembers = .ok node.children := by
      rw [childrenIn_exportMembers]
      split
      · next hempty => rw [List.isEmpty_iff.mp hempty]
      · rw [Dict.ofList_of_distinct hdistinct, childrenOf, hread]
        exact congrArg Except.ok (Dict.ofList_of_distinct distinct)
    have hexported : ∀ members ∈ node.properties,
        (Value.table members).exported = .table members := by
      intro members hmembers
      rw [Option.mem_def.mp hmembers] at exactProperties wholeProperties
      exact (properties members hmembers).exported_eq exactProperties wholeProperties
    rw [toValue_eq]
    exact readBelow_eq_ok (by omega) kindOf_exportMembers hchildren executableOf_exportMembers
      redirectOf_exportMembers parserOf_exportMembers (propertiesOf_exportMembers hexported)

theorem forall_mem_member {name : Text} {value : Option Value} {p : Text × Value → Prop} :
    (∀ pair ∈ member name value, p pair) ↔ ∀ v ∈ value, p (name, v) := by
  cases value <;> simp [member]

-- What holds of each member that a node may be exported with.
theorem forall_mem_exportMembers {p : Text × Value → Prop}
    (kind : p ("type", .text node.kind.name))
    (children : p ("children", .table (Dict.ofList (childValues node.children))))
    (executable : p ("executable", .bool true))
    (redirect : ∀ path ∈ node.redirect, p ("redirect", .list (path.map .text)))
    (parser : ∀ name ∈ node.parser, p ("parser", .text name))
    (properties : ∀ members ∈ node.properties,
      p ("properties", (Value.table members).exported)) :
    ∀ pair ∈ node.exportMembers, p pair := by
  simp only [exportMembers, List.forall_mem_append, forall_mem_member]
  refine ⟨?_, ?_, ?_, ?_, ?_, ?_⟩
  · rintro _ ⟨⟩
    exact kind
  · split
    · exact nofun
    · rintro _ ⟨⟩
      exact children
  · split
    · rintro _ ⟨⟩
      exact executable
    · exact nofun
  · intro v hv
    obtain ⟨path, hpath, rfl⟩ := Option.map_eq_some_iff.mp hv
    exact redirect path hpath
  · intro v hv
    obtain ⟨name, hname, rfl⟩ := Option.map_eq_some_iff.mp hv
    exact parser name hname
  · intro v hv
    obtain ⟨members, hmembers, rfl⟩ := Option.map_eq_some_iff.mp hv
    exact properties members hmembers

theorem distinct_exportMembers : Dict.Distinct node.exportMembers := by
  have hkeys (name : Text) (value : Option Value) :
      (Dict.keys (member name value)).Sublist [name] := by
    cases value with
    | none => exact List.nil_sublist _
    | some value => exact List.Sublist.refl _
  have hall : (Dict.keys node.exportMembers).Sublist
      ["type", "children", "executable", "redirect", "parser", "properties"] := by
    simp only [exportMembers, Dict.keys, List.map_append]
    exact (hkeys _ _).append ((hkeys _ _).append ((hkeys _ _).append ((hkeys _ _).append
      ((hkeys _ _).append (hkeys _ _)))))
  exact List.Nodup.sublist hall (by decide)

theorem mem_childValues {pair : Text × Value}
    (h : pair ∈ Dict.ofList (childValues node.children)) :
    ∃ child ∈ node.children, (child.1.whole, child.2.toValue) = pair := by
  have hmem := Dict.mem_of_mem_ofList h
  rwa [childValues_eq_map, List.mem_map] at hmem

-- What a node is exported as can be read from a document.
theorem IsDecoded.toValue (h : node.IsDecoded) : node.toValue.IsDecoded := by
  induction h with
  | @mk node distinct joined _ redirect parser properties ih =>
    rw [toValue_eq]
    refine .table distinct_exportMembers ?_ ?_
    · apply forall_mem_exportMembers <;>
        simp only [Text.isJoined_ofString, implies_true]
    · refine forall_mem_exportMembers (.text (Text.isJoined_ofString _)) ?_ (.bool true)
        (fun path hpath => .list (List.forall_mem_map.mpr fun name hname =>
          .text (redirect path hpath name hname)))
        (fun name hname => .text (parser name hname))
        fun members hmembers => (properties members hmembers).exported
      refine .table (Dict.distinct_ofList _) ?_ ?_ <;> intro pair hpair <;>
        obtain ⟨child, hchild, rfl⟩ := mem_childValues hpair
      · exact Text.isJoined_of_hasHalf (Text.hasHalf_whole _)
      · exact ih child hchild

theorem IsDecoded.hasDouble_toValue (h : node.IsDecoded) (exact : node.hasDouble = false)
    (whole : node.hasHalfName = false) : node.toValue.hasDouble = false := by
  induction h with
  | @mk node _ _ _ _ _ properties ih =>
    obtain ⟨exactChildren, exactProperties⟩ := hasDouble_eq_false_iff.mp exact
    obtain ⟨wholeChildren, wholeProperties⟩ := hasHalfName_eq_false_iff.mp whole
    rw [toValue_eq, Value.hasDouble, Value.memberDouble_eq_false_iff]
    refine forall_mem_exportMembers rfl ?_ rfl (fun path _ => ?_) (fun _ _ => rfl)
      fun members hmembers => ?_
    · rw [Value.hasDouble, Value.memberDouble_eq_false_iff]
      intro pair hpair
      obtain ⟨child, hchild, rfl⟩ := mem_childValues hpair
      exact ih child hchild (exactChildren child hchild) (wholeChildren child hchild).2
    · rw [Value.hasDouble, Value.anyDouble_eq_false_iff]
      exact List.forall_mem_map.mpr fun _ _ => rfl
    · rw [Option.mem_def.mp hmembers] at exactProperties wholeProperties
      have hproperties : (Value.table members).hasDouble = false := exactProperties
      rwa [(properties members hmembers).exported_eq exactProperties wholeProperties]

-- A node and its children stand two levels apart in what is exported.
theorem IsDecoded.depth_toValue_le (h : node.IsDecoded) : node.toValue.depth ≤ 2 * node.depth + 1 := by
  induction h with
  | @mk node _ _ _ _ _ properties ih =>
    obtain ⟨limit, hlimit⟩ : ∃ limit, node.depth = limit + 1 := by
      cases node
      exact ⟨_, rfl⟩
    obtain ⟨depthChildren, depthProperties⟩ := depth_le_iff.mp hlimit.le
    have scalar : 1 ≤ 2 * (limit + 1) := by omega
    rw [toValue_eq, Value.depth, hlimit, Nat.add_le_add_iff_right, Value.depthOfMembers_le_iff]
    refine forall_mem_exportMembers scalar ?_ scalar (fun path _ => ?_) (fun _ _ => scalar)
      fun members hmembers => ?_
    · have hvalues : Value.depthOfMembers (Dict.ofList (childValues node.children)) ≤
          2 * limit + 1 := by
        rw [Value.depthOfMembers_le_iff]
        intro pair hpair
        obtain ⟨child, hchild, rfl⟩ := mem_childValues hpair
        have hbelow := ih child hchild
        have hchildDepth := depthChildren child hchild
        dsimp only
        omega
      exact Nat.succ_le_succ hvalues
    · have hnames : Value.depthOfItems (path.map .text) ≤ 1 := by
        rw [Value.depthOfItems_le_iff]
        exact List.forall_mem_map.mpr fun _ _ => Nat.le_refl 1
      exact (Nat.succ_le_succ hnames).trans (by omega)
    · rw [Option.mem_def.mp hmembers] at depthProperties
      have hbelow : (Value.table members).depth ≤ limit + 1 := Nat.succ_le_succ depthProperties
      exact ((properties members hmembers).depth_exported_le.trans hbelow).trans (by omega)

end Node

end CommandCompletion
