import CommandCompletion.Proofs.Data.Dict
import CommandCompletion.Proofs.Grammar.Decoded
import CommandCompletion.Proofs.Grammar.Fields
import CommandCompletion.Proofs.Grammar.Paths
import Mathlib.Data.List.Forall2

namespace CommandCompletion

namespace Value

mutual

-- The values in node position, each with its path and before those of its children.
def nodes (path : Path) : Value → List (Path × Value)
  | .table members => (path, .table members) :: nodesAmong path members
  | value => [(path, value)]

def nodesAmong (path : Path) : List (Text × Value) → List (Path × Value)
  | [] => []
  | (name, value) :: rest =>
    if name = "children" then nodesIn path value else nodesAmong path rest

def nodesIn (path : Path) : Value → List (Path × Value)
  | .table members => nodesBelow path members
  | _ => []

def nodesBelow (path : Path) : List (Text × Value) → List (Path × Value)
  | [] => []
  | (name, value) :: rest => value.nodes (path ++ [name]) ++ nodesBelow path rest

end

-- The values of the children that a value in node position has, by their names.
def childData (value : Value) : Dict Value :=
  match value.get? "children" with
  | some (.table members) => members
  | _ => []

theorem nodesAmong_eq (path : Path) (members : Dict Value) :
    nodesAmong path members = nodesBelow path (childData (.table members)) := by
  induction members with
  | nil => rfl
  | cons member rest ih =>
    obtain ⟨name, value⟩ := member
    rw [nodesAmong]
    split
    · next h =>
      subst h
      have hget : get? (.table (("children", value) :: rest)) "children" = some value := by
        simp [get?, Dict.get?_cons]
      cases value <;> simp [childData, hget, nodesIn, nodesBelow]
    · next h =>
      have hget : get? (.table ((name, value) :: rest)) "children" =
          get? (.table rest) "children" := by
        simp [get?, Dict.get?_cons, Ne.symm h]
      rw [ih, childData, childData, hget]

theorem nodes_eq (path : Path) (value : Value) :
    value.nodes path = (path, value) :: nodesBelow path value.childData := by
  cases value with
  | table members => rw [nodes, nodesAmong_eq]
  | _ => simp [nodes, childData, get?, nodesBelow]

theorem mem_nodesBelow {path : Path} {members : Dict Value} {entry : Path × Value} :
    entry ∈ nodesBelow path members ↔
      ∃ member ∈ members, entry ∈ member.2.nodes (path ++ [member.1]) := by
  induction members with
  | nil => simp [nodesBelow]
  | cons member rest ih => simp [nodesBelow, ih]

theorem sizeOf_lt_of_mem_childData {value : Value} {member : Text × Value}
    (h : member ∈ value.childData) : sizeOf member.2 < sizeOf value := by
  unfold childData at h
  split at h
  · next members hmember =>
    cases value with
    | table fields =>
      have hin := Dict.mem_of_get? hmember
      have hfields := List.sizeOf_lt_of_mem hin
      have hmembers := List.sizeOf_lt_of_mem h
      obtain ⟨name, child⟩ := member
      simp only [Value.table.sizeOf_spec, Prod.mk.sizeOf_spec] at *
      omega
    | _ => cases hmember
  · cases h

-- A proof about values in node position goes from the children to the parent.
theorem node_induction {p : Value → Prop}
    (step : ∀ value : Value, (∀ member ∈ value.childData, p member.2) → p value) (value : Value) :
    p value :=
  step value fun member _ => node_induction step member.2
termination_by sizeOf value
decreasing_by exact sizeOf_lt_of_mem_childData ‹_›

end Value

namespace Node

open Value (IsPath Stands IsText IsTable nodesBelow)

variable {members : Dict Value} {node : Node} {depth : Nat}

theorem namedNodes_eq_ok_iff {children : List (Text × Node)} :
    namedNodes depth members = .ok children ↔
      List.Forall₂ (fun member child =>
        member.1 = child.1 ∧ readBelow (depth + 1) member.2 = .ok child.2) members children := by
  induction members generalizing children with
  | nil => rw [List.forall₂_nil_left_iff, namedNodes, Except.ok.injEq, eq_comm]
  | cons member rest ih =>
    obtain ⟨name, value⟩ := member
    rw [List.forall₂_cons_left_iff, namedNodes]
    constructor
    · intro h
      split at h
      · next child others hchild hothers =>
        cases h
        exact ⟨(name, child), others, ⟨rfl, within_eq_ok hchild⟩, ih.mp hothers, rfl⟩
      · cases h
    · rintro ⟨⟨_, child⟩, others, ⟨rfl, hchild⟩, hothers, rfl⟩
      simp only [hchild, ih.mpr hothers, Checked.within]

theorem childrenIn_eq (depth : Nat) (members : Dict Value) :
    childrenIn depth members =
      (Dict.get? members "children").elim (.ok [])
        fun value => Checked.within (.member "children") (childrenOf depth value) := by
  induction members with
  | nil => rfl
  | cons member rest ih =>
    obtain ⟨name, value⟩ := member
    rw [childrenIn, Dict.get?_cons]
    split
    · next h => rw [if_pos h.symm, Option.elim_some]
    · next h => rw [if_neg (Ne.symm h), ih]

theorem childrenIn_eq_ok_iff {children : List (Text × Node)} :
    childrenIn depth members = .ok children ↔
      ∃ below found, Stands IsTable (Dict.get? members "children") below ∧
        namedNodes depth (below.getD []) = .ok found ∧ children = Dict.ofList found := by
  rw [childrenIn_eq]
  constructor
  · intro h
    cases hmember : Dict.get? members "children" with
    | none =>
      rw [hmember] at h
      cases h
      exact ⟨none, [], .absent, rfl, rfl⟩
    | some value =>
      rw [hmember] at h
      have hread := within_eq_ok h
      cases value with
      | null =>
        cases hread
        exact ⟨none, [], .null, rfl, rfl⟩
      | table below =>
        rw [childrenOf] at hread
        split at hread
        · next found hfound =>
          cases hread
          exact ⟨some below, found, .given rfl, hfound, rfl⟩
        · cases hread
      | _ => cases hread
  · rintro ⟨below, found, hmember, hfound, rfl⟩
    generalize Dict.get? members "children" = member at hmember
    cases hmember with
    | absent | null =>
      cases hfound
      rfl
    | given table =>
      cases table
      rw [Option.getD_some] at hfound
      simp only [Option.elim_some, childrenOf, hfound, Checked.within]

theorem readBelow_eq_ok_iff {value : Value} : readBelow depth value = .ok node ↔
    depth < maxDepth ∧ ∃ members below found, value = .table members ∧ Fields members node ∧
      Stands IsTable (Dict.get? members "children") below ∧
      namedNodes depth (below.getD []) = .ok found ∧ node.children = Dict.ofList found := by
  constructor
  · intro h
    cases value with
    | table members =>
      rw [readBelow] at h
      split at h
      · cases h
      · next hdepth =>
        obtain ⟨hkind, hchildren, hexecutable, hredirect, hparser, hproperties⟩ := assemble_eq_ok h
        obtain ⟨below, found, hbelow, hfound, hof⟩ := childrenIn_eq_ok_iff.mp hchildren
        exact ⟨Nat.not_le.mp hdepth, members, below, found, rfl,
          ⟨kindOf_eq_ok_iff.mp hkind, executableOf_eq_ok_iff.mp hexecutable,
            redirectOf_eq_ok_iff.mp hredirect, parserOf_eq_ok_iff.mp hparser,
            propertiesOf_eq_ok_iff.mp hproperties⟩, hbelow, hfound, hof⟩
    | _ => simp [readBelow, Checked.refuse] at h
  · rintro ⟨hdepth, members, below, found, rfl, fields, hbelow, hfound, hof⟩
    rw [readBelow, if_neg (Nat.not_le.mpr hdepth), kindOf_eq_ok_iff.mpr fields.kind,
      childrenIn_eq_ok_iff.mpr ⟨below, found, hbelow, hfound, hof⟩,
      executableOf_eq_ok_iff.mpr fields.executable, redirectOf_eq_ok_iff.mpr fields.redirect,
      parserOf_eq_ok_iff.mpr fields.parser, propertiesOf_eq_ok_iff.mpr fields.properties]
    cases node
    rfl

-- A node is what a value in node position says: it has the fields that the members of the value
-- give it, and its children have the names that they have there, in their order.
def Fits (value : Value) (node : Node) : Prop :=
  ∃ members below, value = .table members ∧ Fields members node ∧
    Stands IsTable (Dict.get? members "children") below ∧
    Dict.keys node.children = Dict.keys (below.getD [])

theorem childData_eq {below : Option (Dict Value)}
    (h : Stands IsTable (Dict.get? members "children") below) :
    (Value.table members).childData = below.getD [] := by
  have hget : (Value.table members).get? "children" = Dict.get? members "children" := rfl
  rw [Value.childData, hget]
  generalize Dict.get? members "children" = member at h
  cases h with
  | absent | null => rfl
  | given table =>
    cases table
    rfl

-- One entry of the data and the entry of the tree that it gives.
def Gives (entry : Path × Value) (made : Path × Node) : Prop :=
  entry.1 = made.1 ∧ entry.1.length < maxDepth ∧ Fits entry.2 made.2

theorem forall₂_walkAll {path : Path} {below : Dict Value} {children : List (Text × Node)}
    (h : List.Forall₂ (fun member child => member.1 = child.1 ∧
      List.Forall₂ Gives (member.2.nodes (path ++ [member.1])) (child.2.walk (path ++ [member.1])))
      below children) : List.Forall₂ Gives (nodesBelow path below) (walkAll path children) := by
  induction h with
  | nil => exact .nil
  | @cons member child below children here _ ih =>
    obtain ⟨name, value⟩ := member
    obtain ⟨_, node⟩ := child
    obtain ⟨rfl, here⟩ := here
    exact List.rel_append here ih

theorem keys_eq_of_forall₂ {below : Dict Value} {children : List (Text × Node)}
    {R : Text × Value → Text × Node → Prop}
    (h : List.Forall₂ (fun member child => member.1 = child.1 ∧ R member child) below children) :
    Dict.keys children = Dict.keys below := by
  induction h with
  | nil => rfl
  | cons here _ ih => exact congrArg₂ List.cons here.1.symm ih

-- What is read has the shape of its data: node by node, with the same names in the same order.
theorem forall₂_of_readBelow (value : Value) : ∀ {path : Path} {node : Node},
    (∀ entry ∈ value.nodes path, Dict.Distinct entry.2.childData) →
      readBelow path.length value = .ok node →
      List.Forall₂ Gives (value.nodes path) (node.walk path) := by
  induction value using Value.node_induction with
  | step value ih =>
    intro path node distinct h
    obtain ⟨hdepth, members, below, found, rfl, fields, hbelow, hfound, hof⟩ :=
      readBelow_eq_ok_iff.mp h
    have hread := namedNodes_eq_ok_iff.mp hfound
    have hkeys := keys_eq_of_forall₂ hread
    rw [Value.nodes_eq, List.forall_mem_cons, childData_eq hbelow] at distinct
    obtain ⟨hnames, hdistinct⟩ := distinct
    have hchildren : node.children = found := by
      rw [hof]
      exact Dict.ofList_of_distinct (by rwa [Dict.Distinct, hkeys])
    rw [childData_eq hbelow] at ih
    have hmembers : ∀ member ∈ below.getD [], ∀ child : Node,
        readBelow (path.length + 1) member.2 = .ok child →
        List.Forall₂ Gives (member.2.nodes (path ++ [member.1]))
          (child.walk (path ++ [member.1])) := by
      intro member hmember child hchild
      refine ih member hmember (fun entry hentry => ?_) (by simpa using hchild)
      exact hdistinct entry (Value.mem_nodesBelow.mpr ⟨member, hmember, hentry⟩)
    rw [Value.nodes_eq, childData_eq hbelow, walk_eq, hchildren]
    refine .cons ⟨rfl, hdepth, members, below, rfl, fields, hbelow, hchildren ▸ hkeys⟩ ?_
    refine forall₂_walkAll (((List.forall₂_and_left _ _).mpr ⟨hmembers, hread⟩).imp ?_)
    rintro ⟨name, value⟩ ⟨_, child⟩ ⟨hmember, rfl, hchild⟩
    exact ⟨rfl, hmember child hchild⟩

theorem exists_forall₂ {α β : Type} {R : α → β → Prop} {list : List α}
    (h : ∀ a ∈ list, ∃ b, R a b) : ∃ others, List.Forall₂ R list others := by
  induction list with
  | nil => exact ⟨[], .nil⟩
  | cons a list ih =>
    obtain ⟨⟨b, hb⟩, h⟩ := List.forall_mem_cons.mp h
    obtain ⟨others, hothers⟩ := ih h
    exact ⟨b :: others, .cons hb hothers⟩

-- Data whose values in node position all have the form of a node is read.
theorem exists_of_fits (value : Value) : ∀ {path : Path},
    (∀ entry ∈ value.nodes path, entry.1.length < maxDepth ∧ ∃ node, Fits entry.2 node) →
      ∃ node, readBelow path.length value = .ok node := by
  induction value using Value.node_induction with
  | step value ih =>
    intro path fits
    rw [Value.nodes_eq, List.forall_mem_cons] at fits
    obtain ⟨⟨hdepth, model, members, below, rfl, fields, hbelow, -⟩, fits⟩ := fits
    rw [childData_eq hbelow] at ih fits
    have hread : ∀ member ∈ below.getD [], ∃ child : Text × Node,
        member.1 = child.1 ∧ readBelow (path.length + 1) member.2 = .ok child.2 := by
      intro member hmember
      have inside : ∀ entry ∈ member.2.nodes (path ++ [member.1]),
          entry.1.length < maxDepth ∧ ∃ node, Fits entry.2 node := fun entry hentry =>
        fits entry (Value.mem_nodesBelow.mpr ⟨member, hmember, hentry⟩)
      obtain ⟨child, hchild⟩ := ih member hmember inside
      exact ⟨(member.1, child), rfl, by simpa using hchild⟩
    obtain ⟨found, hfound⟩ := exists_forall₂ hread
    refine ⟨{ model with children := Dict.ofList found }, readBelow_eq_ok_iff.mpr
      ⟨hdepth, members, below, found, rfl, ?_, hbelow, namedNodes_eq_ok_iff.mpr hfound, rfl⟩⟩
    exact ⟨fields.kind, fields.executable, fields.redirect, fields.parser, fields.properties⟩

end Node

namespace Value

open Node (Fits)

-- The paths of all nodes that data describes.
def nodePaths (data : Value) : List Path :=
  (data.nodes []).map Prod.fst

def HasKind (value : Value) (kind : Kind) : Prop :=
  (value.get? "type").or (value.get? "kind") = some (.text kind.name)

def RedirectsTo (value : Value) (target : Path) : Prop :=
  Stands IsPath (value.get? "redirect") (some target)

-- All values in node position have the form of nodes, and not too many stand one below the other.
def Shaped (data : Value) : Prop :=
  ∀ entry ∈ data.nodes [], entry.1.length < Node.maxDepth ∧ ∃ node, Fits entry.2 node

-- The data of a command tree, told without reading it.
structure WellFormed (data : Value) : Prop where
  shaped : data.Shaped
  root : data.HasKind .root
  named : ∀ entry ∈ data.nodes [], ∀ name ∈ entry.1.getLast?, isBlankName name = false
  linked : ∀ entry ∈ data.nodes [], ∀ target, entry.2.RedirectsTo target →
    target ∈ data.nodePaths

-- What is wrong with one node of shaped data. A blank name goes before a redirect.
inductive Offence (data : Value) : Path × Value → Defect → Prop
  | blankName {parent : Path} {name : Text} {value : Value} (blank : isBlankName name = true) :
    Offence data (parent ++ [name], value) (.blankName parent)
  | unknownTarget {path target : Path} {value : Value}
    (named : ∀ name ∈ path.getLast?, isBlankName name = false)
    (redirects : value.RedirectsTo target) (unknown : target ∉ data.nodePaths) :
    Offence data (path, value) (.unknownTarget path target)

-- The first node, in the order of the data, that something is wrong with.
def FirstOffence (data : Value) (defect : Defect) : Prop :=
  ∃ before entry after, data.nodes [] = before ++ entry :: after ∧
    (∀ earlier ∈ before, ∀ other, ¬data.Offence earlier other) ∧ data.Offence entry defect

theorem FirstOffence.exists_mem {data : Value} {defect : Defect} (first : data.FirstOffence defect) :
    ∃ entry ∈ data.nodes [], data.Offence entry defect := by
  obtain ⟨before, entry, after, hnodes, -, offence⟩ := first
  exact ⟨entry, by simp [hnodes], offence⟩

theorem wellFormed_iff {data : Value} : data.WellFormed ↔ data.Shaped ∧ data.HasKind .root ∧
    ∀ entry ∈ data.nodes [], ∀ defect, ¬data.Offence entry defect := by
  constructor
  · rintro ⟨shaped, root, named, linked⟩
    refine ⟨shaped, root, fun entry hentry defect offence => ?_⟩
    cases offence with
    | blankName blank =>
      have hname := named _ hentry _ (List.getLast?_concat ..)
      rw [hname] at blank
      cases blank
    | unknownTarget _ redirects unknown => exact unknown (linked _ hentry _ redirects)
  · rintro ⟨shaped, root, sound⟩
    have named : ∀ entry ∈ data.nodes [], ∀ name ∈ entry.1.getLast?,
        isBlankName name = false := by
      intro entry hentry name hname
      obtain ⟨parent, hparent⟩ := List.getLast?_eq_some_iff.mp (Option.mem_def.mp hname)
      by_contra hblank
      obtain ⟨_, value⟩ := entry
      cases hparent
      exact sound _ hentry _ (.blankName (eq_true_of_ne_false hblank))
    refine ⟨shaped, root, named, fun entry hentry target redirects => ?_⟩
    by_contra hunknown
    exact sound entry hentry _ (.unknownTarget (named entry hentry) redirects hunknown)

end Value

theorem Kind.name_inj {kind other : Kind} : (kind.name : Text) = other.name ↔ kind = other := by
  rw [← Node.ofName?_eq_some_iff]
  cases kind <;> cases other <;> decide

namespace Node

variable {root : Node} {data value : Value} {node : Node} {path : Path}

theorem paths_eq_of_forall₂ (tree : List.Forall₂ Gives (data.nodes []) (root.walk [])) :
    root.paths = data.nodePaths := by
  have h : List.Forall₂ (fun made entry => made = entry) root.paths data.nodePaths := by
    rw [paths, Value.nodePaths, List.forall₂_map_left_iff, List.forall₂_map_right_iff]
    exact tree.flip.imp fun _ _ gives => gives.1.symm
  exact List.forall₂_eq_eq_eq ▸ h

theorem Fits.hasKind_iff (fits : Fits value node) {kind : Kind} :
    value.HasKind kind ↔ node.kind = kind := by
  obtain ⟨members, below, rfl, fields, -⟩ := fits
  have hkind : (Value.table members).HasKind node.kind := fields.kind
  rw [Value.HasKind] at hkind ⊢
  rw [hkind, Option.some_inj, Value.text.injEq, Kind.name_inj]

theorem Fits.redirectsTo_iff (fits : Fits value node) {target : Path} :
    value.RedirectsTo target ↔ node.redirect = some target := by
  obtain ⟨members, below, rfl, fields, -⟩ := fits
  have hread : redirectOf members = .ok node.redirect := redirectOf_eq_ok_iff.mpr fields.redirect
  rw [Value.RedirectsTo, Value.get?, ← redirectOf_eq_ok_iff, hread, Except.ok.injEq]

theorem linkDefect?_eq_some_iff {defect : Defect} :
    root.linkDefect? path node = some defect ↔ ∃ target, node.redirect = some target ∧
      root.lookup target = none ∧ defect = .unknownTarget path target := by
  unfold linkDefect?
  cases node.redirect with
  | none => simp
  | some target =>
    simp only [Option.some_inj, exists_eq_left']
    split
    · next known =>
      refine iff_of_false (by simp) ?_
      rintro ⟨lost, -⟩
      simp [lost] at known
    · next unknown => simp [Option.not_isSome_iff_eq_none.mp unknown, eq_comm]

-- An offence in the data is a defect of the tree that it gives, at the same path.
theorem offence_iff (known : root.paths = data.nodePaths)
    (found : ∀ target, root.lookup target = none ↔ target ∉ root.paths)
    {entry : Path × Value} {made : Path × Node} (gives : Gives entry made) {defect : Defect} :
    data.Offence entry defect ↔ root.defect? made = some defect := by
  obtain ⟨path, value⟩ := entry
  obtain ⟨_, node⟩ := made
  obtain ⟨rfl, -, fits⟩ := gives
  have link (named : ∀ name ∈ path.getLast?, isBlankName name = false) :
      data.Offence (path, value) defect ↔ root.linkDefect? path node = some defect := by
    rw [linkDefect?_eq_some_iff]
    constructor
    · intro offence
      cases offence with
      | blankName blank =>
        rw [named _ (List.getLast?_concat ..)] at blank
        cases blank
      | @unknownTarget _ target _ _ redirects unknown =>
        exact ⟨target, fits.redirectsTo_iff.mp redirects, (found target).mpr (known ▸ unknown), rfl⟩
    · rintro ⟨target, redirect, lost, rfl⟩
      exact .unknownTarget named (fits.redirectsTo_iff.mpr redirect) (known ▸ (found target).mp lost)
  unfold defect?
  rcases List.eq_nil_or_concat' path with rfl | ⟨parent, name, rfl⟩
  · exact link (by simp)
  · simp only [List.getLast?_concat, List.dropLast_concat]
    split
    · next blank =>
      constructor
      · intro offence
        generalize hpath : parent ++ [name] = path at offence
        cases offence with
        | blankName =>
          rw [(List.append_inj' hpath rfl).1]
        | unknownTarget named =>
          rw [named name (hpath ▸ List.getLast?_concat ..)] at blank
          cases blank
      · rintro ⟨⟩
        exact .blankName blank
    · next named =>
      refine link fun other h => ?_
      rw [List.getLast?_concat] at h
      cases h
      exact eq_false_of_ne_true named

theorem findSome?_eq_some_iff_of_forall₂ {α β γ : Type} {R : α → β → Prop} {P : α → γ → Prop}
    {f : β → Option γ} {list : List α} {others : List β} (h : List.Forall₂ R list others)
    (hR : ∀ a b, R a b → ∀ c, P a c ↔ f b = some c) {c : γ} :
    others.findSome? f = some c ↔ ∃ before a after, list = before ++ a :: after ∧
      (∀ earlier ∈ before, ∀ other, ¬P earlier other) ∧ P a c := by
  induction h with
  | nil => simp
  | @cons a b list others here _ ih =>
    rw [List.findSome?_cons]
    cases hb : f b with
    | some other =>
      have hother : P a other := (hR a b here other).mpr hb
      constructor
      · rintro ⟨⟩
        exact ⟨[], a, list, rfl, by simp, hother⟩
      · rintro ⟨before, first, after, hlist, clean, hfirst⟩
        cases before with
        | nil =>
          cases hlist
          exact hb.symm.trans ((hR _ b here c).mp hfirst)
        | cons earlier before =>
          cases hlist
          exact absurd hother (clean _ List.mem_cons_self other)
    | none =>
      have clean : ∀ other, ¬P a other := fun other hother => by
        simp [(hR a b here other).mp hother] at hb
      refine ih.trans ⟨?_, ?_⟩
      · rintro ⟨before, first, after, rfl, cleaner, hfirst⟩
        exact ⟨a :: before, first, after, rfl, List.forall_mem_cons.mpr ⟨clean, cleaner⟩, hfirst⟩
      · rintro ⟨before, first, after, hlist, cleaner, hfirst⟩
        cases before with
        | nil =>
          cases hlist
          exact absurd hfirst (clean c)
        | cons earlier before =>
          cases hlist
          exact ⟨before, first, after, rfl, (List.forall_mem_cons.mp cleaner).2, hfirst⟩

theorem findSome?_eq_none_iff_of_forall₂ {α β γ : Type} {R : α → β → Prop} {P : α → γ → Prop}
    {f : β → Option γ} {list : List α} {others : List β} (h : List.Forall₂ R list others)
    (hR : ∀ a b, R a b → ∀ c, P a c ↔ f b = some c) :
    others.findSome? f = none ↔ ∀ a ∈ list, ∀ c, ¬P a c := by
  induction h with
  | nil => simp
  | @cons a b list others here _ ih =>
    rw [List.findSome?_cons, List.forall_mem_cons]
    cases hb : f b with
    | some other => exact iff_of_false (by simp) fun h => h.1 other ((hR a b here other).mpr hb)
    | none =>
      have clean : ∀ other, ¬P a other := fun other hother => by
        simp [(hR a b here other).mp hother] at hb
      exact ih.trans (and_iff_right clean).symm

theorem shaped_of_forall₂ (tree : List.Forall₂ Gives (data.nodes []) (root.walk [])) :
    data.Shaped :=
  ((List.forall₂_and_left _ _).mp (tree.imp fun _ made gives =>
    ⟨⟨gives.2.1, made.2, gives.2.2⟩, gives⟩)).1

-- The first node has the kind that the whole data has.
theorem hasKind_iff_of_forall₂ (tree : List.Forall₂ Gives (data.nodes []) (root.walk []))
    {kind : Kind} : data.HasKind kind ↔ root.kind = kind := by
  rw [Value.nodes_eq, walk_eq, List.forall₂_cons] at tree
  exact tree.1.2.2.hasKind_iff

theorem offence_iff_of_forall₂ (distinct : ∀ other ∈ root.walk [], Dict.Distinct other.2.children)
    (tree : List.Forall₂ Gives (data.nodes []) (root.walk [])) (entry : Path × Value)
    (made : Path × Node) (gives : Gives entry made) (defect : Defect) :
    data.Offence entry defect ↔ root.defect? made = some defect :=
  offence_iff (paths_eq_of_forall₂ tree) (fun _ => lookup_eq_none_iff distinct) gives

end Node

namespace Grammar

open Node (Gives)

variable {data : Value} {root : Node} {g : Grammar}

theorem build_of_ofValue (h : Node.ofValue data = .ok root) :
    build data = ofRoot root (Node.allDistinct_of_ofValue data h) := by
  unfold build
  split
  · next hmisfits => cases h.symm.trans hmisfits
  · next other hother =>
    cases h.symm.trans hother
    rfl

-- What becomes of data that is read as a tree: it has another kind, an offence, or gives a grammar.
theorem build_of_forall₂ (h : Node.ofValue data = .ok root)
    (tree : List.Forall₂ Gives (data.nodes []) (root.walk [])) :
    ¬data.HasKind .root ∧ build data = .error (.notRoot root.kind) ∨
      data.HasKind .root ∧
        ((∃ defect, (∀ other, data.FirstOffence other ↔ other = defect) ∧
            build data = .error (.defect defect)) ∨
          (∀ entry ∈ data.nodes [], ∀ defect, ¬data.Offence entry defect) ∧
            ∃ g, build data = .ok g ∧ g.root = root) := by
  have distinct := Node.allDistinct_of_ofValue data h
  have offends := Node.offence_iff_of_forall₂ (distinct []) tree
  rw [Node.hasKind_iff_of_forall₂ tree, build_of_ofValue h, ofRoot]
  split
  · next isRoot =>
    refine .inr ⟨isRoot, ?_⟩
    split
    · next defect hdefect =>
      refine .inl ⟨defect, fun other => ?_, rfl⟩
      rw [Value.FirstOffence, ← Node.findSome?_eq_some_iff_of_forall₂ tree offends, hdefect,
        Option.some_inj, eq_comm]
    · next hnone =>
      exact .inr ⟨(Node.findSome?_eq_none_iff_of_forall₂ tree offends).mp hnone, _, rfl, rfl⟩
  · next other => exact .inl ⟨other, rfl⟩

-- Data is accepted exactly if it is well-formed. Where it has the shape of a tree with a root, it is
-- refused for the first offence in it. The tree has the nodes of the data, in their order.
theorem build_exact (distinct : ∀ entry ∈ data.nodes [], Dict.Distinct entry.2.childData) :
    ((∃ g, build data = .ok g) ↔ data.WellFormed) ∧
      (¬data.WellFormed → ∃ fault, build data = .error fault) ∧
      (data.Shaped → data.HasKind .root → ∀ fault, build data = .error fault ↔
        ∃ defect, fault = .defect defect ∧ data.FirstOffence defect) ∧
      ∀ g, build data = .ok g → List.Forall₂ Gives (data.nodes []) (g.root.walk []) ∧
        g.size = (data.nodes []).length := by
  have accepted : (∃ g, build data = .ok g) ↔ data.WellFormed := by
    rw [Value.wellFormed_iff]
    constructor
    · rintro ⟨g, hg⟩
      have hread := root_of_build hg
      have tree := Node.forall₂_of_readBelow data distinct hread
      rcases build_of_forall₂ hread tree with ⟨-, hb⟩ | ⟨root, ⟨defect, -, hb⟩ | ⟨sound, -⟩⟩
      · cases hg.symm.trans hb
      · cases hg.symm.trans hb
      · exact ⟨Node.shaped_of_forall₂ tree, root, sound⟩
    · rintro ⟨shaped, root, sound⟩
      obtain ⟨made, hread⟩ := @Node.exists_of_fits data [] shaped
      have tree := Node.forall₂_of_readBelow data distinct hread
      rcases build_of_forall₂ hread tree with ⟨other, -⟩ | ⟨-, ⟨defect, hfirst, -⟩ | ⟨-, g, hg, -⟩⟩
      · exact absurd root other
      · obtain ⟨entry, hentry, offence⟩ := ((hfirst defect).mpr rfl).exists_mem
        exact absurd offence (sound entry hentry defect)
      · exact ⟨g, hg⟩
  refine ⟨accepted, fun h => ?_, fun shaped root fault => ?_, fun g hg => ?_⟩
  · cases hb : build data with
    | error fault => exact ⟨fault, rfl⟩
    | ok g => exact absurd (accepted.mp ⟨g, hb⟩) h
  · obtain ⟨made, hread⟩ := @Node.exists_of_fits data [] shaped
    have tree := Node.forall₂_of_readBelow data distinct hread
    rcases build_of_forall₂ hread tree with ⟨other, -⟩ | ⟨-, ⟨defect, hfirst, hb⟩ | ⟨sound, g, hg, -⟩⟩
    · exact absurd root other
    · simp only [hb, hfirst, exists_eq_right, Except.error.injEq]
      exact eq_comm
    · rw [hg]
      refine iff_of_false (by simp) ?_
      rintro ⟨defect, -, first⟩
      obtain ⟨entry, hentry, offence⟩ := first.exists_mem
      exact sound entry hentry defect offence
  · have tree := Node.forall₂_of_readBelow data distinct (root_of_build hg)
    exact ⟨tree, tree.length_eq.symm⟩

-- A command, another one that redirects to it by its bare name, and one that redirects to nothing.
def sampleData (target : Text) : Value :=
  .table [("type", .text "root"), ("children", .table [
    ("teleport", .table [("type", .text "literal"), ("executable", .text "YES")]),
    ("tp", .table [("kind", .text "literal"), ("redirect", .text target)])])]

theorem build_exact_sample :
    (∀ entry ∈ (sampleData "teleport").nodes [], Dict.Distinct entry.2.childData) ∧
      (sampleData "teleport").WellFormed ∧
      (∃ g, build (sampleData "teleport") = .ok g ∧ g.size = 3) ∧
      (sampleData "warp").FirstOffence (.unknownTarget ["tp"] ["warp"]) := by
  have distinct : ∀ entry ∈ (sampleData "teleport").nodes [], Dict.Distinct entry.2.childData := by
    unfold Dict.Distinct
    decide
  have distinctToo : ∀ entry ∈ (sampleData "warp").nodes [], Dict.Distinct entry.2.childData := by
    unfold Dict.Distinct
    decide
  have made : (build (sampleData "teleport")).map (·.size) = .ok 3 := by decide
  have read : (Node.ofValue (sampleData "warp")).map (·.size) = .ok 3 := by decide
  have refused : build (sampleData "warp") = .error (.defect (.unknownTarget ["tp"] ["warp"])) := by
    rfl
  obtain ⟨g, hg, hsize⟩ := map_eq_ok_iff.mp made
  obtain ⟨root, hread, -⟩ := map_eq_ok_iff.mp read
  have shaped := Node.shaped_of_forall₂ (Node.forall₂_of_readBelow _ distinctToo hread)
  obtain ⟨-, -, faults, -⟩ := build_exact distinctToo
  obtain ⟨_, ⟨⟩, first⟩ := (faults shaped rfl _).mp refused
  exact ⟨distinct, (build_exact distinct).1.mp ⟨g, hg⟩, ⟨g, hg, hsize⟩, first⟩

end Grammar

end CommandCompletion
