import CommandCompletion.Data.Value

namespace CommandCompletion

inductive Kind
  | root
  | literal
  | argument
deriving DecidableEq, Repr

def Kind.name : Kind → String
  | root => "root"
  | literal => "literal"
  | argument => "argument"

def Kind.ofName? (name : Text) : Option Kind :=
  [root, literal, argument].find? fun kind => kind.name = name

-- Child names, outermost first.
abbrev Path := List Text

-- A node of the command tree. Its own name is the one its parent has for it. A redirect is a path
-- from the root whose end lends the node its children.
structure Node where
  kind : Kind
  children : List (Text × Node) := []
  executable : Bool := false
  redirect : Option Path := none
  parser : Option Text := none
  properties : Option (List (Text × Value)) := none
deriving Repr

namespace Node

-- The node at a path of own children; redirects are not followed.
def lookup (node : Node) : Path → Option Node
  | [] => some node
  | name :: rest =>
    match Dict.get? node.children name with
    | none => none
    | some child => child.lookup rest

mutual

-- Every node below `node` and itself with its path, each before its children.
def walk (path : Path) : Node → List (Path × Node)
  | node@⟨_, children, _, _, _, _⟩ => (path, node) :: walkAll path children

def walkAll (path : Path) : List (Text × Node) → List (Path × Node)
  | [] => []
  | (name, child) :: rest => child.walk (path ++ [name]) ++ walkAll path rest

end

def size (node : Node) : Nat :=
  (node.walk []).length

-- The paths of all nodes below a root.
def paths (root : Node) : List Path :=
  (root.walk []).map Prod.fst

theorem walk_eq (path : Path) (node : Node) :
    node.walk path = (path, node) :: walkAll path node.children := by
  cases node; rfl

theorem mem_walkAll {path : Path} {children : List (Text × Node)} {entry : Path × Node} :
    entry ∈ walkAll path children ↔
      ∃ pair ∈ children, entry ∈ pair.2.walk (path ++ [pair.1]) := by
  induction children with
  | nil => simp [walkAll]
  | cons pair rest ih => simp [walkAll, ih]

-- What a path leads to is met on the walk.
theorem mem_walk_of_lookup (start : Path) {path : Path} {root node : Node}
    (h : root.lookup path = some node) : (start ++ path, node) ∈ root.walk start := by
  induction path generalizing start root with
  | nil => simp_all [lookup, walk_eq]
  | cons name rest ih =>
    simp only [lookup] at h
    split at h
    · cases h
    · next child hc =>
      rw [walk_eq]
      refine List.mem_cons_of_mem _ (mem_walkAll.mpr ⟨(name, child), Dict.mem_of_get? hc, ?_⟩)
      simpa using ih (start ++ [name]) h

mutual

-- What stands below a node met on the walk is met on it too.
theorem mem_walk_child {start path : Path} {node child : Node} {name : Text} :
    (root : Node) → (path, node) ∈ root.walk start → (name, child) ∈ node.children →
      (path ++ [name], child) ∈ root.walk start
  | ⟨kind, children, executable, redirect, parser, properties⟩, h, hc => by
    simp only [walk, List.mem_cons, Prod.mk.injEq] at h ⊢
    refine .inr ?_
    rcases h with ⟨rfl, rfl⟩ | h
    · refine mem_walkAll.mpr ⟨(name, child), hc, ?_⟩
      rw [walk_eq]
      exact List.mem_cons_self
    · exact mem_walkAll_child children h hc

theorem mem_walkAll_child {start path : Path} {node child : Node} {name : Text} :
    (children : List (Text × Node)) → (path, node) ∈ walkAll start children →
      (name, child) ∈ node.children → (path ++ [name], child) ∈ walkAll start children
  | [], h, _ => by simp [walkAll] at h
  | (key, first) :: rest, h, hc => by
    simp only [walkAll, List.mem_append] at h ⊢
    exact h.imp (mem_walk_child first · hc) (mem_walkAll_child rest · hc)

end

theorem lookup_append (root : Node) (path rest : Path) :
    root.lookup (path ++ rest) = (root.lookup path).bind (·.lookup rest) := by
  induction path generalizing root with
  | nil => rfl
  | cons name path ih =>
    simp only [List.cons_append, lookup]
    split <;> simp_all

end Node

end CommandCompletion
