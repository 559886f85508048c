import CommandCompletion.Grammar.Tree

namespace CommandCompletion

-- A node together with the path at which it stands below a root. Two places are the same when
-- their paths are.
structure Place (root : Node) where
  path : Path
  node : Node
  located : root.lookup path = some node

theorem Place.ext {root : Node} {a b : Place root} (h : a.path = b.path) : a = b := by
  obtain ⟨path, node, located⟩ := a
  obtain ⟨other, next, there⟩ := b
  cases h
  cases Option.some.inj (located.symm.trans there)
  rfl

instance {root : Node} : DecidableEq (Place root) := fun a b =>
  decidable_of_iff (a.path = b.path) ⟨Place.ext, fun h => h ▸ rfl⟩

-- Why a node has no children of its own or of a redirect's target.
inductive RedirectFault
  | missing (target : Path)
  | cycle (hops : List Path)
deriving DecidableEq, Repr

-- A redirect as messages name it.
def hopText (target : Path) : Text :=
  pathText (Text.join "/" target)

def RedirectFault.message : RedirectFault → Text
  | missing target => "Redirect target not found: " ++ hopText target
  | cycle hops => "Redirect cycle: " ++ Text.join " -> " (hops.map hopText)

-- Where a chain of redirects ends: at a node that does not redirect, at a path that leads nowhere,
-- or at a place where the chain has been before.
inductive ChainEnd (root : Node)
  | found (place : Place root)
  | missing
  | cycle

-- The redirects that were followed, and the end of the chain.
structure Chain (root : Node) where
  hops : List Path
  ending : ChainEnd root

namespace Chain

variable {root : Node}

def cons (hop : Path) (chain : Chain root) : Chain root :=
  ⟨hop :: chain.hops, chain.ending⟩

-- Every hop but one that leads nowhere is taken.
def taken (chain : Chain root) : List Path :=
  match chain.ending with
  | .missing => chain.hops.dropLast
  | _ => chain.hops

def result (chain : Chain root) : Except RedirectFault (Place root) :=
  match chain.ending with
  | .found place => .ok place
  | .missing => .error (.missing (chain.hops.getLastD []))
  | .cycle => .error (.cycle chain.hops)

end Chain

namespace Node

def place? (root : Node) (path : Path) : Option (Place root) :=
  match h : root.lookup path with
  | none => none
  | some node => some ⟨path, node, h⟩

-- Follows redirects from one that leads to `target`. A place is left at most once, so the places
-- that are still open bound the chain.
def chase (root : Node) (opened : List Path) (target : Path) : Chain root :=
  match root.place? target with
  | none => ⟨[target], .missing⟩
  | some place =>
    match place.node.redirect with
    | none => ⟨[target], .found place⟩
    | some next =>
      if _ : target ∈ opened then (chase root (opened.erase target) next).cons target
      else ⟨[target], .cycle⟩
termination_by opened.length
decreasing_by
  have := List.length_erase_of_mem ‹target ∈ opened›
  have := List.length_pos_of_mem ‹target ∈ opened›
  omega

-- The children of a node outside the tree are those of its redirect's target.
def resolve (node root : Node) : Except RedirectFault Node :=
  match node.redirect with
  | none => .ok node
  | some target => (root.chase root.paths target).result.map (·.node)

-- The redirects followed from a node outside the tree.
def hopsFrom (node root : Node) : List Path :=
  match node.redirect with
  | none => []
  | some target => (root.chase root.paths target).taken

end Node

namespace Place

variable {root : Node}

-- The chain of redirects from a place, which counts as visited.
def chain (place : Place root) : Chain root :=
  match place.node.redirect with
  | none => ⟨[], .found place⟩
  | some target => root.chase (root.paths.erase place.path) target

-- The first place of the chain that does not redirect.
def resolve (place : Place root) : Except RedirectFault (Place root) :=
  place.chain.result

-- The place of a child, if its siblings have other names.
def child (place : Place root) (name : Text) (node : Node)
    (distinct : Dict.Distinct place.node.children) (h : (name, node) ∈ place.node.children) :
    Place root where
  path := place.path ++ [name]
  node := node
  located := by
    rw [Node.lookup_append, place.located, Option.bind_some, Node.lookup,
      Dict.get?_of_mem distinct h]
    rfl

theorem mem_walk (place : Place root) : (place.path, place.node) ∈ root.walk [] := by
  simpa using Node.mem_walk_of_lookup [] place.located

end Place

namespace Grammar

-- Places of a grammar.
abbrev Spot (g : Grammar) := Place g.root

def top (g : Grammar) : g.Spot := ⟨[], g.root, rfl⟩

theorem distinct_children (g : Grammar) (spot : g.Spot) : Dict.Distinct spot.node.children :=
  g.distinct _ spot.mem_walk

-- Own children in their order; redirects are not followed.
def ownChildren (g : Grammar) (spot : g.Spot) : List (Text × g.Spot) :=
  spot.node.children.attach.map fun ⟨(name, node), h⟩ =>
    (name, spot.child name node (g.distinct_children spot) h)

-- The children that count for a place: those at the end of its redirects.
def childrenOf (g : Grammar) (spot : g.Spot) : Except RedirectFault (List (Text × g.Spot)) :=
  spot.resolve.map g.ownChildren

-- Walks a path of child names from a place, following redirects before each step.
def findFrom (g : Grammar) (spot : g.Spot) : Path → Except RedirectFault (Option g.Spot)
  | [] => .ok (some spot)
  | name :: rest =>
    match g.childrenOf spot with
    | .error fault => .error fault
    | .ok children =>
      match Dict.get? children name with
      | none => .ok none
      | some child => g.findFrom child rest

def find (g : Grammar) (path : Path) : Except RedirectFault (Option g.Spot) :=
  g.findFrom g.top path

-- The redirects that are followed while a path is walked.
def hopsAlong (g : Grammar) (spot : g.Spot) : Path → List Path
  | [] => []
  | name :: rest =>
    spot.chain.taken ++
      match g.childrenOf spot with
      | .error _ => []
      | .ok children =>
        match Dict.get? children name with
        | none => []
        | some child => g.hopsAlong child rest

-- No child of a grammar's node has a blank name.
theorem name_not_blank (g : Grammar) {spot : g.Spot} {name : Text} {child : g.Spot}
    (h : (name, child) ∈ g.ownChildren spot) : isBlankName name = false := by
  simp only [ownChildren, List.mem_map, List.mem_attach, true_and, Subtype.exists] at h
  obtain ⟨⟨key, node⟩, hn, he⟩ := h
  cases he
  have := g.sound _ (Node.mem_walk_child _ spot.mem_walk hn)
  simp only [Node.defect?, List.getLast?_append, List.getLast?_singleton, Option.some_or] at this
  split at this
  · cases this
  · simp_all

end Grammar

end CommandCompletion
