import CommandCompletion.Line.Bite

namespace CommandCompletion

-- One child taken on the way through a grammar, and the part of the line that it took.
structure Step (g : Grammar) where
  name : Text
  spot : g.Spot
  bound : Option Text
  taken : Text

-- The way of a line through a grammar. It ends where no child takes anything from the line that
-- is left, or at a node whose redirects lead to no children.
structure Walk (g : Grammar) where
  steps : List (Step g)
  ending : Except RedirectFault Text

def Walk.cons {g : Grammar} (step : Step g) (walk : Walk g) : Walk g :=
  ⟨step :: walk.steps, walk.ending⟩

namespace Grammar

-- The first child, in their order, that takes something from the line.
def firstBite (g : Grammar) (children : List (Text × g.Spot)) (line : Text) :
    Option (Text × g.Spot × Bite) :=
  children.findSome? fun (name, child) => (child.node.bite? name line).map (name, child, ·)

theorem name_ne_empty (g : Grammar) {spot : g.Spot} {name : Text} {child : g.Spot}
    (h : (name, child) ∈ g.ownChildren spot) : name ≠ [] := by
  rintro rfl
  have := g.name_not_blank h
  simp [isBlankName] at this

theorem rest_lt_of_firstBite (g : Grammar) {spot : g.Spot} {children : List (Text × g.Spot)}
    {line : Text} {name : Text} {child : g.Spot} {bite : Bite}
    (hc : g.childrenOf spot = .ok children)
    (h : g.firstBite children line = some (name, child, bite)) :
    bite.rest.length < line.length := by
  obtain ⟨⟨key, spot'⟩, hmem, hb⟩ := List.exists_of_findSome?_eq_some h
  obtain ⟨b, hbite, he⟩ := Option.map_eq_some_iff.mp hb
  cases he
  unfold childrenOf at hc
  cases hr : spot.resolve with
  | error fault => simp [hr, Except.map] at hc
  | ok target =>
    simp only [hr, Except.map, Except.ok.injEq] at hc
    exact length_lt_of_bite? (g.name_ne_empty (hc ▸ hmem)) hbite

-- Takes children from a spot on for as long as one of them takes something. Since every bite is
-- real, the line bounds the walk, wherever redirects lead.
def walk (g : Grammar) (spot : g.Spot) (line : Text) : Walk g :=
  match _hc : g.childrenOf spot with
  | .error fault => ⟨[], .error fault⟩
  | .ok children =>
    match _hb : g.firstBite children line with
    | none => ⟨[], .ok line⟩
    | some (name, child, bite) =>
      (g.walk child bite.rest).cons
        ⟨name, child, bite.bound, line.take (line.length - bite.rest.length)⟩
termination_by line.length
decreasing_by exact g.rest_lt_of_firstBite _hc _hb

end Grammar

-- Where a line stops in a grammar: the last node reached, the text no child took, the texts bound
-- to arguments on the way, and the names of the children taken. A name bound again keeps its
-- place and takes the later text.
structure Parse (g : Grammar) where
  tip : g.Spot
  remainder : Text
  bindings : Dict Text
  path : Path
deriving DecidableEq

namespace Walk

variable {g : Grammar}

def bind (bindings : Dict Text) (step : Step g) : Dict Text :=
  match step.bound with
  | none => bindings
  | some text => bindings.insert step.name text

def bindings (walk : Walk g) : Dict Text :=
  walk.steps.foldl bind []

-- The last node reached from `start`, which is `start` itself if no child was taken.
def tip (walk : Walk g) (start : g.Spot) : g.Spot :=
  (walk.steps.getLast?.map (·.spot)).getD start

def result (walk : Walk g) (start : g.Spot) : Except RedirectFault (Parse g) :=
  walk.ending.map fun remainder =>
    ⟨walk.tip start, remainder, walk.bindings, walk.steps.map (·.name)⟩

end Walk

namespace Grammar

-- Parses as much of a line as the grammar below `start` allows.
def parseFrom (g : Grammar) (start : g.Spot) (line : Text) : Except RedirectFault (Parse g) :=
  (g.walk start line).result start

def parse (g : Grammar) (line : Text) : Except RedirectFault (Parse g) :=
  g.parseFrom g.top line

end Grammar

end CommandCompletion
