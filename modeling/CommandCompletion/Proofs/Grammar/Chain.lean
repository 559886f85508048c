import CommandCompletion.Grammar.Redirect
import Mathlib.Tactic.ByContra

namespace CommandCompletion

namespace Node

variable {root : Node}

-- The node that a redirect leads to, following own children only.
def target? (root node : Node) : Option Node :=
  node.redirect.bind root.lookup

-- The node that stands so many redirects after another one.
def hop? (root : Node) : Nat → Node → Option Node
  | 0, node => some node
  | n + 1, node => (root.target? node).bind (root.hop? n)

-- The redirects from a node go on for ever.
def Endless (root node : Node) : Prop :=
  ∀ n, (root.hop? n node).isSome

theorem hop?_add (root : Node) (n m : Nat) (node : Node) :
    root.hop? (n + m) node = (root.hop? n node).bind (root.hop? m) := by
  induction n generalizing node with
  | zero => simp [hop?]
  | succ n ih =>
    rw [Nat.add_right_comm, hop?, hop?, Option.bind_assoc]
    congr
    funext next
    exact ih next

theorem hop?_one (node : Node) : root.hop? 1 node = root.target? node := by
  simp [hop?]

theorem endless_iff_of_target? {node next : Node} (h : root.target? node = some next) :
    root.Endless node ↔ root.Endless next := by
  have step (n : Nat) : root.hop? (n + 1) node = root.hop? n next := by
    rw [hop?, h, Option.bind_some]
  constructor
  · intro endless n
    rw [← step]
    exact endless (n + 1)
  · intro endless n
    cases n with
    | zero => rfl
    | succ n => rw [step]; exact endless n

theorem not_endless_of_hop?_eq_none {n : Nat} {node : Node} (h : root.hop? n node = none) :
    ¬root.Endless node := by
  intro endless
  simpa [h] using endless n

theorem not_endless_of_redirect_eq_none {node : Node} (h : node.redirect = none) :
    ¬root.Endless node := by
  have hnext : root.hop? 1 node = none := by rw [hop?_one, target?, h, Option.bind_none]
  exact not_endless_of_hop?_eq_none hnext

-- A chain that comes back to its first node goes round for ever.
theorem endless_of_return {n : Nat} {node : Node} (h : root.hop? (n + 1) node = some node) :
    root.Endless node := by
  intro m
  induction m using Nat.strongRecOn with
  | ind m ih =>
    by_cases hm : m ≤ n
    · have hsplit := hop?_add root m (n + 1 - m) node
      rw [Nat.add_sub_of_le (by omega), h] at hsplit
      cases hopped : root.hop? m node with
      | none => simp [hopped] at hsplit
      | some next => rfl
    · have hsplit := hop?_add root (n + 1) (m - (n + 1)) node
      rw [Nat.add_sub_of_le (by omega), h, Option.bind_some] at hsplit
      rw [hsplit]
      exact ih _ (by omega)

theorem lookup_of_place? {path : Path} {place : Place root} (h : root.place? path = some place) :
    root.lookup path = some place.node := by
  unfold place? at h
  split at h
  · cases h
  · next node hl =>
    cases h
    exact hl

theorem lookup_of_place?_eq_none {path : Path} (h : root.place? path = none) :
    root.lookup path = none := by
  unfold place? at h
  split at h
  · assumption
  · cases h

theorem eq_node_of_place? {path : Path} {node : Node} {place : Place root}
    (h : root.place? path = some place) (hl : root.lookup path = some node) :
    node = place.node := by
  rw [lookup_of_place? h] at hl
  exact (Option.some.inj hl).symm

-- Every path that is no longer open was left on the way here. So a target that is no longer open
-- is one the chain has come back to.
theorem endless_of_chase_cycle {opened : List Path} {target : Path}
    (left : ∀ path node, root.lookup path = some node → path ∉ opened →
      ∃ n, root.hop? (n + 1) node = root.lookup target)
    (h : (root.chase opened target).ending = .cycle) :
    ∃ node, root.lookup target = some node ∧ root.Endless node := by
  fun_induction chase root opened target with
  | case1 | case2 => cases h
  | case3 opened target place hp next hn isOpen ih =>
    have hlook := lookup_of_place? hp
    have hnext : root.target? place.node = root.lookup next := by
      rw [target?, hn, Option.bind_some]
    have hleft : ∀ path node, root.lookup path = some node → path ∉ opened.erase target →
        ∃ n, root.hop? (n + 1) node = root.lookup next := by
      intro path node hl hout
      by_cases hpath : path = target
      · subst hpath
        exact ⟨0, by rw [eq_node_of_place? hp hl, hop?_one, hnext]⟩
      · obtain ⟨n, hh⟩ := left path node hl fun hin =>
          hout ((List.mem_erase_of_ne hpath).mpr hin)
        exact ⟨n + 1, by rw [hop?_add, hh, hlook, Option.bind_some, hop?_one, hnext]⟩
    obtain ⟨node, hl, endless⟩ := ih hleft h
    exact ⟨place.node, hlook, (endless_iff_of_target? (hnext.trans hl)).mpr endless⟩
  | case4 opened target place hp next hn closed =>
    have hlook := lookup_of_place? hp
    obtain ⟨n, hh⟩ := left target place.node hlook closed
    exact ⟨place.node, hlook, endless_of_return (hh.trans hlook)⟩

-- A place that was found is the end of the chain.
theorem not_endless_of_chase_found {opened : List Path} {target : Path} {place : Place root}
    (h : (root.chase opened target).ending = .found place) :
    place.node.redirect = none ∧
      ∀ node, root.lookup target = some node → ¬root.Endless node := by
  fun_induction chase root opened target with
  | case1 | case4 => cases h
  | case2 opened target found hp hn =>
    cases h
    refine ⟨hn, ?_⟩
    intro node hl
    rw [eq_node_of_place? hp hl]
    exact not_endless_of_redirect_eq_none hn
  | case3 opened target step hp next hn isOpen ih =>
    obtain ⟨hend, hfinite⟩ := ih h
    refine ⟨hend, ?_⟩
    intro node hl endless
    have hone := endless 1
    rw [hop?_one] at hone
    obtain ⟨after, ha⟩ := Option.isSome_iff_exists.mp hone
    have hlook : root.lookup next = some after := by
      rwa [eq_node_of_place? hp hl, target?, hn, Option.bind_some] at ha
    exact hfinite after hlook ((endless_iff_of_target? ha).mp endless)

-- No chain gets lost in a tree whose redirects all have targets.
theorem chase_ending_ne_missing
    (linked : ∀ (place : Place root) (next : Path), place.node.redirect = some next →
      (root.lookup next).isSome)
    (opened : List Path) {target : Path} (h : (root.lookup target).isSome) :
    (root.chase opened target).ending ≠ .missing := by
  fun_induction chase root opened target with
  | case1 opened target hp => simp [lookup_of_place?_eq_none hp] at h
  | case2 | case4 => simp
  | case3 opened target place hp next hn isOpen ih => exact ih (linked place next hn)

end Node

-- Before the first hop only the place itself is closed.
theorem Place.node_eq_of_not_open {root node : Node} (place : Place root) {path : Path}
    (h : root.lookup path = some node) (closed : path ∉ root.paths.erase place.path) :
    node = place.node := by
  have hpath : path = place.path := by
    by_contra hne
    have hmem : path ∈ root.paths := List.mem_map.mpr ⟨_, Place.mem_walk ⟨path, node, h⟩, rfl⟩
    exact closed ((List.mem_erase_of_ne hne).mpr hmem)
  subst hpath
  exact Option.some.inj (h.symm.trans place.located)

namespace Grammar

variable {g : Grammar}

-- No chain of redirects goes on for ever.
def Acyclic (g : Grammar) : Prop :=
  ∀ spot : g.Spot, ¬g.root.Endless spot.node

theorem acyclic_of_hop?_isNone {n : Nat}
    (h : ∀ entry ∈ g.root.walk [], (g.root.hop? n entry.2).isNone) : g.Acyclic := by
  intro spot
  have hnone := Option.isNone_iff_eq_none.mp (h _ spot.mem_walk)
  exact Node.not_endless_of_hop?_eq_none hnone

theorem isSome_lookup_of_redirect (spot : g.Spot) (target : Path)
    (h : spot.node.redirect = some target) : (g.root.lookup target).isSome := by
  have hsound := g.sound _ spot.mem_walk
  have hlink : g.root.linkDefect? spot.path spot.node = none := by
    simp only [Node.defect?] at hsound
    split at hsound
    · exact hsound
    · split at hsound
      · cases hsound
      · exact hsound
  simp only [Node.linkDefect?, h] at hlink
  split at hlink
  · assumption
  · cases hlink

-- The chain of redirects from a place either ends at a node without one, or it never ends and is
-- reported as a circle.
theorem resolve_cases (spot : g.Spot) :
    (∃ place, spot.resolve = .ok place ∧ place.node.redirect = none ∧
      ¬g.root.Endless spot.node) ∨
    (∃ hops, spot.resolve = .error (.cycle hops) ∧ g.root.Endless spot.node) := by
  unfold Place.resolve Place.chain
  split
  · next hn => exact .inl ⟨spot, rfl, hn, Node.not_endless_of_redirect_eq_none hn⟩
  · next target hn =>
    have hsome := isSome_lookup_of_redirect spot target hn
    obtain ⟨node, hl⟩ := Option.isSome_iff_exists.mp hsome
    have hstep : g.root.target? spot.node = some node := by
      rw [Node.target?, hn, Option.bind_some, hl]
    have hmissing := Node.chase_ending_ne_missing isSome_lookup_of_redirect
      (g.root.paths.erase spot.path) hsome
    unfold Chain.result
    split
    · next place hfound =>
      obtain ⟨hend, hfinite⟩ := Node.not_endless_of_chase_found hfound
      exact .inl ⟨place, rfl, hend, fun endless =>
        hfinite node hl ((Node.endless_iff_of_target? hstep).mp endless)⟩
    · next hmiss => exact absurd hmiss hmissing
    · next hcycle =>
      have hleft : ∀ path other, g.root.lookup path = some other →
          path ∉ g.root.paths.erase spot.path →
          ∃ n, g.root.hop? (n + 1) other = g.root.lookup target := by
        intro path other ho hout
        have hother := spot.node_eq_of_not_open ho hout
        exact ⟨0, by rw [hother, Node.hop?_one, hstep, hl]⟩
      obtain ⟨last, he, endless⟩ := Node.endless_of_chase_cycle hleft hcycle
      have hnode : last = node := Option.some.inj (he.symm.trans hl)
      exact .inr ⟨_, rfl, (Node.endless_iff_of_target? hstep).mpr (hnode ▸ endless)⟩

theorem exists_childrenOf_iff (spot : g.Spot) :
    (∃ children, g.childrenOf spot = .ok children) ↔ ¬g.root.Endless spot.node := by
  unfold childrenOf
  rcases resolve_cases spot with ⟨place, hr, -, hfinite⟩ | ⟨hops, hr, endless⟩
  · simp [hr, Except.map, hfinite]
  · simp [hr, Except.map, endless]

theorem Acyclic.exists_childrenOf (acyclic : g.Acyclic) (spot : g.Spot) :
    ∃ children, g.childrenOf spot = .ok children :=
  (exists_childrenOf_iff spot).mpr (acyclic spot)

theorem childrenOf_of_endless {spot : g.Spot} (h : g.root.Endless spot.node) :
    ∃ hops, g.childrenOf spot = .error (.cycle hops) := by
  rcases resolve_cases spot with ⟨place, -, -, hfinite⟩ | ⟨hops, hr, -⟩
  · exact absurd h hfinite
  · exact ⟨hops, by rw [childrenOf, hr]; rfl⟩

-- The only fault of a grammar is an endless chain.
theorem endless_of_childrenOf_eq_error {spot : g.Spot} {fault : RedirectFault}
    (h : g.childrenOf spot = .error fault) :
    g.root.Endless spot.node ∧ ∃ hops, fault = .cycle hops := by
  rcases resolve_cases spot with ⟨place, hr, -, -⟩ | ⟨hops, hr, endless⟩
  · rw [childrenOf, hr] at h
    cases h
  · rw [childrenOf, hr] at h
    cases h
    exact ⟨endless, hops, rfl⟩

end Grammar

end CommandCompletion
