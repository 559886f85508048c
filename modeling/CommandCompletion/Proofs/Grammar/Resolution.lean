import CommandCompletion.Proofs.Grammar.Chain
import CommandCompletion.Proofs.Grammar.Paths

namespace CommandCompletion

namespace Node

variable {root node last : Node} {hops left : List Path} {n m : Nat}

-- Redirects followed one after the other, from a node to where the last of them leads.
inductive Trail (root : Node) : Node → List Path → Node → Prop
  | nil (node : Node) : Trail root node [] node
  | cons {node next last : Node} {hop : Path} {hops : List Path}
      (redirect : node.redirect = some hop) (found : root.lookup hop = some next)
      (others : Trail root next hops last) : Trail root node (hop :: hops) last

-- The last hop is the first one to come back: to one of the paths in `left` or to another hop.
def ComesBack (left hops : List Path) : Prop :=
  ∃ before hop, hops = before ++ [hop] ∧ hop ∈ left ++ before ∧ (left ++ before).Nodup

theorem Trail.hop? (trail : root.Trail node hops last) :
    root.hop? hops.length node = some last := by
  induction trail with
  | nil => rfl
  | cons redirect found _ ih =>
    rw [List.length_cons, Node.hop?, target?, redirect, Option.bind_some, found, Option.bind_some, ih]

theorem Trail.subset_paths (trail : root.Trail node hops last) : hops ⊆ root.paths := by
  induction trail with
  | nil => exact List.nil_subset _
  | cons _ found _ ih => exact List.cons_subset.mpr ⟨mem_paths_of_lookup found, ih⟩

theorem ComesBack.length_le (comesBack : ComesBack left hops) (h : hops ⊆ root.paths) :
    hops.length ≤ root.size + 1 := by
  obtain ⟨before, hop, rfl, -, nodup⟩ := comesBack
  rw [List.length_append, List.length_singleton]
  have hbefore : before ⊆ root.paths := fun path hp => h (List.mem_append_left _ hp)
  exact Nat.succ_le_succ (length_le_size (List.nodup_append.mp nodup).2.1 hbefore)

theorem ComesBack.cons {hop : Path} (comesBack : ComesBack (left ++ [hop]) hops) :
    ComesBack left (hop :: hops) := by
  obtain ⟨before, back, rfl, hmem, nodup⟩ := comesBack
  rw [List.append_assoc, List.singleton_append] at hmem nodup
  exact ⟨hop :: before, back, rfl, hmem, nodup⟩

-- A chain goes no further than a node without a target.
theorem hop?_eq_none (h : root.hop? n node = some last) (stuck : root.target? last = none)
    (hm : n < m) : root.hop? m node = none := by
  obtain ⟨more, rfl⟩ := Nat.exists_eq_add_of_lt hm
  rw [Nat.add_assoc, hop?_add, h, Option.bind_some, hop?, stuck, Option.bind_none]

theorem not_endless_of_stuck (h : root.hop? n node = some last)
    (stuck : root.target? last = none) : ¬root.Endless node :=
  not_endless_of_hop?_eq_none (hop?_eq_none h stuck (Nat.lt_succ_self n))

theorem eq_of_stuck {other : Node} (h : root.hop? n node = some last)
    (stuck : root.target? last = none) (ho : root.hop? m node = some other)
    (stuckToo : root.target? other = none) : last = other := by
  have hle : n ≤ m := Nat.not_lt.mp fun hlt => by simp [hop?_eq_none ho stuckToo hlt] at h
  have hge : m ≤ n := Nat.not_lt.mp fun hlt => by simp [hop?_eq_none h stuck hlt] at ho
  rw [Nat.le_antisymm hle hge, ho] at h
  exact (Option.some.inj h).symm

theorem path_of_place? {path : Path} {place : Place root} (h : root.place? path = some place) :
    place.path = path := by
  unfold place? at h
  split at h
  · cases h
  · cases h
    rfl

theorem target?_eq_none_of_redirect (h : last.redirect = none) : root.target? last = none := by
  rw [target?, h, Option.bind_none]

theorem target?_eq_none_of_lookup {target : Path} (h : last.redirect = some target)
    (hl : root.lookup target = none) : root.target? last = none := by
  rw [target?, h, Option.bind_some, hl]

-- What following the redirects from a node comes to, if the paths in `left` count as visited.
inductive Outcome (root : Node) (left : List Path) (node : Node) :
    Except RedirectFault Node → Prop
  | found {hops : List Path} {last : Node} (trail : root.Trail node hops last)
      (ending : last.redirect = none) : Outcome root left node (.ok last)
  | missing {hops : List Path} {last : Node} {target : Path} (trail : root.Trail node hops last)
      (redirect : last.redirect = some target) (lost : root.lookup target = none) :
      Outcome root left node (.error (.missing target))
  | cycle {hops : List Path} {last : Node} (trail : root.Trail node hops last)
      (comesBack : ComesBack left hops) (endless : root.Endless node) :
      Outcome root left node (.error (.cycle hops))

end Node

namespace Chain

open Node (Trail ComesBack)

variable {root node : Node} {left : List Path}

-- What the end of a chain says about the redirects that were followed from a node.
def Follows (chain : Chain root) (left : List Path) (node : Node) : Prop :=
  match chain.ending with
  | .found place => root.Trail node chain.hops place.node ∧ place.node.redirect = none ∧
      chain.hops.getLast? = some place.path
  | .missing => ∃ before last target, chain.hops = before ++ [target] ∧
      root.Trail node before last ∧ last.redirect = some target ∧ root.lookup target = none
  | .cycle => (∃ last, root.Trail node chain.hops last) ∧ ComesBack left chain.hops

-- One more hop in front of a chain.
theorem Follows.cons {chain : Chain root} {hop : Path} {next : Node}
    (redirect : node.redirect = some hop) (found : root.lookup hop = some next)
    (follows : chain.Follows (left ++ [hop]) next) : (chain.cons hop).Follows left node := by
  obtain ⟨hops, ending⟩ := chain
  cases ending with
  | found place =>
    obtain ⟨trail, hend, hlast⟩ := follows
    refine ⟨.cons redirect found trail, hend, ?_⟩
    change (hop :: hops).getLast? = some place.path
    rw [List.getLast?_cons, show hops.getLast? = some place.path from hlast]
    rfl
  | missing =>
    obtain ⟨before, last, target, hhops, trail, rest⟩ := follows
    exact ⟨hop :: before, last, target, congrArg (hop :: ·) hhops, .cons redirect found trail, rest⟩
  | cycle =>
    obtain ⟨⟨last, trail⟩, comesBack⟩ := follows
    exact ⟨⟨last, .cons redirect found trail⟩, comesBack.cons⟩

-- The open paths are those of the tree that were not left yet.
theorem follows_chase {opened : List Path} {target : Path} (redirect : node.redirect = some target)
    (nodup : opened.Nodup) (apart : left.Nodup)
    (opens : ∀ path ∈ root.paths, path ∈ opened ↔ path ∉ left) :
    (root.chase opened target).Follows left node := by
  fun_induction Node.chase root opened target generalizing left node with
  | case1 opened target hp =>
    exact ⟨[], node, target, rfl, .nil node, redirect, Node.lookup_of_place?_eq_none hp⟩
  | case2 opened target place hp hend =>
    have hlast : [target].getLast? = some place.path := by rw [Node.path_of_place? hp]; rfl
    exact ⟨.cons redirect (Node.lookup_of_place? hp) (.nil _), hend, hlast⟩
  | case3 opened target place hp next hnext isOpen ih =>
    have hl := Node.lookup_of_place? hp
    have fresh : target ∉ left := (opens target (Node.mem_paths_of_lookup hl)).mp isOpen
    have apartToo : (left ++ [target]).Nodup := List.concat_eq_append ▸ apart.concat fresh
    refine Follows.cons redirect hl (ih hnext (nodup.erase _) apartToo ?_)
    intro path hpath
    rw [nodup.mem_erase_iff, opens path hpath, List.mem_append, List.mem_singleton, not_or,
      and_comm]
  | case4 opened target place hp next hnext closed =>
    have hl := Node.lookup_of_place? hp
    have visited : target ∈ left := by
      by_contra fresh
      exact closed ((opens target (Node.mem_paths_of_lookup hl)).mpr fresh)
    rw [← List.append_nil left] at visited apart
    exact ⟨⟨_, .cons redirect hl (.nil _)⟩, [], target, rfl, visited, apart⟩

theorem Follows.outcome {chain : Chain root} (follows : chain.Follows left node)
    (endless : chain.ending = .cycle → root.Endless node) :
    root.Outcome left node (chain.result.map (·.node)) := by
  obtain ⟨hops, ending⟩ := chain
  cases ending with
  | found place => exact .found follows.1 follows.2.1
  | missing =>
    obtain ⟨before, last, target, rfl, trail, redirect, lost⟩ := follows
    have hresult : (⟨before ++ [target], .missing⟩ : Chain root).result =
        .error (.missing target) :=
      congrArg (Except.error ∘ RedirectFault.missing) List.getLastD_concat
    rw [hresult]
    exact .missing trail redirect lost
  | cycle =>
    obtain ⟨⟨last, trail⟩, comesBack⟩ := follows
    exact .cycle trail comesBack (endless rfl)

end Chain

namespace Node

variable {root node last : Node} {left : List Path}

theorem outcome_of_redirect_eq_none (h : node.redirect = none) :
    root.Outcome left node (.ok node) :=
  .found (.nil node) h

-- The children of a node outside the tree, which no redirect comes back to.
theorem outcome_resolve (distinct : ∀ entry ∈ root.walk [], Dict.Distinct entry.2.children)
    (node : Node) : root.Outcome [] node (node.resolve root) := by
  unfold resolve
  split
  · next h => exact outcome_of_redirect_eq_none h
  · next target h =>
    have follows : (root.chase root.paths target).Follows [] node :=
      Chain.follows_chase h (nodup_paths distinct) .nil fun path hp => by simpa using hp
    refine follows.outcome fun hcycle => ?_
    have allOpen : ∀ path other, root.lookup path = some other → path ∉ root.paths →
        ∃ n, root.hop? (n + 1) other = root.lookup target :=
      fun path other hl closed => absurd (mem_paths_of_lookup hl) closed
    obtain ⟨next, hl, endless⟩ := endless_of_chase_cycle allOpen hcycle
    exact (endless_iff_of_target? (by rw [target?, h, Option.bind_some, hl])).mpr endless

end Node

-- The place itself is the first to count as visited.
theorem Place.follows_chase {root : Node}
    (distinct : ∀ entry ∈ root.walk [], Dict.Distinct entry.2.children) (place : Place root)
    {target : Path} (redirect : place.node.redirect = some target) :
    (root.chase (root.paths.erase place.path) target).Follows [place.path] place.node := by
  have nodup := Node.nodup_paths distinct
  refine Chain.follows_chase redirect (nodup.erase _) (List.nodup_singleton _) fun path hp => ?_
  rw [nodup.mem_erase_iff, List.mem_singleton]
  exact and_iff_left hp

theorem Place.outcome_resolve {root : Node}
    (distinct : ∀ entry ∈ root.walk [], Dict.Distinct entry.2.children) (place : Place root) :
    root.Outcome [place.path] place.node (place.resolve.map (·.node)) := by
  unfold Place.resolve Place.chain
  split
  · next h => exact Node.outcome_of_redirect_eq_none h
  · next target h =>
    refine (place.follows_chase distinct h).outcome fun hcycle => ?_
    have hleft : ∀ path other, root.lookup path = some other →
        path ∉ root.paths.erase place.path →
        ∃ n, root.hop? (n + 1) other = root.lookup target := by
      intro path other hl closed
      refine ⟨0, ?_⟩
      rw [place.node_eq_of_not_open hl closed, Node.hop?_one, Node.target?, h, Option.bind_some]
    obtain ⟨next, hl, endless⟩ := Node.endless_of_chase_cycle hleft hcycle
    exact (Node.endless_iff_of_target? (by rw [Node.target?, h, Option.bind_some, hl])).mpr endless

-- A place that is found stands where the last hop leads.
theorem Place.exists_trail_of_resolve {root : Node}
    (distinct : ∀ entry ∈ root.walk [], Dict.Distinct entry.2.children) {place found : Place root}
    (h : place.resolve = .ok found) :
    ∃ hops, root.Trail place.node hops found.node ∧ found.path = hops.getLastD place.path := by
  unfold Place.resolve Place.chain at h
  split at h
  · cases h
    exact ⟨[], .nil _, rfl⟩
  · next target redirect =>
    have follows := place.follows_chase distinct redirect
    unfold Chain.result at h
    split at h
    · next there hfound =>
      cases h
      simp only [Chain.Follows, hfound] at follows
      obtain ⟨trail, -, hlast⟩ := follows
      exact ⟨_, trail, by rw [List.getLastD_eq_getLast?, hlast]; rfl⟩
    · cases h
    · cases h

namespace Node

variable {root node : Node} {left : List Path} {result : Except RedirectFault Node}

-- What the redirects from a node come to, told by the chain of nodes alone: the result is the
-- first one without a redirect, the redirect that leads nowhere, or, of a chain without an end, the
-- hops up to the first one that comes back.
structure ResolvesTo (root : Node) (left : List Path) (node : Node)
    (result : Except RedirectFault Node) : Prop where
  found : ∀ last, result = .ok last ↔ ∃ k, root.hop? k node = some last ∧ last.redirect = none ∧
    ∀ i < k, ∃ earlier target, root.hop? i node = some earlier ∧ earlier.redirect = some target
  missing : ∀ target, result = .error (.missing target) ↔ ∃ k last,
    root.hop? k node = some last ∧ last.redirect = some target ∧ root.lookup target = none
  endless : (∃ hops, result = .error (.cycle hops)) ↔ root.Endless node
  cycle : ∀ hops, result = .error (.cycle hops) → (∃ last, root.Trail node hops last) ∧
    ComesBack left hops ∧ hops.length ≤ root.size + 1
  message : ∀ fault, result = .error fault →
    (∃ target, root.lookup target = none ∧
      fault.message = "Redirect target not found: " ++ hopText target) ∨
    ∃ hops last, root.Trail node hops last ∧
      fault.message = "Redirect cycle: " ++ Text.join " -> " (hops.map hopText)

theorem exists_redirect_of_lt {last : Node} {k i : Nat} (h : root.hop? k node = some last)
    (hi : i < k) :
    ∃ earlier target, root.hop? i node = some earlier ∧ earlier.redirect = some target := by
  cases hhop : root.hop? i node with
  | none =>
    rw [← Nat.add_sub_of_le (Nat.le_of_lt hi), hop?_add, hhop] at h
    cases h
  | some earlier =>
    cases hredirect : earlier.redirect with
    | none => simp [hop?_eq_none hhop (target?_eq_none_of_redirect hredirect) hi] at h
    | some target => exact ⟨earlier, target, rfl, hredirect⟩

theorem Outcome.resolvesTo (outcome : root.Outcome left node result) :
    root.ResolvesTo left node result := by
  cases outcome with
  | @found hops last trail ending =>
    have stuck : root.target? last = none := target?_eq_none_of_redirect ending
    refine ⟨fun other => ⟨?_, ?_⟩, fun target => iff_of_false (by simp) ?_,
      iff_of_false (by simp) (not_endless_of_stuck trail.hop? stuck), by simp, by simp⟩
    · rintro ⟨⟩
      exact ⟨_, trail.hop?, ending, fun i hi => exists_redirect_of_lt trail.hop? hi⟩
    · rintro ⟨k, hk, hend, -⟩
      rw [eq_of_stuck trail.hop? stuck hk (target?_eq_none_of_redirect hend)]
    · rintro ⟨k, other, hk, redirect, lost⟩
      have same := eq_of_stuck trail.hop? stuck hk (target?_eq_none_of_lookup redirect lost)
      rw [← same, ending] at redirect
      cases redirect
  | @missing hops last target trail redirect lost =>
    have stuck : root.target? last = none := target?_eq_none_of_lookup redirect lost
    refine ⟨fun other => iff_of_false (by simp) ?_, fun other => ⟨?_, ?_⟩,
      iff_of_false (by simp) (not_endless_of_stuck trail.hop? stuck), by simp, ?_⟩
    · rintro ⟨k, hk, hend, -⟩
      have same := eq_of_stuck trail.hop? stuck hk (target?_eq_none_of_redirect hend)
      rw [same, hend] at redirect
      cases redirect
    · rintro ⟨⟩
      exact ⟨_, last, trail.hop?, redirect, lost⟩
    · rintro ⟨k, stop, hk, elsewhere, gone⟩
      have same := eq_of_stuck trail.hop? stuck hk (target?_eq_none_of_lookup elsewhere gone)
      rw [same, elsewhere] at redirect
      cases redirect
      rfl
    · rintro _ ⟨⟩
      exact .inl ⟨target, lost, rfl⟩
  | @cycle hops last trail comesBack endless =>
    refine ⟨fun other => iff_of_false (by simp) ?_, fun target => iff_of_false (by simp) ?_,
      iff_of_true ⟨hops, rfl⟩ endless, ?_, ?_⟩
    · rintro ⟨k, hk, hend, -⟩
      exact not_endless_of_stuck hk (target?_eq_none_of_redirect hend) endless
    · rintro ⟨k, other, hk, redirect, lost⟩
      exact not_endless_of_stuck hk (target?_eq_none_of_lookup redirect lost) endless
    · rintro _ ⟨⟩
      exact ⟨⟨last, trail⟩, comesBack, comesBack.length_le trail.subset_paths⟩
    · rintro _ ⟨⟩
      exact .inr ⟨hops, last, trail, rfl⟩

-- Redirects are resolved exactly, from a place in a tree, which counts as visited, and from a node
-- outside of it. In a grammar no redirect leads nowhere. Siblings have different names in every
-- tree that is read from data.
theorem resolve_exact {root : Node}
    (distinct : ∀ entry ∈ root.walk [], Dict.Distinct entry.2.children) :
    (∀ place : Place root,
      root.ResolvesTo [place.path] place.node (place.resolve.map (·.node)) ∧
        ∀ found, place.resolve = .ok found → ∃ hops,
          root.Trail place.node hops found.node ∧ found.path = hops.getLastD place.path) ∧
      (∀ node : Node, root.ResolvesTo [] node (node.resolve root)) ∧
      ∀ (g : Grammar) (spot : g.Spot) (target : Path), spot.resolve ≠ .error (.missing target) := by
  refine ⟨fun place => ⟨(place.outcome_resolve distinct).resolvesTo, fun found hfound =>
    Place.exists_trail_of_resolve distinct hfound⟩, fun node =>
      (outcome_resolve distinct node).resolvesTo, fun g spot target hmissing => ?_⟩
  rcases Grammar.resolve_cases spot with ⟨place, hr, -⟩ | ⟨hops, hr, -⟩ <;>
    rw [hr] at hmissing <;> cases hmissing

-- Two nodes that redirect to each other behind a third one, and one that redirects to nothing.
def ring : Node where
  kind := .root
  children := [
    ("in", { kind := .literal, redirect := some ["a"] }),
    ("a", { kind := .literal, redirect := some ["b"] }),
    ("b", { kind := .literal, redirect := some ["a"] }),
    ("lost", { kind := .literal, redirect := some ["gone"] }),
    ("back", { kind := .literal, redirect := some [] })]

theorem resolve_exact_sample :
    let place : Place ring := ⟨["in"], { kind := .literal, redirect := some ["a"] }, rfl⟩
    let stray : Node := { kind := .literal, redirect := some ["back"] }
    let lost : Node := { kind := .literal, redirect := some ["lost"] }
    (∀ entry ∈ ring.walk [], Dict.Distinct entry.2.children) ∧
      place.resolve = .error (.cycle [["a"], ["b"], ["a"]]) ∧ ring.Endless place.node ∧
      ComesBack [["in"]] [["a"], ["b"], ["a"]] ∧ stray.resolve ring = .ok ring ∧
      lost.resolve ring = .error (.missing ["gone"]) := by
  intro place stray lost
  have distinct : ∀ entry ∈ ring.walk [], Dict.Distinct entry.2.children := by
    unfold Dict.Distinct
    decide
  obtain ⟨inside, outside, -⟩ := resolve_exact distinct
  have circle : place.resolve = .error (.cycle [["a"], ["b"], ["a"]]) := by decide +kernel
  have resolves := (inside place).1
  rw [circle] at resolves
  have stops : stray.resolve ring = .ok ring := by
    refine ((outside stray).found ring).mpr ⟨2, rfl, rfl, fun i hi => ?_⟩
    exact exists_redirect_of_lt (show ring.hop? 2 stray = some ring from rfl) hi
  exact ⟨distinct, circle, resolves.endless.mp ⟨_, rfl⟩, (resolves.cycle _ rfl).2.1, stops,
    ((outside lost).missing _).mpr ⟨1, _, rfl, rfl, rfl⟩⟩

end Node

end CommandCompletion
