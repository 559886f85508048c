import CommandCompletion.Line.Suggestion
import CommandCompletion.Proofs.Grammar.Chain
import CommandCompletion.Proofs.Line.Choice
import CommandCompletion.Sample

namespace CommandCompletion

open Text (IsWord IsGap Flush)

namespace Sample

-- The sample without its last two commands, whose arguments compete with each other.
def orderly : Grammar where
  root := { kind := .root, children := root.children.dropLast.dropLast }
  isRoot := rfl
  sound := by decide +kernel
  distinct := by
    unfold Dict.Distinct
    decide +kernel

theorem orderly_plainNames : orderly.PlainNames := by
  decide +kernel

theorem orderly_argumentLast : orderly.ArgumentLast := by
  decide +kernel

-- No redirect of the sample leads to another one.
theorem orderly_acyclic : orderly.Acyclic := by
  have finite : ∀ entry ∈ orderly.root.walk [], (orderly.root.hop? 2 entry.2).isNone := by
    decide +kernel
  exact Grammar.acyclic_of_hop?_isNone finite

end Sample

namespace Grammar

variable {g : Grammar}

-- A path written out: a phrase for each child on it, and the names with the texts they are bound
-- to on the way. An argument does not begin with the name of a literal that could stand there, and
-- only behind the last child there may be no blank.
inductive Writes (g : Grammar) :
    g.Spot → Path → List Phrase → List (Text × Text) → Prop
  | nil (spot : g.Spot) : Writes g spot [] [] []
  | cons {spot child : g.Spot} {children : List (Text × g.Spot)} {name : Text} {phrase : Phrase}
      {bound : Option Text} {path : Path} {phrases : List Phrase} {bindings : List (Text × Text)}
      (offered : g.childrenOf spot = .ok children) (member : (name, child) ∈ children)
      (spelled : child.node.Spelled name phrase bound)
      (fresh : child.node.kind = .argument → phrase.Fresh children)
      (parted : ¬phrase.Closed → phrases = [])
      (others : Writes g child path phrases bindings) :
      Writes g spot (name :: path) (phrase :: phrases)
        ((bound.map (name, ·)).toList ++ bindings)

-- Only in front of nothing a phrase may lack a blank.
theorem text_eq_nil_of_parted {phrase : Phrase} {phrases : List Phrase}
    (parted : ¬phrase.Closed → phrases = []) :
    ¬phrase.Closed → phrases.flatMap Phrase.text = [] := by
  intro hopen
  rw [parted hopen]
  rfl

variable {spot : g.Spot} {path : Path} {phrases : List Phrase} {bindings : List (Text × Text)}

theorem Writes.literal {child : g.Spot} {children : List (Text × g.Spot)} {name gap : Text}
    (offered : g.childrenOf spot = .ok children) (member : (name, child) ∈ children)
    (kind : child.node.kind = .literal) (blank : IsGap gap) (parted : gap = [] → phrases = [])
    (others : g.Writes child path phrases bindings) :
    g.Writes spot (name :: path) ([⟨name, gap⟩] :: phrases) bindings := by
  have hopen : ¬Phrase.Closed [⟨name, gap⟩] → phrases = [] := by
    intro hopen
    exact parted (by simpa [Phrase.Closed] using hopen)
  have fresh : child.node.kind = .argument → Phrase.Fresh [⟨name, gap⟩] children := by
    simp [kind]
  exact .cons offered member (.literal kind blank) fresh hopen others

theorem Writes.flush (plain : g.PlainNames) (writes : g.Writes spot path phrases bindings) :
    Flush (phrases.flatMap Phrase.text) := by
  cases writes with
  | nil => exact Text.flush_nil
  | @cons _ child children name phrase bound path phrases bindings offered member spelled _ parted =>
    rw [List.flatMap_cons]
    exact spelled.flush_append (plain.isWord offered member) (text_eq_nil_of_parted parted)

-- The walk takes the children of a path that is written out, one after the other.
theorem Writes.exists_course (plain : g.PlainNames) (last : g.ArgumentLast)
    (writes : g.Writes spot path phrases bindings) :
    ∃ steps tip, g.Course spot (phrases.flatMap Phrase.text) steps tip [] ∧
      steps.map (·.name) = path ∧ steps.filterMap Step.binding? = bindings := by
  induction writes with
  | nil spot => exact ⟨[], spot, .nil _ _, rfl, rfl⟩
  | @cons spot child children name phrase bound path phrases bindings offered member spelled fresh
      parted others ih =>
    obtain ⟨steps, tip, course, hpath, hbindings⟩ := ih
    have turn := Turn.of_spelled plain last offered member spelled fresh (others.flush plain)
      (text_eq_nil_of_parted parted)
    refine ⟨⟨name, child, bound, phrase.text⟩ :: steps, tip, .cons turn course, ?_, ?_⟩
    · rw [List.map_cons, hpath]
    · rw [List.filterMap_cons, hbindings]
      cases bound <;> rfl

-- Every command that the grammar describes is read as itself, whatever blanks stand in it.
theorem parse_of_writes (s : CommandSet) (plain : s.grammar.PlainNames)
    (last : s.grammar.ArgumentLast) {path : Path} {tip target : s.grammar.Spot}
    (found : s.grammar.find path = .ok (some tip)) (resolves : tip.resolve = .ok target)
    {phrases : List Phrase} {bindings : List (Text × Text)}
    (writes : s.grammar.Writes s.grammar.top path phrases bindings)
    {indent : Text} (blank : IsGap indent) :
    s.parse (indent ++ phrases.flatMap Phrase.text) =
        .ok ⟨tip, [], Dict.ofList bindings, path⟩ ∧
      s.isComplete (indent ++ phrases.flatMap Phrase.text) = .ok tip.node.executable := by
  obtain ⟨steps, reached, course, hpath, hbindings⟩ := writes.exists_course plain last
  have hreached : reached = tip := by
    have walked := course.findFrom
    rw [hpath, ← find, found] at walked
    exact (Option.some.inj (Except.ok.inj walked)).symm
  subst hreached
  have stops : s.grammar.Stops reached [] :=
    stops_nil (childrenOf_eq_ok_iff.mpr ⟨target, resolves, rfl⟩)
  have parsed : s.parse (indent ++ phrases.flatMap Phrase.text) =
      .ok ⟨reached, [], Dict.ofList bindings, path⟩ := by
    rw [CommandSet.parse, Text.trimStart_gap_append blank (writes.flush plain), parse,
      parseFrom_of_stops course stops, hpath, hbindings]
  refine ⟨parsed, ?_⟩
  rw [CommandSet.isComplete, parsed]
  rfl

-- A command behind a redirect to the root, with an argument of three words and odd blanks.
theorem parse_of_writes_sample :
    let g := Sample.orderly
    let path : Path := ["execute", "run", "setblock", "pos"]
    let tip := g.spotAt ["setblock", "pos"] (by decide +kernel)
    let line : Text := " execute run\t setblock ~ ~1  ~ "
    g.find path = .ok (some tip) ∧ tip.resolve = .ok tip ∧
      CommandSet.parse ⟨g, Sample.registries⟩ line = .ok ⟨tip, [], [("pos", "~ ~1 ~")], path⟩ ∧
      CommandSet.isComplete ⟨g, Sample.registries⟩ line = .ok false := by
  intro g path tip line
  let execute := g.spotAt ["execute"] (by decide +kernel)
  let run := g.spotAt ["execute", "run"] (by decide +kernel)
  let setblock := g.spotAt ["setblock"] (by decide +kernel)
  let offset : Phrase := [⟨"~", " "⟩, ⟨"~1", "  "⟩, ⟨"~", " "⟩]
  have found : g.find path = .ok (some tip) := by decide +kernel
  have resolves : tip.resolve = .ok tip := by decide +kernel
  have atTop : g.childrenOf g.top = .ok (g.ownChildren g.top) := by decide +kernel
  have atExecute : g.childrenOf execute = .ok (g.ownChildren execute) := by decide +kernel
  have atRun : g.childrenOf run = .ok (g.ownChildren g.top) := by decide +kernel
  have atSetblock : g.childrenOf setblock = .ok (g.ownChildren setblock) := by decide +kernel
  have inTop : (("execute" : Text), execute) ∈ g.ownChildren g.top := by decide +kernel
  have inExecute : (("run" : Text), run) ∈ g.ownChildren execute := by decide +kernel
  have inRun : (("setblock" : Text), setblock) ∈ g.ownChildren g.top := by decide +kernel
  have inSetblock : (("pos" : Text), tip) ∈ g.ownChildren setblock := by decide +kernel
  have spelled : tip.node.Spelled "pos" offset (some "~ ~1 ~") := .argument rfl rfl (by decide)
  have fresh : offset.Fresh (g.ownChildren setblock) := by decide +kernel
  have pos : g.Writes setblock ["pos"] [offset] [("pos", "~ ~1 ~")] :=
    .cons atSetblock inSetblock spelled (fun _ => fresh) (by decide) (.nil tip)
  have writes : g.Writes g.top path
      [[⟨"execute", " "⟩], [⟨"run", "\t "⟩], [⟨"setblock", " "⟩], offset]
      [("pos", "~ ~1 ~")] :=
    .literal atTop inTop rfl (by decide) (by decide)
      (.literal atExecute inExecute rfl (by decide) (by decide)
        (.literal atRun inRun rfl (by decide) (by decide) pos))
  have plain : g.PlainNames := by decide +kernel
  have last : g.ArgumentLast := by decide +kernel
  exact ⟨found, resolves, parse_of_writes ⟨g, Sample.registries⟩ plain last found resolves writes
    Text.isGap_space⟩

end Grammar

end CommandCompletion
