import Mathlib
import CommandCompletion.Proofs.Json.LineEnd
import CommandCompletion.Proofs.Program.Document

namespace CommandCompletion

namespace Node

variable {node : Node}

-- Data that is read back from its print: nothing in it is rounded or renamed.
theorem IsDecoded.echo_toValue (decoded : node.IsDecoded) (exact : node.hasDouble = false)
    (whole : node.hasHalfName = false) : node.toValue.echo = node.toValue :=
  decoded.toValue.echo_eq (decoded.hasDouble_toValue exact whole)

theorem IsDecoded.ofValue_toValue (decoded : node.IsDecoded) (exact : node.hasDouble = false)
    (whole : node.hasHalfName = false) (fits : node.depth ≤ maxDepth) :
    ofValue node.toValue = .ok node :=
  readBelow_toValue decoded exact whole (by omega)

theorem IsDecoded.read_write (decoded : node.IsDecoded) (exact : node.hasDouble = false)
    (whole : node.hasHalfName = false) (fits : node.depth ≤ maxDepth) :
    Json.read (Text.unifyLineEnds (Json.write node.toValue).toList) = .ok node.toValue := by
  have hlimit : 2 * maxDepth + 1 ≤ Json.maxDepth := by decide
  have hdepth := decoded.depth_toValue_le
  have hread : Json.read (Json.print node.toValue ++ []) = .ok node.toValue.echo :=
    Json.read_print_append decoded.toValue.hasLong (by omega) nofun
  rwa [List.append_nil, decoded.echo_toValue exact whole,
    ← Json.unifyLineEnds_write (decoded.hasDouble_toValue exact whole)] at hread

end Node

namespace Loading

variable {s : Store} {path : Text} {file : FilePath}

-- A file that holds the data of a grammar's root is loaded as that grammar.
theorem grammar_of_root {bytes : ByteArray} {text : String} {data : Value} {g : Grammar}
    (names : Names s path file) (hbytes : s.read file = .ok bytes)
    (htext : String.fromUTF8? bytes = some text)
    (hdata : Json.read (Text.unifyLineEnds text.toList) = .ok data)
    (hroot : Node.ofValue data = .ok g.root) : grammar s path = .ok g := by
  obtain ⟨hfile, hhalf, hnull⟩ := names
  have hread : readText s .grammar file = .ok (Text.unifyLineEnds text.toList) :=
    readText_eq_ok_iff.mpr ⟨hnull, bytes, text, hbytes, htext, rfl⟩
  have hjson : readJson s .grammar path = .ok data := by
    rw [readJson_of_expandHome hfile hhalf, hread]
    simp only [bind, Except.bind, parse, hdata]
  rw [grammar, hjson]
  simp only [bind, Except.bind, Grammar.build_of_root hroot]

end Loading

namespace Program

-- The commands that a run works with.
def served? (c : Choices) (s : Store) : Option CommandSet :=
  match (logLevel c).run { store := s } with
  | .ok level w =>
    match (commandSet c).run { w with level } with
    | .ok set _ => some set
    | .error _ _ => none
  | .error _ _ => none

variable {c : Choices} {s : Store} {words : List Text} {path : Path} {depth : Nat}
  {set : CommandSet}

theorem served?_eq_some (h : served? c s = some set) : ∃ level w w',
    (logLevel c).run { store := s } = .ok level w ∧
      (commandSet c).run { w with level } = .ok set w' := by
  unfold served? at h
  split at h
  · next level w hlevel =>
    split at h
    · next set w' hset =>
      cases h
      exact ⟨level, w, w', hlevel, hset⟩
    · cases h
  · cases h

theorem exists_run_of_yields {α : Type} {x : Action α} {w : World} {done : α → World → Prop}
    (h : Yields x w done fun _ _ => False) : ∃ a w', x.run w = .ok a w' ∧ done a w' := by
  unfold Yields at h
  split at h
  · next a w' hrun => exact ⟨a, w', hrun, h⟩
  · exact h.elim

theorem isDecoded_of_served (served : served? c s = some set) : set.IsDecoded := by
  obtain ⟨_, _, _, -, hset⟩ := served?_eq_some served
  exact isDecoded_of_commandSet hset

-- A node that is found is sent if it fits. Otherwise nothing is.
theorem yields_reply_tree (path : Path) (depth : Nat) (json : c.mode = .json)
    (served : served? c s = some set)
    {spot target : set.grammar.Spot} (found : set.grammar.find path = .ok (some spot))
    (resolved : spot.resolve = .ok target) :
    Yields (reply c (.tree path depth)) { store := s }
      (fun _ w => target.node.depth ≤ Node.maxDepth ∧
        w.output = Report.success target.node.toValue)
      fun _ w => Node.maxDepth < target.node.depth ∧ w.output = [] := by
  obtain ⟨level, w, w', hlevel, hset⟩ := served?_eq_some served
  have hlevelOut : w.output = [] :=
    (yields_of_run hlevel).mp ((reportFrame c.mode).keeps_logLevel { store := s })
  have hsetOut : w'.output = w.output :=
    (yields_of_run hset).mp ((reportFrame c.mode).keeps_commandSet _)
  have hreport : Report.tree c.mode path depth target.node =
      .ok (Report.success target.node.toValue) := by
    rw [json]
    rfl
  rw [reply, yields_bind, yields_of_run hlevel, yields_bind, yields_modify, answer, tree,
    yields_bind, yields_of_run hset, yields_bind, yields_log, found, yields_bind, onGrammar,
    yields_pure]
  dsimp only
  rw [yields_bind, yields_log, resolved, yields_bind, onGrammar, yields_pure, yields_unless,
    hreport]
  simp only [json, decide_true, Bool.true_and, decide_eq_true_eq]
  split
  · next deep => exact ⟨deep, hsetOut.trans hlevelOut⟩
  · next fits =>
    refine yields_document.mpr ⟨not_lt.mp fits, ?_⟩
    rw [hsetOut, hlevelOut, List.nil_append]
    rfl

theorem run_prints_tree (asked : asked? s words = some (c, .tree path depth))
    (json : c.mode = .json) (served : served? c s = some set)
    {spot target : set.grammar.Spot} (found : set.grammar.find path = .ok (some spot))
    (resolved : spot.resolve = .ok target) (fits : target.node.depth ≤ Node.maxDepth)
    (lines : List (Option Text)) :
    (run s words lines).crash = none ∧ (run s words lines).code = 0 ∧
      Report.Prints (run s words lines).world.output
        (.table [("status", .text "success"), ("data", target.node.toValue.echo)]) := by
  have decoded : target.node.IsDecoded := (isDecoded_of_served served).grammar.lookup target.located
  have hlimit : 2 * Node.maxDepth + 1 < Json.maxDepth := by decide
  have hdepth := decoded.depth_toValue_le
  have hyields := yields_reply_tree path depth json served found resolved
  rw [run_of_asked asked]
  unfold Yields at hyields
  split at hyields
  · next w hrun =>
    rw [hrun, Ending.ofResult, hyields.2]
    exact ⟨rfl, rfl, Report.prints_success decoded.toValue.hasLong (by omega)⟩
  · exact absurd fits (not_le.mpr hyields.1)

theorem run_sends_nothing (asked : asked? s words = some (c, .tree path depth))
    (json : c.mode = .json) (served : served? c s = some set)
    {spot target : set.grammar.Spot} (found : set.grammar.find path = .ok (some spot))
    (resolved : spot.resolve = .ok target) (deep : Node.maxDepth < target.node.depth)
    (lines : List (Option Text)) : (run s words lines).world.output = [] := by
  have hyields := yields_reply_tree path depth json served found resolved
  rw [run_of_asked asked]
  unfold Yields at hyields
  split at hyields
  · exact absurd hyields.1 (not_le.mpr deep)
  · next stop w hrun =>
    rw [hrun]
    cases stop <;> exact hyields.2

theorem resolve_top (direct : set.grammar.root.redirect = none) :
    set.grammar.top.resolve = .ok set.grammar.top := by
  rw [Place.resolve, Place.chain, Grammar.top, direct]
  rfl

-- Whether a node is found at the end of a path and passes a test.
def reaches (g : Grammar) (path : Path) (test : Node → Bool) : Bool :=
  match g.find path with
  | .ok (some spot) =>
    match spot.resolve with
    | .ok target => test target.node
    | .error _ => false
  | _ => false

theorem exists_of_reaches {g : Grammar} {test : Node → Bool} (h : reaches g path test) :
    ∃ spot target, g.find path = .ok (some spot) ∧ spot.resolve = .ok target ∧
      test target.node = true := by
  unfold reaches at h
  split at h
  · next spot hspot =>
    split at h
    · next target htarget => exact ⟨spot, target, hspot, htarget, h⟩
    · cases h
  · cases h

-- The tree that a run writes as a document is the node that was asked for: it is read back from
-- the document as it is, if nothing in it is rounded, renamed or too deep to be exported. What was
-- written of a whole grammar is loaded as that grammar from any file that holds it.
theorem exported_tree_is_read_back (asked : asked? s words = some (c, .tree path depth))
    (json : c.mode = .json) (served : served? c s = some set)
    {spot target : set.grammar.Spot} (found : set.grammar.find path = .ok (some spot))
    (resolved : spot.resolve = .ok target) (exact : target.node.hasDouble = false)
    (whole : target.node.hasHalfName = false) (fits : target.node.depth ≤ Node.maxDepth)
    (lines : List (Option Text)) :
    (run s words lines).crash = none ∧ (run s words lines).code = 0 ∧
      ∃ data, Report.Prints (run s words lines).world.output
          (.table [("status", .text "success"), ("data", data)]) ∧
        Node.ofValue data = .ok target.node ∧
        (path = [] → set.grammar.root.redirect = none →
          Json.read (Text.unifyLineEnds (Json.write data).toList) = .ok data ∧
          ∀ s' name file bytes text, Loading.Names s' name file → s'.read file = .ok bytes →
            String.fromUTF8? bytes = some text →
            Json.read (Text.unifyLineEnds text.toList) = .ok data →
            Loading.grammar s' name = .ok set.grammar) := by
  have decoded : target.node.IsDecoded := (isDecoded_of_served served).grammar.lookup target.located
  have hread := decoded.ofValue_toValue exact whole fits
  obtain ⟨hcrash, hcode, hprints⟩ := run_prints_tree asked json served found resolved fits lines
  rw [decoded.echo_toValue exact whole] at hprints
  refine ⟨hcrash, hcode, target.node.toValue, hprints, hread, ?_⟩
  rintro rfl direct
  have htop : target = set.grammar.top := by
    obtain rfl : set.grammar.top = spot := Option.some.inj (Except.ok.inj found)
    exact Except.ok.inj (resolved.symm.trans (resolve_top direct))
  exact ⟨decoded.read_write exact whole fits, fun s' name file bytes text names hbytes htext hdata =>
    Loading.grammar_of_root names hbytes htext hdata (htop ▸ hread)⟩

theorem exported_tree_is_read_back_sample :
    ∃ spot target data, asked? {} ["--json", "tree"] = some (⟨.json, none, none, none⟩, .tree [] 2) ∧
      served? ⟨.json, none, none, none⟩ {} = some Sample.commands ∧
      Sample.grammar.find [] = .ok (some spot) ∧ spot.resolve = .ok target ∧
      Report.Prints (run {} ["--json", "tree"] []).world.output
        (.table [("status", .text "success"), ("data", data)]) ∧
      Node.ofValue data = .ok target.node := by
  let c : Choices := ⟨.json, none, none, none⟩
  have asked : asked? {} ["--json", "tree"] = some (c, .tree [] 2) := by decide
  have served : served? c {} = some Sample.commands := rfl
  have hreaches : reaches Sample.grammar [] (fun node => !node.hasDouble && !node.hasHalfName &&
      node.depth ≤ Node.maxDepth) := by decide
  obtain ⟨spot, target, found, resolved, test⟩ := exists_of_reaches hreaches
  simp only [Bool.and_eq_true, Bool.not_eq_true', decide_eq_true_eq] at test
  obtain ⟨⟨exact, whole⟩, fits⟩ := test
  obtain ⟨-, -, data, prints, hread, -⟩ :=
    exported_tree_is_read_back asked rfl served found resolved exact whole fits []
  exact ⟨spot, target, data, asked, served, found, resolved, prints, hread⟩

-- A run that finds a node without floating-point numbers and writes no document from which the
-- node is read back.
def LosesTree (s : Store) (words : List Text) (p : Node → Prop) : Prop :=
  ∃ (c : Choices) (path : Path) (depth : Nat) (set : CommandSet) (spot target : set.grammar.Spot),
    asked? s words = some (c, .tree path depth) ∧ c.mode = .json ∧ served? c s = some set ∧
      set.grammar.find path = .ok (some spot) ∧ spot.resolve = .ok target ∧
      target.node.hasDouble = false ∧ p target.node ∧
      ¬∃ data, Report.Prints (run s words []).world.output
        (.table [("status", .text "success"), ("data", data)]) ∧ Node.ofValue data = .ok target.node

-- A working directory with a file.
def storeWith (bytes : ByteArray) : Store where
  entries := [(["g.json"], .file bytes)]

-- The same after the settings were looked for.
def lookedInto (bytes : ByteArray) : Store where
  entries := [(["/", "root", ".config", "mccomplete"], .folder), (["/", "root", ".config"], .folder),
    (["g.json"], .file bytes)]

theorem load_storeWith (bytes : ByteArray) :
    Settings.load (storeWith bytes) = (.ok Settings.defaults, lookedInto bytes) := by
  cbv

theorem served?_of_loaded {s' : Store} {name : Text} {g : Grammar} {level : Level}
    (hlevel : c.level = some level) (hcommands : c.commands = some name)
    (hregistries : c.registries = none) (hsettings : Settings.load s = (.ok Settings.defaults, s'))
    (hloaded : Loading.grammar s' name = .ok g) : served? c s = some ⟨g, Sample.registries⟩ := by
  have hsection : sectionOf Settings.defaults "data" =
      (pure [("commands_path", .text ""), ("registries_path", .text "")] : Action (Dict Value)) :=
    rfl
  have hrun : (logLevel c).run { store := s } = .ok level { store := s } := by
    rw [logLevel, hlevel]
    rfl
  have hyields : Yields (commandSet c) { store := s, level }
      (fun set _ => set = ⟨g, Sample.registries⟩) fun _ _ => False := by
    rw [commandSet, yields_bind, yields_onSettings, hsettings]
    simp only [yields_bind, dataPath, hcommands, hregistries, yields_pure, hsection]
    simp only [loadGrammar, yields_bind, yields_get, hloaded, onLoad, yields_pure, yields_log]
    exact rfl
  obtain ⟨set, w', hset, rfl⟩ := exists_run_of_yields hyields
  rw [served?, hrun]
  simp only [hset]

-- A text that is read as a grammar in which a node is found.
def holdsNode (text : List Char) (path : Path) (test : Node → Bool) : Bool :=
  match Json.read text with
  | .ok data =>
    match Grammar.build data with
    | .ok g => reaches g path test
    | .error _ => false
  | .error _ => false

theorem exists_served_of_holdsNode {text : List Char} {test : Node → Bool} {level : Level}
    (plain : '\r' ∉ text) (h : holdsNode text path test) (hlevel : c.level = some level)
    (hcommands : c.commands = some ("g.json" : Text)) (hregistries : c.registries = none) :
    ∃ (set : CommandSet) (spot target : set.grammar.Spot),
      served? c (storeWith (String.ofList text).toUTF8) = some set ∧
        set.grammar.find path = .ok (some spot) ∧ spot.resolve = .ok target ∧
        test target.node = true := by
  unfold holdsNode at h
  split at h
  · next data hdata =>
    split at h
    · next g hg =>
      obtain ⟨spot, target, found, resolved, htest⟩ := exists_of_reaches h
      have hloaded : Loading.grammar (lookedInto (String.ofList text).toUTF8) "g.json" = .ok g := by
        have names : Loading.Names (lookedInto (String.ofList text).toUTF8) "g.json"
            ⟨"", ["g.json"]⟩ := ⟨rfl, rfl, rfl⟩
        refine Loading.grammar_of_root names rfl
          (String.fromUTF8?_toUTF8 _) ?_ (Grammar.root_of_build hg)
        rw [String.toList_ofList, Text.unifyLineEnds_of_notMem plain, hdata]
      exact ⟨_, spot, target, served?_of_loaded hlevel hcommands hregistries (load_storeWith _) hloaded,
        found, resolved, htest⟩
    · cases h
  · cases h

-- A grammar with a command whose name is half of a character.
def halfNamed : List Char :=
  "\x7b\"type\": \"root\", \"children\": \x7b\"\\ud800\": \x7b\"type\": \"literal\"\x7d\x7d\x7d".toList

-- A grammar with a property in which 255 lists stand one inside the other.
def deepProperty : List Char :=
  "\x7b\"type\": \"root\", \"children\": \x7b\"a\": \x7b\"type\": \"literal\", ".toList ++
    "\"properties\": \x7b\"p\": ".toList ++ List.replicate 255 '[' ++ List.replicate 255 ']' ++
    "\x7d\x7d\x7d\x7d".toList

theorem exists_tree_not_read_back :
    LosesTree (storeWith (String.ofList halfNamed).toUTF8)
        ["--json", "--log-level", "error", "--commands", "g.json", "tree"]
        (fun node => node.depth ≤ Node.maxDepth) ∧
      LosesTree (storeWith (String.ofList deepProperty).toUTF8)
        ["--json", "--log-level", "error", "--commands", "g.json", "tree", "a"]
        fun node => node.hasHalfName = false := by
  let c : Choices := ⟨.json, some "g.json", none, some .error⟩
  constructor
  · have asked : asked? (storeWith (String.ofList halfNamed).toUTF8)
        ["--json", "--log-level", "error", "--commands", "g.json", "tree"] =
        some (c, .tree [] 2) := by decide
    have holds : holdsNode halfNamed [] (fun node => !node.hasDouble && node.depth ≤ Node.maxDepth &&
        match Node.ofValue node.toValue.echo with
        | .ok read => Dict.keys read.children ≠ Dict.keys node.children
        | .error _ => true) := by
      decide +kernel
    obtain ⟨set, spot, target, served, found, resolved, test⟩ :=
      exists_served_of_holdsNode (c := c) (by decide) holds rfl rfl rfl
    simp only [Bool.and_eq_true, Bool.not_eq_true', decide_eq_true_eq] at test
    obtain ⟨⟨exact, fits⟩, changed⟩ := test
    refine ⟨c, [], 2, set, spot, target, asked, rfl, served, found, resolved, exact, fits, ?_⟩
    rintro ⟨data, prints, hread⟩
    obtain ⟨-, -, sent⟩ := run_prints_tree asked rfl served found resolved fits []
    cases prints.unique sent
    rw [hread] at changed
    exact absurd rfl (of_decide_eq_true changed)
  · have asked : asked? (storeWith (String.ofList deepProperty).toUTF8)
        ["--json", "--log-level", "error", "--commands", "g.json", "tree", "a"] =
        some (c, .tree ["a"] 2) := by decide
    have holds : holdsNode deepProperty ["a"] (fun node => !node.hasDouble && !node.hasHalfName &&
        Node.maxDepth < node.depth) := by
      decide +kernel
    obtain ⟨set, spot, target, served, found, resolved, test⟩ :=
      exists_served_of_holdsNode (c := c) (by decide +kernel) holds rfl rfl rfl
    simp only [Bool.and_eq_true, Bool.not_eq_true', decide_eq_true_eq] at test
    obtain ⟨⟨exact, whole⟩, deep⟩ := test
    refine ⟨c, ["a"], 2, set, spot, target, asked, rfl, served, found, resolved, exact, whole, ?_⟩
    rintro ⟨data, prints, -⟩
    rw [run_sends_nothing asked rfl served found resolved deep []] at prints
    exact Report.not_prints_nil prints

end Program

end CommandCompletion
