import CommandCompletion.Proofs.Grammar.Chain
import CommandCompletion.Proofs.Line.Writing

namespace CommandCompletion

open Text (IsWord Flush Settled spaced)

-- Every identifier is a word.
def Registries.Plain (r : Registries) : Prop :=
  ∀ entry ∈ r.entries, ∀ identifier ∈ entry.2, IsWord identifier

instance (r : Registries) : Decidable r.Plain :=
  inferInstanceAs (Decidable (∀ entry ∈ r.entries, ∀ identifier ∈ entry.2, _))

theorem Sample.registries_plain : registries.Plain := by
  decide +kernel

theorem Registries.Plain.isWord_of_mem_get {r : Registries} (plain : r.Plain)
    {name identifier : Text} (h : identifier ∈ r.get name) : IsWord identifier := by
  unfold Registries.get at h
  cases he : r.entries.get? name with
  | none => simp [he] at h
  | some identifiers =>
    rw [he, Option.getD_some] at h
    exact plain _ (Dict.mem_of_get? he) identifier h

namespace Phrase

-- Words with a space behind each of them.
def ofWords (words : List Text) : Phrase :=
  words.map (⟨·, " "⟩)

theorem words_ofWords (words : List Text) : (ofWords words).words = words := by
  rw [ofWords, Phrase.words, List.map_map]
  exact List.map_id words

theorem text_ofWords {words : List Text} (hne : words ≠ []) :
    (ofWords words).text = spaced words ++ " " := by
  induction words with
  | nil => exact absurd rfl hne
  | cons word others ih =>
    cases others with
    | nil => simp [ofWords, Text.spaced_singleton]
    | cons next others =>
      have hrest := ih (by simp)
      simp only [ofWords, List.map_cons, text_cons] at hrest ⊢
      rw [hrest, Text.spaced_cons_cons, List.append_assoc, List.append_assoc]

theorem full_ofWords {words : List Text} (h : ∀ word ∈ words, IsWord word) :
    ∀ portion ∈ ofWords words, portion.Full := by
  intro portion hp
  obtain ⟨word, hw, rfl⟩ := List.mem_map.mp hp
  exact ⟨h word hw, Text.isGap_space, Text.space_ne_nil⟩

end Phrase

-- What is proposed for an argument has as many words as the argument is wide.
theorem Argument.exists_words {r : Registries} (plain : r.Plain) {a : Argument} {c : Candidate}
    (h : c ∈ a.candidates r) :
    c.kind ≠ .keyword ∧ ∃ words : List Text, words.length = a.width ∧
      (∀ word ∈ words, IsWord word) ∧ c.label = spaced words := by
  have ofRegistry {name : Text} (h : c ∈ identifiers (r.get name)) :
      c.kind ≠ .keyword ∧ ∃ words : List Text, words.length = 1 ∧
        (∀ word ∈ words, IsWord word) ∧ c.label = spaced words := by
    obtain ⟨identifier, hi, rfl⟩ := List.mem_map.mp h
    refine ⟨by rintro ⟨⟩, [identifier], rfl, ?_, (Text.spaced_singleton identifier).symm⟩
    simpa using plain.isWord_of_mem_get hi
  have ofSign {sign : Text} {count : Nat} (hs : IsWord sign) :
      ∀ word ∈ List.replicate count sign, IsWord word := by
    intro word hw
    rwa [List.eq_of_mem_replicate hw]
  have tilde : IsWord "~" := by decide
  have caret : IsWord "^" := by decide
  cases a with
  | entity =>
    have hwords : ∀ selector ∈ selectors, IsWord selector.1 := by decide
    obtain ⟨⟨label, documentation⟩, hs, rfl⟩ := List.mem_map.mp h
    refine ⟨by rintro ⟨⟩, [label], rfl, ?_, (Text.spaced_singleton label).symm⟩
    simpa using hwords _ hs
  | blockPos | vec3 =>
    simp only [candidates, List.mem_cons, List.not_mem_nil, or_false] at h
    rcases h with rfl | rfl
    · exact ⟨by rintro ⟨⟩, List.replicate 3 "~", rfl, ofSign tilde, rfl⟩
    · exact ⟨by rintro ⟨⟩, List.replicate 3 "^", rfl, ofSign caret, rfl⟩
  | rotation =>
    simp only [candidates, List.mem_cons, List.not_mem_nil, or_false] at h
    subst h
    exact ⟨by rintro ⟨⟩, List.replicate 2 "~", rfl, ofSign tilde, rfl⟩
  | itemStack | blockState | blockPredicate => exact ofRegistry h
  | other => cases h

-- A candidate with a space behind it is a phrase for the child that offers it.
theorem Node.exists_phrase_of_offers {r : Registries} (plain : r.Plain) {node : Node}
    {name : Text} {c : Candidate} (h : c ∈ node.offers name r) :
    ∃ phrase : Phrase, phrase.text = c.label ++ " " ∧
      ((c.kind = .keyword ∧ name = c.label ∧ node.kind = .literal ∧
          node.Spelled name phrase none) ∨
        (c.kind ≠ .keyword ∧ node.kind = .argument ∧
          node.Spelled name phrase (some c.label) ∧
            (Text.words c.label).head? = phrase.head?.map (·.word))) := by
  unfold Node.offers at h
  split at h
  · cases h
  · next kind =>
    obtain rfl := List.mem_singleton.mp h
    exact ⟨[⟨name, " "⟩], by simp, .inl ⟨rfl, rfl, kind, .literal kind Text.isGap_space⟩⟩
  · next kind =>
    obtain ⟨hkind, words, count, hwords, hlabel⟩ := Argument.exists_words plain h
    have hne : words ≠ [] := List.length_pos_iff.mp (count ▸ width_pos node.argument)
    have full := Phrase.full_ofWords hwords
    have spelled : node.Spelled name (Phrase.ofWords words) (some c.label) := by
      have hlen : (Phrase.ofWords words).length = node.argument.width := by
        rw [Phrase.ofWords, List.length_map, count]
      have whole : node.Spelled name (Phrase.ofWords words)
          (some (spaced (Phrase.ofWords words).words)) := .argument kind hlen full
      rwa [Phrase.words_ofWords, ← hlabel] at whole
    refine ⟨Phrase.ofWords words, ?_, .inr ⟨hkind, kind, spelled, ?_⟩⟩
    · rw [hlabel, Phrase.text_ofWords hne]
    · rw [hlabel, Text.words_spaced hwords]
      cases words with
      | nil => exact absurd rfl hne
      | cons word others => rfl

namespace Grammar

variable {g : Grammar}

-- Each suggestion is offered by a child that counts for the tip.
theorem exists_offer_of_suggest {r : Registries} {tip : g.Spot} {typed : Text}
    {candidates : List Candidate} {c : Candidate} {children : List (Text × g.Spot)}
    (h : g.suggest r tip typed = .ok candidates) (hmem : c ∈ candidates)
    (hc : g.childrenOf tip = .ok children) :
    ∃ name child offer, (name, child) ∈ children ∧ offer ∈ child.node.offers name r ∧
      c.label = offer.label ∧ c.kind = offer.kind := by
  rw [suggest, hc] at h
  cases h
  obtain ⟨offer, ho, rfl⟩ := List.mem_map.mp hmem
  obtain ⟨⟨name, child⟩, hchild, hoffer⟩ := List.mem_flatMap.mp (List.mem_filter.mp ho).1
  exact ⟨name, child, offer, hchild, hoffer, rfl, rfl⟩

theorem trimStart_flush_append {line consumed remainder other : Text}
    (h : Text.trimStart line = consumed ++ remainder) (ho : Flush other) :
    Text.trimStart (consumed ++ other) = consumed ++ other :=
  Text.trimStart_of_flush ((h ▸ Text.flush_trimStart line).of_append ho)

-- A phrase for a child of the tip, written behind all that was consumed, is one step more: the walk
-- goes to the tip as before, and there it takes the child.
theorem parse_of_phrase (s : CommandSet) (plain : s.grammar.PlainNames)
    (last : s.grammar.ArgumentLast) {line consumed : Text} {parse : Parse s.grammar}
    (parsed : s.parse line = .ok parse)
    (whole : Text.trimStart line = consumed ++ parse.remainder) (settled : Settled consumed)
    {children ending : List (Text × s.grammar.Spot)}
    (hc : s.grammar.childrenOf parse.tip = .ok children) {name : Text} {child : s.grammar.Spot}
    (hchild : (name, child) ∈ children) (hending : s.grammar.childrenOf child = .ok ending)
    {phrase : Phrase} {bound : Option Text} (spelled : child.node.Spelled name phrase bound)
    (fresh : child.node.kind = .argument → phrase.Fresh children) :
    s.parse (consumed ++ phrase.text) =
      .ok ⟨child, [], Walk.bind parse.bindings ⟨name, child, bound, phrase.text⟩,
        parse.path ++ [name]⟩ := by
  obtain ⟨steps, course, -, hbindings, hpath⟩ := parseFrom_eq_ok_iff.mp parsed
  have hconsumed : consumed = steps.flatMap (·.taken) :=
    List.append_cancel_right (whole.symm.trans course.whole)
  have hopen : ¬phrase.Closed → ([] : Text) = [] := fun _ => rfl
  let step : Step s.grammar := ⟨name, child, bound, phrase.text⟩
  have turn := Turn.of_spelled plain last hc hchild spelled fresh Text.flush_nil hopen
  have flush := spelled.flush_append (plain.isWord hc hchild) hopen
  rw [List.append_nil] at turn flush
  have again := (course.replay plain last (hconsumed ▸ settled) flush).append (.single turn)
  have hbound : Dict.ofList ((steps ++ [step]).filterMap Step.binding?) =
      Walk.bind parse.bindings step := by
    rw [hbindings, Dict.ofList, Dict.ofList, ← Walk.foldl_bind, ← Walk.foldl_bind,
      List.foldl_append]
    rfl
  rw [CommandSet.parse, trimStart_flush_append whole flush, hconsumed, Grammar.parse,
    parseFrom_of_stops again (stops_nil hending), hbound, hpath, List.map_append]
  rfl

-- An accepted candidate is consumed by the child that offered it: the keyword by the literal of
-- that name, any other candidate by the argument, which is bound to all of it.
theorem parse_of_accept (s : CommandSet) (plain : s.grammar.PlainNames)
    (last : s.grammar.ArgumentLast) (acyclic : s.grammar.Acyclic)
    (identifiers : s.registries.Plain) {line consumed : Text} {parse : Parse s.grammar}
    (parsed : s.parse line = .ok parse)
    (whole : Text.trimStart line = consumed ++ parse.remainder) (settled : Settled consumed)
    {candidates : List Candidate} (suggested : s.suggest parse = .ok candidates) {c : Candidate}
    (hmem : c ∈ candidates) {children : List (Text × s.grammar.Spot)}
    (hc : s.grammar.childrenOf parse.tip = .ok children)
    (free : c.kind = .keyword ∨ ∀ pair ∈ children, pair.2.node.kind = .literal →
      (Text.words c.label).head? ≠ some pair.1) :
    ∃ name child bindings, (name, child) ∈ children ∧
      s.parse (consumed ++ (c.label ++ " ")) = .ok ⟨child, [], bindings, parse.path ++ [name]⟩ ∧
      (c.kind = .keyword → name = c.label ∧ bindings = parse.bindings) ∧
      (c.kind ≠ .keyword → child.node.kind = .argument ∧
        (∀ pair ∈ children, pair.2.node.kind = .argument → pair = (name, child)) ∧
        bindings = parse.bindings.insert name c.label) := by
  obtain ⟨name, child, offer, hchild, hoffer, hlabel, hkind⟩ :=
    exists_offer_of_suggest suggested hmem hc
  obtain ⟨phrase, htext, hspelled⟩ := Node.exists_phrase_of_offers identifiers hoffer
  rw [← hlabel] at htext hspelled
  rw [← hkind] at hspelled
  obtain ⟨ending, hending⟩ := acyclic.exists_childrenOf child
  rcases hspelled with ⟨hkey, hname, kind, spelled⟩ | ⟨hkey, kind, spelled, hhead⟩
  · have fresh : child.node.kind = .argument → phrase.Fresh children := by simp [kind]
    have accepted :=
      parse_of_phrase s plain last parsed whole settled hc hchild hending spelled fresh
    rw [htext] at accepted
    exact ⟨name, child, parse.bindings, hchild, accepted, fun _ => ⟨hname, rfl⟩,
      fun hne => absurd hkey hne⟩
  · have fresh : phrase.Fresh children := by
      intro pair hp hliteral portion hportion heq
      apply free.resolve_left hkey pair hp hliteral
      rw [hhead, hportion, Option.map_some, heq]
    have accepted :=
      parse_of_phrase s plain last parsed whole settled hc hchild hending spelled fun _ => fresh
    rw [htext] at accepted
    refine ⟨name, child, _, hchild, accepted, fun hk => absurd hk hkey, ?_⟩
    intro _
    refine ⟨kind, ?_, rfl⟩
    intro pair hp hk
    exact last.unique hc hp hchild hk kind

-- The proposal of three words behind a redirect to the root.
theorem parse_of_accept_sample :
    let s : CommandSet := ⟨Sample.orderly, Sample.registries⟩
    let tip := s.grammar.spotAt ["setblock"] (by decide +kernel)
    let parse : Parse s.grammar := ⟨tip, "~", [], ["execute", "run", "setblock"]⟩
    let c : Candidate :=
      ⟨"~ ~ ~", .literalValue, some "relative to the executing position", [" "]⟩
    s.parse (" execute run  setblock ~" : Text) = .ok parse ∧ s.suggest parse = .ok [c] ∧
      ∃ name child, (name, child) ∈ s.grammar.ownChildren tip ∧
        child.node.kind = .argument ∧
        s.parse ("execute run  setblock " ++ (c.label ++ " ")) =
          .ok ⟨child, [], [(name, c.label)], ["execute", "run", "setblock", name]⟩ := by
  intro s tip parse c
  have plain : s.grammar.PlainNames := by decide +kernel
  have last : s.grammar.ArgumentLast := by decide +kernel
  have finite : ∀ entry ∈ s.grammar.root.walk [], (s.grammar.root.hop? 2 entry.2).isNone := by
    decide +kernel
  have identifiers : s.registries.Plain := by decide +kernel
  have parsed : s.parse (" execute run  setblock ~" : Text) = .ok parse := by decide +kernel
  have suggested : s.suggest parse = .ok [c] := by decide +kernel
  have hc : s.grammar.childrenOf tip = .ok (s.grammar.ownChildren tip) := by decide +kernel
  have free : ∀ pair ∈ s.grammar.ownChildren tip, pair.2.node.kind = .literal →
      (Text.words c.label).head? ≠ some pair.1 := by
    decide +kernel
  have settled : Settled ("execute run  setblock " : Text) := by decide
  obtain ⟨name, child, bindings, hchild, hparse, -, hbound⟩ :=
    parse_of_accept s plain last (acyclic_of_hop?_isNone finite) identifiers parsed rfl settled
      suggested List.mem_cons_self hc (.inr free)
  obtain ⟨kind, -, rfl⟩ := hbound (by decide)
  exact ⟨parsed, suggested, name, child, hchild, kind, hparse⟩

end Grammar

end CommandCompletion
