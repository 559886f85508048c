import CommandCompletion.Proofs.Grammar.Export
import CommandCompletion.Proofs.Line.Course
import CommandCompletion.Report.Line
import CommandCompletion.Sample

namespace CommandCompletion

namespace Text

variable {text part : Text}

theorem IsJoined.infix (h : text.IsJoined) (hpart : part <:+: text) : part.IsJoined :=
  List.IsChain.infix h hpart

theorem isJoined_singleton (c : CodePoint) : IsJoined [c] :=
  .singleton c

theorem isPair_space (c : CodePoint) :
    CodePoint.isPair c (.char ' ') = false ∧ CodePoint.isPair (.char ' ') c = false := by
  have hhigh : CodePoint.isHigh (CodePoint.char ' ').toNat = false := by decide
  have hlow : CodePoint.isLow (CodePoint.char ' ').toNat = false := by decide
  exact ⟨by rw [CodePoint.isPair, hlow, Bool.and_false],
    by rw [CodePoint.isPair, hhigh, Bool.false_and]⟩

-- Spaces stand in no pair.
theorem isJoined_spaced {ws : List Text} (h : ∀ w ∈ ws, w.IsJoined) : (spaced ws).IsJoined := by
  induction ws with
  | nil => exact .nil
  | cons word others ih =>
    obtain ⟨hword, hothers⟩ := List.forall_mem_cons.mp h
    cases others with
    | nil => rwa [spaced_singleton]
    | cons next others =>
      rw [spaced_cons_cons]
      refine List.isChain_append.mpr ⟨hword, List.isChain_cons.mpr ⟨?_, ih hothers⟩, ?_⟩
      · exact fun c _ => (isPair_space c).2
      · rintro c - _ ⟨⟩
        exact (isPair_space c).1

end Text

namespace Registries

-- Registries as they are read from a document.
def IsDecoded (r : Registries) : Prop :=
  ∀ entry ∈ r.entries, ∀ identifier ∈ entry.2, identifier.IsJoined

theorem eq_map_of_mapM_textOf? {items : List Value} {texts : List Text}
    (h : items.mapM textOf? = some texts) : items = texts.map .text := by
  induction items generalizing texts with
  | nil =>
    cases h
    rfl
  | cons item items ih =>
    rw [List.mapM_cons] at h
    obtain ⟨text, htext, h⟩ := Option.bind_eq_some_iff.mp h
    obtain ⟨others, hothers, h⟩ := Option.bind_eq_some_iff.mp h
    cases h
    cases item with
    | text s =>
      cases htext
      rw [ih hothers, List.map_cons]
    | _ => cases htext

theorem isJoined_of_textsOf {name : Text} {items : List Value} {texts : List Text}
    (decoded : ∀ item ∈ items, item.IsDecoded) (h : textsOf name items = .ok texts) :
    ∀ text ∈ texts, text.IsJoined := by
  unfold textsOf at h
  split at h
  · next found hfound =>
    cases h
    rw [eq_map_of_mapM_textOf? hfound] at decoded
    exact fun text htext => Value.IsDecoded.text_iff.mp (List.forall_mem_map.mp decoded text htext)
  · cases h

theorem isJoined_of_identifiersOf {name : Text} {value : Value} {identifiers : List Text}
    (decoded : value.IsDecoded) (h : identifiersOf name value = .ok identifiers) :
    ∀ identifier ∈ identifiers, identifier.IsJoined := by
  cases decoded with
  | list items_decoded => exact isJoined_of_textsOf items_decoded h
  | table _ _ members_decoded =>
    rw [identifiersOf] at h
    split at h
    · cases h
      exact nofun
    · next hentries =>
      cases h
      obtain ⟨-, joined, -⟩ := Value.IsDecoded.table_iff.mp
        (members_decoded _ (Dict.mem_of_get? hentries))
      exact List.forall_mem_map.mpr joined
    · next hentries =>
      exact isJoined_of_textsOf
        (Value.IsDecoded.list_iff.mp (members_decoded _ (Dict.mem_of_get? hentries))) h
    · cases h
      exact List.forall_mem_map.mpr fun c _ => Text.isJoined_singleton c
    · cases h
  | _ => cases h

theorem isDecoded_of_entriesOf {pairs : List (Text × Value)} {entries : List (Text × List Text)}
    (decoded : ∀ pair ∈ pairs, pair.2.IsDecoded) (h : entriesOf pairs = .ok entries) :
    ∀ entry ∈ entries, ∀ identifier ∈ entry.2, identifier.IsJoined := by
  induction pairs generalizing entries with
  | nil =>
    cases h
    exact nofun
  | cons pair pairs ih =>
    obtain ⟨hpair, hpairs⟩ := List.forall_mem_cons.mp decoded
    rw [entriesOf] at h
    split at h
    · cases h
    · next identifiers hidentifiers =>
      obtain ⟨others, hothers, rfl⟩ := map_eq_ok_iff.mp h
      exact List.forall_mem_cons.mpr
        ⟨isJoined_of_identifiersOf hpair hidentifiers, ih hpairs hothers⟩

theorem isDecoded_of_ofValue {data : Value} {r : Registries} (decoded : data.IsDecoded)
    (h : ofValue data = .ok r) : r.IsDecoded := by
  cases decoded with
  | table _ _ members_decoded =>
    obtain ⟨entries, hentries, rfl⟩ := map_eq_ok_iff.mp h
    exact fun entry hentry =>
      isDecoded_of_entriesOf members_decoded hentries entry (Dict.mem_of_mem_ofList hentry)
  | _ => cases h

theorem IsDecoded.get {r : Registries} (decoded : r.IsDecoded) (name : Text) :
    ∀ identifier ∈ r.get name, identifier.IsJoined := by
  unfold Registries.get
  cases hentry : r.entries.get? name with
  | none => exact nofun
  | some identifiers => exact decoded _ (Dict.mem_of_get? hentry)

theorem isDecoded_sample : Sample.registries.IsDecoded := by
  simp [IsDecoded, Sample.registries, Text.isJoined_ofString]

end Registries

namespace Candidate

-- A candidate whose texts come back from a document as they are.
structure IsDecoded (c : Candidate) : Prop where
  label : c.label.IsJoined
  documentation : ∀ text ∈ c.documentation, text.IsJoined
  commitCharacters : ∀ text ∈ c.commitCharacters, text.IsJoined

variable {c : Candidate}

theorem IsDecoded.toValue (decoded : c.IsDecoded) : c.toValue.IsDecoded := by
  have distinct : (["label", "kind", "documentation", "commit_characters"] : List Text).Nodup := by
    decide
  refine .table distinct ?_ ?_
  · simp [Text.isJoined_ofString]
  · simp only [List.forall_mem_cons]
    refine ⟨.text decoded.label, .text (Text.isJoined_ofString _), ?_,
      .list (List.forall_mem_map.mpr fun text htext => .text (decoded.commitCharacters text htext)),
      List.forall_mem_nil _⟩
    cases hdocumentation : c.documentation with
    | none => exact .null
    | some s => exact .text (decoded.documentation s hdocumentation)

theorem hasDouble_toValue (c : Candidate) : c.toValue.hasDouble = false := by
  have items : Value.anyDouble (c.commitCharacters.map .text) = false :=
    Value.anyDouble_eq_false_iff.mpr (List.forall_mem_map.mpr fun _ _ => rfl)
  cases hdocumentation : c.documentation <;>
    simp [toValue, hdocumentation, Value.hasDouble, Value.memberDouble, items]

theorem depth_toValue_le (c : Candidate) : c.toValue.depth ≤ 3 := by
  have items : Value.depthOfItems (c.commitCharacters.map .text) ≤ 1 :=
    Value.depthOfItems_le_iff.mpr (List.forall_mem_map.mpr fun _ _ => Nat.le_refl 1)
  cases hdocumentation : c.documentation <;>
    simp only [toValue, hdocumentation, Value.depth, Value.depthOfMembers] <;> omega

end Candidate

namespace Argument

theorem isDecoded_identifiers {names : List Text} (joined : ∀ name ∈ names, name.IsJoined) :
    ∀ c ∈ identifiers names, c.IsDecoded :=
  List.forall_mem_map.mpr fun name hname => ⟨joined name hname, nofun, nofun⟩

theorem isDecoded_candidates {r : Registries} (decoded : r.IsDecoded) (a : Argument) :
    ∀ c ∈ a.candidates r, c.IsDecoded := by
  have repeated (sign : String) (a : Argument) : (Argument.repeated sign a).IsJoined :=
    Text.isJoined_spaced fun w hw => List.eq_of_mem_replicate hw ▸ Text.isJoined_ofString sign
  have relative (documentation : String) (a : Argument) :
      (Argument.relative documentation a).IsDecoded :=
    ⟨repeated "~" a, by rintro _ ⟨⟩; exact Text.isJoined_ofString _, nofun⟩
  have offset (a : Argument) : (Argument.localOffset a).IsDecoded :=
    ⟨repeated "^" a, by rintro _ ⟨⟩; exact Text.isJoined_ofString _, nofun⟩
  cases a with
  | entity =>
    refine List.forall_mem_map.mpr fun pair hpair => ?_
    have selectors : ∀ pair ∈ Argument.selectors, pair.1.IsJoined ∧ pair.2.IsJoined := by
      simp [Argument.selectors, Text.isJoined_ofString]
    refine ⟨(selectors pair hpair).1, ?_, nofun⟩
    rintro _ ⟨⟩
    exact (selectors pair hpair).2
  | blockPos | vec3 =>
    exact List.forall_mem_cons.mpr
      ⟨relative _ _, List.forall_mem_singleton.mpr (offset _)⟩
  | rotation => exact List.forall_mem_singleton.mpr (relative _ _)
  | itemStack => exact isDecoded_identifiers (decoded.get "item")
  | blockState => exact isDecoded_identifiers (decoded.get "block")
  | blockPredicate => exact isDecoded_identifiers (decoded.get "block")
  | other => exact nofun

end Argument

-- Commands as they are read from documents.
structure CommandSet.IsDecoded (s : CommandSet) : Prop where
  grammar : s.grammar.root.IsDecoded
  registries : s.registries.IsDecoded

namespace Grammar

variable {g : Grammar}

theorem isJoined_of_childrenOf (decoded : g.root.IsDecoded) {spot : g.Spot}
    {children : List (Text × g.Spot)} (h : g.childrenOf spot = .ok children) :
    ∀ child ∈ children, child.1.IsJoined := by
  intro child hchild
  obtain ⟨place, hown⟩ := exists_mem_children h hchild
  cases decoded.lookup place.located with
  | mk _ joined => exact joined _ hown

-- The names and the bound texts of a course are parts of the grammar and of the line.
theorem Course.isJoined (decoded : g.root.IsDecoded) {start tip : g.Spot} {line left : Text}
    {steps : List (Step g)} (course : g.Course start line steps tip left)
    (joined : line.IsJoined) : left.IsJoined ∧
      ∀ step ∈ steps, step.name.IsJoined ∧ ∀ text ∈ step.bound, text.IsJoined := by
  induction course with
  | nil => exact ⟨joined, nofun⟩
  | @cons spot tip line rest left step steps turn others ih =>
    have hrest : rest.IsJoined := joined.infix (turn.whole ▸ (List.suffix_append _ _).isInfix)
    obtain ⟨hleft, hsteps⟩ := ih hrest
    obtain ⟨children, hchildren, hmem⟩ := turn.mem_childrenOf
    obtain ⟨phrase, spelled, htaken, -, -⟩ := turn.spelled
    refine ⟨hleft, List.forall_mem_cons.mpr
      ⟨⟨isJoined_of_childrenOf decoded hchildren _ hmem, ?_⟩, hsteps⟩⟩
    cases hbound : step.bound with
    | none => exact nofun
    | some text =>
      rw [hbound] at spelled
      cases spelled with
      | argument =>
        rintro _ ⟨⟩
        refine Text.isJoined_spaced (List.forall_mem_map.mpr fun portion hportion => ?_)
        have hword : portion.word <:+: phrase.text :=
          (List.prefix_append _ portion.gap).isInfix.trans
            (List.infix_of_mem_flatten (List.mem_map_of_mem hportion))
        have htext : phrase.text <:+: line := by
          rw [turn.whole, htaken]
          exact (List.prefix_append _ _).isInfix
        exact joined.infix (hword.trans htext)

end Grammar

namespace CommandSet

variable {s : CommandSet} {line : Text}

theorem isJoined_trimStart (joined : line.IsJoined) : (Text.trimStart line).IsJoined :=
  joined.infix (List.dropWhile_suffix _).isInfix

theorem IsDecoded.complete (decoded : s.IsDecoded) {cs : List Candidate}
    (h : s.complete line = .ok cs) : ∀ c ∈ cs, c.IsDecoded := by
  obtain ⟨parse, -, hsuggest⟩ := bind_eq_ok_iff.mp h
  obtain ⟨children, hchildren, rfl⟩ := map_eq_ok_iff.mp hsuggest
  refine List.forall_mem_map.mpr fun c hc => ?_
  obtain ⟨⟨name, child⟩, hchild, hoffers⟩ := List.mem_flatMap.mp (List.mem_filter.mp hc).1
  have offered : c.IsDecoded := by
    have hname : name.IsJoined :=
      Grammar.isJoined_of_childrenOf decoded.grammar hchildren _ hchild
    dsimp only [Node.offers] at hoffers
    split at hoffers
    · exact absurd hoffers List.not_mem_nil
    · obtain rfl := List.mem_singleton.mp hoffers
      exact ⟨hname, nofun, nofun⟩
    · exact Argument.isDecoded_candidates decoded.registries _ c hoffers
  refine ⟨offered.label, offered.documentation, List.forall_mem_append.mpr
    ⟨offered.commitCharacters, fun text htext => ?_⟩⟩
  obtain rfl := List.mem_singleton.mp (List.mem_filter.mp htext).1
  exact Text.isJoined_ofString _

end CommandSet

namespace Parse

variable {g : Grammar}

-- What a joined line is parsed to comes back from a document as it is.
theorem isDecoded_toValue (decoded : g.root.IsDecoded) {start : g.Spot} {line text : Text}
    (joined : line.IsJoined) (hline : text.IsJoined) {parse : Parse g}
    (h : g.parseFrom start text = .ok parse) : (parse.toValue line).IsDecoded := by
  obtain ⟨steps, course, -, hbindings, hpath⟩ := Grammar.parseFrom_eq_ok_iff.mp h
  obtain ⟨hremainder, hsteps⟩ := course.isJoined decoded hline
  have distinct : (["line", "path", "tip", "executable", "remainder", "properties"] :
      List Text).Nodup := by
    decide
  have bound : ∀ pair ∈ parse.bindings, pair.1.IsJoined ∧ pair.2.IsJoined := by
    intro pair hpair
    rw [hbindings] at hpair
    obtain ⟨step, hstep, hbinding⟩ := List.mem_filterMap.mp (Dict.mem_of_mem_ofList hpair)
    obtain ⟨text, htext, rfl⟩ := Option.map_eq_some_iff.mp hbinding
    exact ⟨(hsteps step hstep).1, (hsteps step hstep).2 text htext⟩
  refine .table distinct ?_ ?_
  · simp [Text.isJoined_ofString]
  · simp only [List.forall_mem_cons]
    refine ⟨.text joined, .list (List.forall_mem_map.mpr ?_), .text (Text.isJoined_ofString _),
      .bool _, .text hremainder, .table ?_ ?_ ?_, nofun⟩
    · rw [hpath]
      exact List.forall_mem_map.mpr fun step hstep => .text (hsteps step hstep).1
    · rw [Dict.Distinct, Dict.keys_map_snd, hbindings]
      exact Dict.distinct_ofList _
    · exact List.forall_mem_map.mpr fun pair hpair => (bound pair hpair).1
    · exact List.forall_mem_map.mpr fun pair hpair => .text (bound pair hpair).2

theorem hasDouble_toValue (parse : Parse g) (line : Text) :
    (parse.toValue line).hasDouble = false := by
  have path : Value.anyDouble (parse.path.map .text) = false :=
    Value.anyDouble_eq_false_iff.mpr (List.forall_mem_map.mpr fun _ _ => rfl)
  have properties : Value.memberDouble
      (parse.bindings.map fun pair => (pair.1, .text pair.2)) = false :=
    Value.memberDouble_eq_false_iff.mpr (List.forall_mem_map.mpr fun _ _ => rfl)
  simp [toValue, Value.hasDouble, Value.memberDouble, path, properties]

-- No number stands in it.
theorem hasLong_toValue (parse : Parse g) (line : Text) : (parse.toValue line).hasLong = false := by
  have path : Value.anyLong (parse.path.map .text) = false :=
    Value.anyLong_eq_false_iff.mpr (List.forall_mem_map.mpr fun _ _ => rfl)
  have properties : Value.memberLong
      (parse.bindings.map fun pair => (pair.1, .text pair.2)) = false :=
    Value.memberLong_eq_false_iff.mpr (List.forall_mem_map.mpr fun _ _ => rfl)
  simp [toValue, Value.hasLong, Value.memberLong, path, properties]

theorem depth_toValue_le (parse : Parse g) (line : Text) : (parse.toValue line).depth ≤ 3 := by
  have path : Value.depthOfItems (parse.path.map .text) ≤ 1 :=
    Value.depthOfItems_le_iff.mpr (List.forall_mem_map.mpr fun _ _ => Nat.le_refl 1)
  have properties : Value.depthOfMembers
      (parse.bindings.map fun pair => (pair.1, .text pair.2)) ≤ 1 :=
    Value.depthOfMembers_le_iff.mpr (List.forall_mem_map.mpr fun _ _ => Nat.le_refl 1)
  simp only [toValue, Value.depth, Value.depthOfMembers]
  omega

end Parse

end CommandCompletion
