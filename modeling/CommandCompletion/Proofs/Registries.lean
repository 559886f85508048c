import CommandCompletion.Proofs.Data.Dict
import CommandCompletion.Proofs.Data.Result
import CommandCompletion.Registries
import Mathlib.Data.List.Forall2

namespace CommandCompletion.Registries

-- Entries that can be gone through one by one.
def isListed : Value → Bool
  | .table _ | .list _ | .text _ => true
  | _ => false

-- The first registry that is refused is an object whose entries cannot be gone through.
def Unlisted (data : Value) : Prop :=
  ∃ before name members after entries, data = .table (before ++ (name, .table members) :: after) ∧
    (∀ pair ∈ before, ∃ identifiers, identifiersOf pair.1 pair.2 = .ok identifiers) ∧
    Dict.get? members "entries" = some entries ∧ isListed entries = false

theorem textsOf_ne_notListed (name : Text) (items : List Value) :
    textsOf name items ≠ .error .notListed := by
  unfold textsOf
  split <;> exact nofun

theorem identifiersOf_eq_notListed_iff {name : Text} {value : Value} :
    identifiersOf name value = .error .notListed ↔ ∃ members entries, value = .table members ∧
      Dict.get? members "entries" = some entries ∧ isListed entries = false := by
  constructor
  · intro h
    cases value with
    | table members =>
      refine ⟨members, ?_⟩
      rw [identifiersOf] at h
      split at h
      · cases h
      · cases h
      · exact absurd h (textsOf_ne_notListed _ _)
      · cases h
      · next entries noTable noList noText hentries =>
        refine ⟨entries, rfl, hentries, ?_⟩
        cases entries with
        | table entries => exact (noTable entries rfl).elim
        | list items => exact (noList items rfl).elim
        | text s => exact (noText s rfl).elim
        | _ => rfl
    | list items => exact absurd h (textsOf_ne_notListed _ _)
    | _ => cases h
  · rintro ⟨members, entries, rfl, hentries, hlisted⟩
    rw [identifiersOf, hentries]
    cases entries <;> first | rfl | cases hlisted

-- Registries are refused for the first of them that is.
theorem entriesOf_eq_error_iff {pairs : List (Text × Value)} {fault : RegistryFault} :
    entriesOf pairs = .error fault ↔ ∃ before name value after,
      pairs = before ++ (name, value) :: after ∧
        (∀ pair ∈ before, ∃ identifiers, identifiersOf pair.1 pair.2 = .ok identifiers) ∧
        identifiersOf name value = .error fault := by
  induction pairs with
  | nil => simp [entriesOf]
  | cons head rest ih =>
    obtain ⟨name, value⟩ := head
    cases hhead : identifiersOf name value with
    | error found =>
      simp only [entriesOf, hhead, Except.error.injEq]
      constructor
      · rintro rfl
        exact ⟨[], name, value, rest, rfl, nofun, hhead⟩
      · rintro ⟨_ | ⟨first, before⟩, name', value', after, hpairs, hbefore, hfault⟩
        · cases hpairs
          exact Except.error.inj (hhead.symm.trans hfault)
        · cases hpairs
          obtain ⟨identifiers, hfirst⟩ := hbefore _ List.mem_cons_self
          cases hhead.symm.trans hfirst
    | ok identifiers =>
      have skip : entriesOf ((name, value) :: rest) = .error fault ↔
          entriesOf rest = .error fault := by
        rw [entriesOf, hhead]
        cases entriesOf rest <;> simp [Except.map]
      rw [skip, ih]
      constructor
      · rintro ⟨before, name', value', after, rfl, hbefore, hfault⟩
        refine ⟨(name, value) :: before, name', value', after, rfl, ?_, hfault⟩
        exact List.forall_mem_cons.mpr ⟨⟨identifiers, hhead⟩, hbefore⟩
      · rintro ⟨_ | ⟨first, before⟩, name', value', after, hpairs, hbefore, hfault⟩
        · cases hpairs
          cases hhead.symm.trans hfault
        · cases hpairs
          exact ⟨before, name', value', after, rfl, (List.forall_mem_cons.mp hbefore).2, hfault⟩

theorem ofValue_eq_notListed_iff {data : Value} :
    ofValue data = .error .notListed ↔ Unlisted data := by
  constructor
  · intro h
    cases data with
    | table members =>
      have hentries : entriesOf members = .error .notListed := by
        revert h
        rw [ofValue]
        cases entriesOf members <;> simp [Except.map]
      obtain ⟨before, name, value, after, rfl, hbefore, hvalue⟩ :=
        entriesOf_eq_error_iff.mp hentries
      obtain ⟨members, entries, rfl, hfound⟩ := identifiersOf_eq_notListed_iff.mp hvalue
      exact ⟨before, name, members, after, entries, rfl, hbefore, hfound⟩
    | _ => cases h
  · rintro ⟨before, name, members, after, entries, rfl, hbefore, hfound⟩
    rw [ofValue, entriesOf_eq_error_iff.mpr ⟨before, name, _, after, rfl, hbefore,
      identifiersOf_eq_notListed_iff.mpr ⟨members, entries, rfl, hfound⟩⟩]
    rfl

-- The shapes in which a registry is meant to be written, with the identifiers that it holds.
inductive Lists : Value → List Text → Prop
  | plain (identifiers : List Text) : Lists (.list (identifiers.map .text)) identifiers
  | bare {members : List (Text × Value)} (h : Dict.get? members "entries" = none) :
      Lists (.table members) []
  | named {members entries : List (Text × Value)}
      (h : Dict.get? members "entries" = some (.table entries)) :
      Lists (.table members) (Dict.keys entries)
  | inner {members : List (Text × Value)} {identifiers : List Text}
      (h : Dict.get? members "entries" = some (.list (identifiers.map .text))) :
      Lists (.table members) identifiers

-- Entries that are one text are gone through character by character.
def Scatters (value : Value) (identifiers : List Text) : Prop :=
  ∃ members s, value = .table members ∧ Dict.get? members "entries" = some (.text s) ∧
    identifiers = s.map ([·])

def Gives (value : Value) (identifiers : List Text) : Prop :=
  Lists value identifiers ∨ Scatters value identifiers

-- Every registry is written in one of the shapes that are meant.
def Documented (data : Value) : Prop :=
  ∃ members, data = .table members ∧ ∀ member ∈ members, ∃ identifiers, Lists member.2 identifiers

-- No object has entries other than an object or a list.
def Enterable (data : Value) : Prop :=
  ∀ members, data = .table members → ∀ member ∈ members, ∀ inner entries,
    member.2 = .table inner → Dict.get? inner "entries" = some entries →
    (∃ named, entries = .table named) ∨ ∃ items, entries = .list items

theorem mapM_textOf?_eq_some_iff {items : List Value} {texts : List Text} :
    items.mapM textOf? = some texts ↔ items = texts.map .text := by
  induction items generalizing texts with
  | nil => simp [eq_comm]
  | cons item items ih =>
    cases item with
    | text s =>
      cases hitems : items.mapM textOf? with
      | none => cases texts <;> simp [textOf?, hitems, ← ih]
      | some others => cases texts <;> simp [textOf?, hitems, ← ih]
    | _ => cases texts <;> simp [textOf?]

theorem textsOf_eq_ok_iff {name : Text} {items : List Value} {texts : List Text} :
    textsOf name items = .ok texts ↔ items = texts.map .text := by
  rw [textsOf, ← mapM_textOf?_eq_some_iff]
  cases items.mapM textOf? <;> simp

theorem identifiersOf_eq_ok_iff {name : Text} {value : Value} {identifiers : List Text} :
    identifiersOf name value = .ok identifiers ↔ Gives value identifiers := by
  constructor
  · intro h
    cases value with
    | table members =>
      rw [identifiersOf] at h
      split at h
      · next hnone =>
        cases h
        exact .inl (.bare hnone)
      · next entries hentries =>
        cases h
        exact .inl (.named hentries)
      · next items hentries =>
        rw [textsOf_eq_ok_iff.mp h] at hentries
        exact .inl (.inner hentries)
      · next s hentries =>
        cases h
        exact .inr ⟨members, s, rfl, hentries, rfl⟩
      · cases h
    | list items =>
      rw [textsOf_eq_ok_iff.mp h]
      exact .inl (.plain identifiers)
    | _ => cases h
  · rintro (hlists | ⟨members, s, rfl, hentries, rfl⟩)
    · cases hlists with
      | plain => exact textsOf_eq_ok_iff.mpr rfl
      | bare hnone => rw [identifiersOf, hnone]
      | named hentries => rw [identifiersOf, hentries]
      | inner hentries =>
        rw [identifiersOf, hentries]
        exact textsOf_eq_ok_iff.mpr rfl
    · rw [identifiersOf, hentries]

-- Entries are kept one by one, under the names without the namespace.
theorem entriesOf_eq_ok_iff {pairs : List (Text × Value)} {entries : List (Text × List Text)} :
    entriesOf pairs = .ok entries ↔
      List.Forall₂ (fun pair entry => entry.1 = stripNamespace pair.1 ∧ Gives pair.2 entry.2)
        pairs entries := by
  induction pairs generalizing entries with
  | nil => simp [entriesOf, eq_comm, List.forall₂_nil_left_iff]
  | cons pair pairs ih =>
    obtain ⟨name, value⟩ := pair
    rw [List.forall₂_cons_left_iff]
    constructor
    · intro h
      rw [entriesOf] at h
      split at h
      · cases h
      · next identifiers hvalue =>
        obtain ⟨others, hothers, rfl⟩ := map_eq_ok_iff.mp h
        exact ⟨_, others, ⟨rfl, identifiersOf_eq_ok_iff.mp hvalue⟩, ih.mp hothers, rfl⟩
    · rintro ⟨⟨_, identifiers⟩, others, ⟨rfl, hvalue⟩, hothers, rfl⟩
      rw [entriesOf, identifiersOf_eq_ok_iff.mpr hvalue]
      exact map_eq_ok_iff.mpr ⟨others, ih.mpr hothers, rfl⟩

theorem exists_entriesOf_iff {pairs : List (Text × Value)} :
    (∃ entries, entriesOf pairs = .ok entries) ↔
      ∀ pair ∈ pairs, ∃ identifiers, Gives pair.2 identifiers := by
  simp only [entriesOf_eq_ok_iff]
  induction pairs with
  | nil => exact ⟨fun _ => nofun, fun _ => ⟨[], .nil⟩⟩
  | cons pair pairs ih =>
    rw [List.forall_mem_cons, ← ih]
    constructor
    · rintro ⟨_, hentries⟩
      obtain ⟨entry, entries, ⟨-, hpair⟩, hpairs, -⟩ := List.forall₂_cons_left_iff.mp hentries
      exact ⟨⟨entry.2, hpair⟩, entries, hpairs⟩
    · rintro ⟨⟨identifiers, hpair⟩, entries, hpairs⟩
      exact ⟨(stripNamespace pair.1, identifiers) :: entries, .cons ⟨rfl, hpair⟩ hpairs⟩

theorem exists_ofValue_iff {data : Value} :
    (∃ r, ofValue data = .ok r) ↔ ∃ members, data = .table members ∧
      ∀ member ∈ members, ∃ identifiers, Gives member.2 identifiers := by
  cases data with
  | table members =>
    simp only [ofValue, map_eq_ok_iff, Value.table.injEq, exists_eq_left', ← exists_entriesOf_iff]
    constructor
    · rintro ⟨_, entries, h, -⟩
      exact ⟨entries, h⟩
    · rintro ⟨entries, h⟩
      exact ⟨_, entries, h, rfl⟩
  | _ => simp [ofValue]

theorem Enterable.lists_of_gives {members : List (Text × Value)}
    (h : Enterable (.table members)) {member : Text × Value} (hmember : member ∈ members)
    {identifiers : List Text} (hgives : Gives member.2 identifiers) :
    Lists member.2 identifiers := by
  rcases hgives with hlists | ⟨inner, s, hinner, hentries, -⟩
  · exact hlists
  · rcases h members rfl member hmember inner _ hinner hentries with ⟨_, h⟩ | ⟨_, h⟩ <;> cases h

theorem Enterable.exists_ofValue_iff {data : Value} (h : Enterable data) :
    (∃ r, ofValue data = .ok r) ↔ Documented data := by
  rw [Registries.exists_ofValue_iff]
  constructor
  · rintro ⟨members, rfl, hmembers⟩
    refine ⟨members, rfl, fun member hmember => ?_⟩
    obtain ⟨identifiers, hgives⟩ := hmembers member hmember
    exact ⟨identifiers, h.lists_of_gives hmember hgives⟩
  · rintro ⟨members, rfl, hmembers⟩
    exact ⟨members, rfl, fun member hmember => (hmembers member hmember).imp fun _ => .inl⟩

theorem Enterable.not_unlisted {data : Value} (h : Enterable data) : ¬Unlisted data := by
  rintro ⟨before, name, inner, after, entries, rfl, -, hentries, hlisted⟩
  have hmember : (name, .table inner) ∈ before ++ (name, .table inner) :: after := by simp
  rcases h _ rfl _ hmember inner entries rfl hentries with ⟨_, rfl⟩ | ⟨_, rfl⟩ <;> cases hlisted

-- Identifiers are got under the name that the last registry of that name was written for.
theorem gives_get_of_last {before after : List (Text × Value)} {name : Text} {value : Value}
    {r : Registries} (h : ofValue (.table (before ++ (name, value) :: after)) = .ok r)
    (hlast : ∀ later ∈ after, stripNamespace later.1 ≠ stripNamespace name) :
    Gives value (r.get (stripNamespace name)) := by
  obtain ⟨entries, hentries, rfl⟩ := map_eq_ok_iff.mp h
  have hpairs := List.forall₂_drop_append _ _ _ (entriesOf_eq_ok_iff.mp hentries).flip
  obtain ⟨⟨_, identifiers⟩, others, ⟨rfl, hgives⟩, hothers, hdrop⟩ :=
    List.forall₂_cons_right_iff.mp hpairs
  have hlater : ∀ later ∈ others, later.1 ≠ stripNamespace name := by
    intro later hlater
    obtain ⟨i, hi, rfl⟩ := List.getElem_of_mem hlater
    obtain ⟨hname, -⟩ := (List.forall₂_iff_get.mp hothers).2 i hi (hothers.length_eq ▸ hi)
    rw [List.get_eq_getElem] at hname
    rw [hname]
    exact hlast _ (List.getElem_mem _)
  rw [← List.take_append_drop before.length entries, hdrop]
  rw [get, Dict.get?_ofList_of_last hlater]
  exact hgives

theorem map_fst_entriesOf {pairs : List (Text × Value)} {entries : List (Text × List Text)}
    (h : entriesOf pairs = .ok entries) :
    entries.map Prod.fst = pairs.map fun pair => stripNamespace pair.1 := by
  induction entriesOf_eq_ok_iff.mp h with
  | nil => rfl
  | cons hpair hpairs ih =>
    rw [List.map_cons, List.map_cons, hpair.1, ih (entriesOf_eq_ok_iff.mpr hpairs)]

theorem names_of_ofValue {members : List (Text × Value)} {r : Registries}
    (h : ofValue (.table members) = .ok r) :
    r.names = (members.map fun member => stripNamespace member.1).eraseDups := by
  obtain ⟨entries, hentries, rfl⟩ := map_eq_ok_iff.mp h
  rw [names, Dict.keys_ofList, map_fst_entriesOf hentries]

theorem get_of_notMem {r : Registries} {name : Text} (h : name ∉ r.names) : r.get name = [] := by
  rw [get, Dict.get?_eq_none_iff.mpr h]
  rfl

-- Which data is read as registries, and what they hold: data whose entries are an object or a list
-- wherever there are any is read exactly where it is documented, and is reported otherwise. Beyond
-- that, entries that are a text are scattered, and other entries stop the program.
theorem ofValue_laws (data : Value) :
    ((∃ r, ofValue data = .ok r) ↔ ∃ members, data = .table members ∧
      ∀ member ∈ members, ∃ identifiers, Gives member.2 identifiers) ∧
    (ofValue data = .error .notListed ↔ Unlisted data) ∧
    (Enterable data → ((∃ r, ofValue data = .ok r) ↔ Documented data) ∧
      ofValue data ≠ .error .notListed) ∧
    ∀ members r, data = .table members → ofValue data = .ok r →
      r.names = (members.map fun member => stripNamespace member.1).eraseDups ∧
      (∀ name, name ∉ r.names → r.get name = []) ∧
      ∀ before name value after, members = before ++ (name, value) :: after →
        (∀ later ∈ after, stripNamespace later.1 ≠ stripNamespace name) →
        Gives value (r.get (stripNamespace name)) ∧
          (Enterable data → Lists value (r.get (stripNamespace name))) := by
  refine ⟨exists_ofValue_iff, ofValue_eq_notListed_iff, fun henter => ?_, ?_⟩
  · exact ⟨henter.exists_ofValue_iff, fun h => henter.not_unlisted (ofValue_eq_notListed_iff.mp h)⟩
  · rintro members r rfl h
    refine ⟨names_of_ofValue h, fun name => get_of_notMem, ?_⟩
    rintro before name value after rfl hlast
    have hgives := gives_get_of_last h hlast
    have hmember : (name, value) ∈ before ++ (name, value) :: after := by simp
    exact ⟨hgives, fun henter => henter.lists_of_gives hmember hgives⟩

-- Two registries that only differ in the namespace.
def sampleData : Value :=
  .table [("item", .list [.text "a"]),
    ("minecraft:item", .table [("entries", .table [("b", .null), ("c", .null)])])]

theorem enterable_sampleData : Enterable sampleData := by
  rintro members hmembers member hmember inner entries hinner hentries
  cases hmembers
  rcases List.mem_pair.mp hmember with rfl | rfl
  · cases hinner
  · cases hinner
    cases hentries
    exact .inl ⟨_, rfl⟩

theorem ofValue_laws_sample :
    Enterable sampleData ∧ ofValue sampleData = .ok ⟨[("item", ["b", "c"])]⟩ ∧
    Documented sampleData ∧
    Lists (.table [("entries", .table [("b", .null), ("c", .null)])]) ["b", "c"] := by
  have hread : ofValue sampleData = .ok ⟨[("item", ["b", "c"])]⟩ := by rfl
  obtain ⟨-, -, hexact, hheld⟩ := ofValue_laws sampleData
  obtain ⟨-, -, hlast⟩ := hheld _ _ rfl hread
  have hlists := (hlast [("item", .list [.text "a"])] "minecraft:item" _ [] rfl nofun).2
    enterable_sampleData
  exact ⟨enterable_sampleData, hread, (hexact enterable_sampleData).1.mp ⟨_, hread⟩, hlists⟩

-- A text for entries is not documented but is read, and no entries at all stop the program.
theorem exists_undocumented_read :
    (¬Documented (.table [("item", .table [("entries", .text "ab")])]) ∧
      ofValue (.table [("item", .table [("entries", .text "ab")])]) =
        .ok ⟨[("item", ["a", "b"])]⟩) ∧
    ofValue (.table [("item", .table [("entries", .null)])]) = .error .notListed := by
  refine ⟨⟨?_, by rfl⟩, by rfl⟩
  rintro ⟨members, hmembers, h⟩
  cases hmembers
  obtain ⟨identifiers, hlists⟩ := h _ (List.mem_singleton.mpr rfl)
  cases hlists with
  | bare h => cases h
  | named h => cases h
  | inner h => cases h

end CommandCompletion.Registries
