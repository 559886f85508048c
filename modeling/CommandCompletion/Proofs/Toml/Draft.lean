import CommandCompletion.Proofs.Toml.Place
import CommandCompletion.Proofs.Toml.Statement

namespace CommandCompletion.Toml

namespace Draft

variable {d d₁ d' : Draft} {key more : List Text} {part name : Text} {members : Dict Value}

-- Nothing is known of a key: it is not declared, nor is one below it, and none on the way to it is
-- frozen.
structure Free (d : Draft) (key : List Text) : Prop where
  declared : ∀ known ∈ d.declared, ¬key <+: known
  frozen : ∀ known ∈ d.frozen, ¬key <+: known ∧ ¬known <+: key

-- What becomes known stands at a key or below it. Frozen is only what stands below.
structure Grows (key : List Text) (d d' : Draft) : Prop where
  declared : ∀ known ∈ d'.declared, known ∈ d.declared ∨ key <+: known
  frozen : ∀ known ∈ d'.frozen, known ∈ d.frozen ∨ key <+: known ∧ known ≠ key

namespace Grows

theorem refl (key : List Text) (d : Draft) : Grows key d d :=
  ⟨fun _ => .inl, fun _ => .inl⟩

theorem trans (h : Grows key d d₁) (h' : Grows key d₁ d') : Grows key d d' :=
  ⟨fun known hknown => (h'.declared known hknown).elim (h.declared known) .inr,
    fun known hknown => (h'.frozen known hknown).elim (h.frozen known) .inr⟩

-- What becomes frozen below a key does not stand on the way to it.
theorem frozen_stays_below (h : Grows key d d') (hfrozen : ∀ known ∈ d.frozen, ¬known <+: key) :
    ∀ known ∈ d'.frozen, ¬known <+: key := by
  intro known hknown habove
  rcases h.frozen known hknown with hold | ⟨hbelow, hne⟩
  · exact hfrozen known hold habove
  · exact hne (habove.eq_of_length_le hbelow.length_le)

theorem of_append (h : Grows (key ++ more) d d') : Grows key d d' := by
  refine ⟨fun known hknown => (h.declared known hknown).imp_right (List.prefix_append ..).trans,
    fun known hknown => (h.frozen known hknown).imp_right fun ⟨hbelow, hne⟩ =>
      ⟨(List.prefix_append ..).trans hbelow, ?_⟩⟩
  rintro rfl
  have hlength := hbelow.length_le
  rw [List.length_append] at hlength
  have hmore : more = [] := List.eq_nil_of_length_eq_zero (by omega)
  exact hne (by simp [hmore])

end Grows

theorem eq_of_below {known : List Text} (h : key ++ [part] <+: known)
    (h' : key ++ [name] <+: known) : part = name := by
  obtain ⟨behind, rfl⟩ := h
  rw [List.append_assoc, List.prefix_append_right_inj, List.singleton_append,
    List.cons_prefix_cons] at h'
  exact h'.1.symm

theorem Free.of_grows (free : d.Free (key ++ [name])) (grows : Grows (key ++ [part]) d d')
    (hne : part ≠ name) : d'.Free (key ++ [name]) where
  declared known hknown := by
    rcases grows.declared known hknown with hold | hbelow
    · exact free.declared known hold
    · exact fun h => hne (eq_of_below hbelow h)
  frozen known hknown := by
    rcases grows.frozen known hknown with hold | ⟨hbelow, -⟩
    · exact free.frozen known hold
    · exact ⟨fun h => hne (eq_of_below hbelow h), fun h => hne (eq_of_below (hbelow.trans h) (List.prefix_refl _))⟩

theorem isFrozen_eq_false {frozen : List (List Text)} (h : ∀ known ∈ frozen, ¬known <+: key) :
    isFrozen frozen key = false := by
  rw [isFrozen, List.any_eq_false]
  exact fun known hknown hprefix => h known hknown (List.isPrefixOf_iff_prefix.mp hprefix)

theorem settle_of_pending (settled : d.pending = []) : d.settle = d := by
  obtain ⟨members, header, declared, pending, frozen⟩ := d
  cases settled
  rfl

theorem openTable_of_free (settled : d.pending = []) (free : d.Free key)
    (hreach : changeAt true some key d.members = some members) (rest : List Char) :
    d.settle.openTable key rest =
      .ok { d with members := members, header := key, declared := key :: d.declared } := by
  have hdeclared : d.isDeclared key = false := by
    rw [isDeclared, List.contains_eq_mem, decide_eq_false_iff_not]
    exact fun h => free.declared key h (List.prefix_refl _)
  have hfrozen := isFrozen_eq_false fun known hknown => (free.frozen known hknown).2
  rw [settle_of_pending settled, openTable, hdeclared, hfrozen, hreach]
  rfl

theorem Free.append (free : d.Free key) (name : Text) : d.Free (key ++ [name]) where
  declared known hknown h := free.declared known hknown ((List.prefix_append ..).trans h)
  frozen known hknown := by
    obtain ⟨hbelow, habove⟩ := free.frozen known hknown
    refine ⟨fun h => hbelow ((List.prefix_append ..).trans h), fun h => ?_⟩
    rcases List.prefix_concat_iff.mp h with rfl | h
    · exact hbelow (List.prefix_append ..)
    · exact habove h

theorem not_longer_above (key : List Text) (name : Text) : ¬key ++ [name] <+: key := by
  intro h
  have hlength := h.length_le
  simp only [List.length_append, List.length_singleton] at hlength
  omega

-- Where a table has just been opened, nothing is known of what stands in it.
theorem free_of_openTable (free : d.Free key) (name : Text) :
    Free { d with members := members, header := key, declared := key :: d.declared }
      (key ++ [name]) where
  declared := List.forall_mem_cons.mpr
    ⟨not_longer_above key name, (free.append name).declared⟩
  frozen := (free.append name).frozen

theorem openItem_of_frozen (settled : d.pending = [])
    (hfrozen : ∀ known ∈ d.frozen, ¬known <+: key ++ [part])
    (hchange : changeAt true (addItem part) key d.members = some members) (rest : List Char) :
    d.settle.openItem (key ++ [part]) rest =
      .ok { d with
        members := members, header := key ++ [part],
        declared := (key ++ [part]) :: d.declared.filter (!(key ++ [part]).isPrefixOf ·),
        frozen := d.frozen.filter (!(key ++ [part]).isPrefixOf ·) } := by
  have hlast : (key ++ [part]).getLastD (Text.ofString "") = part := by simp
  rw [settle_of_pending settled, openItem, isFrozen_eq_false hfrozen, hlast, List.dropLast_concat,
    hchange]
  rfl

theorem addValue_of_free {value : Value} (free : d.Free (d.header ++ [name]))
    (hchange : changeAt true (addMember name value) d.header d.members = some members)
    (rest : List Char) :
    d.addValue [name] value rest =
      .ok { d with
        members := members,
        frozen := if isContainer value then (d.header ++ [name]) :: d.frozen else d.frozen } := by
  have hpassed : d.passed [name] = [] := rfl
  have hfrozen := isFrozen_eq_false fun known hknown h =>
    (free.frozen known hknown).2 (h.trans (List.prefix_append ..))
  have hlast : List.getLastD [name] (Text.ofString "") = name := rfl
  rw [addValue, hpassed, List.find?_nil]
  simp only [List.dropLast_singleton, List.append_nil, hfrozen, hlast, hchange]
  rfl

-- What was known of a list's key before is forgotten where one more table of the list is opened.
theorem free_of_openItem (hfrozen : ∀ known ∈ d.frozen, ¬known <+: key) (name : Text) :
    Free { d with
      members := members, header := key,
      declared := key :: d.declared.filter (!key.isPrefixOf ·),
      frozen := d.frozen.filter (!key.isPrefixOf ·) } (key ++ [name]) where
  declared := by
    refine List.forall_mem_cons.mpr ⟨not_longer_above key name, fun known hknown h => ?_⟩
    have hforgotten := (List.mem_filter.mp hknown).2
    simp only [Bool.not_eq_true', ← Bool.not_eq_true, List.isPrefixOf_iff_prefix] at hforgotten
    exact hforgotten ((List.prefix_append ..).trans h)
  frozen known hknown := by
    obtain ⟨hknown, hforgotten⟩ := List.mem_filter.mp hknown
    simp only [Bool.not_eq_true', ← Bool.not_eq_true, List.isPrefixOf_iff_prefix] at hforgotten
    refine ⟨fun h => hforgotten ((List.prefix_append ..).trans h), fun h => ?_⟩
    rcases List.prefix_concat_iff.mp h with rfl | h
    · exact hforgotten (List.prefix_append ..)
    · exact hfrozen known hknown h

end Draft

-- Lines of a document that concern one key have been read: what the document holds then.
structure Reaches (d : Draft) (text : List Char) (key : List Text) (members : Dict Value)
    (d' : Draft) : Prop where
  passes : Passes d text d'
  members_eq : d'.members = members
  settled : d'.pending = []
  grows : Draft.Grows key d d'

namespace Reaches

open Draft

variable {d d₁ d' : Draft} {text behind : List Char} {key more : List Text}
  {members changed : Dict Value} {name : Text} {value : Value}

theorem refl (settled : d.pending = []) (key : List Text) : Reaches d [] key d.members d :=
  ⟨.refl d, rfl, settled, .refl key d⟩

theorem trans (h : Reaches d text key members d₁) (h' : Reaches d₁ behind key changed d') :
    Reaches d (text ++ behind) key changed d' :=
  ⟨h.passes.trans h'.passes, h'.members_eq, h'.settled, h.grows.trans h'.grows⟩

theorem of_append (h : Reaches d text (key ++ more) members d') : Reaches d text key members d' :=
  ⟨h.passes, h.members_eq, h.settled, h.grows.of_append⟩

theorem of_passes (hpasses : Passes d behind d) (h : Reaches d text key members d') :
    Reaches d (behind ++ text) key members d' :=
  ⟨hpasses.trans h.passes, h.members_eq, h.settled, h.grows⟩

end Reaches

open Draft

variable {d : Draft} {members : Dict Value} {value : Value} {key : List (List Char)}

-- The names that stand in a key.
abbrev names (key : List (List Char)) : List Text :=
  key.map .ofChars

theorem exists_reaches_header (hkey : key ≠ []) (settled : d.pending = [])
    (free : d.Free (names key)) (hreach : changeAt true some (names key) d.members = some members) :
    ∃ d', Reaches d ('[' :: (dottedChars key ++ [']']) ++ ['\n']) (names key) members d' ∧
      d'.header = names key ∧ ∀ name, d'.Free (names key ++ [name]) := by
  refine ⟨_, ⟨.header hkey (openTable_of_free settled free hreach), rfl, settled, ?_, ?_⟩, rfl,
    free_of_openTable free⟩
  · exact List.forall_mem_cons.mpr ⟨.inr (List.prefix_refl _), fun _ => .inl⟩
  · exact fun _ => .inl

theorem exists_reaches_itemHeader {part : List Char} (settled : d.pending = [])
    (hfrozen : ∀ known ∈ d.frozen, ¬known <+: names (key ++ [part]))
    (hchange : changeAt true (addItem (.ofChars part)) (names key) d.members = some members) :
    ∃ d', Reaches d ('[' :: '[' :: (dottedChars (key ++ [part]) ++ [']', ']']) ++ ['\n'])
        (names (key ++ [part])) members d' ∧
      d'.header = names (key ++ [part]) ∧ ∀ name, d'.Free (names (key ++ [part]) ++ [name]) := by
  have hnames : names (key ++ [part]) = names key ++ [.ofChars part] := List.map_append
  have hopen := openItem_of_frozen settled (hnames ▸ hfrozen) hchange
  rw [← hnames] at hopen
  refine ⟨_, ⟨.itemHeader (by simp) hopen, rfl, settled, ?_, ?_⟩, rfl, free_of_openItem hfrozen⟩
  · exact List.forall_mem_cons.mpr
      ⟨.inr (List.prefix_refl _), fun _ h => .inl (List.mem_of_mem_filter h)⟩
  · exact fun _ h => .inl (List.mem_of_mem_filter h)

theorem exists_reaches_member {name printed : List Char} (settled : d.pending = [])
    (hprinted : ReadsBack maxRoom printed value) (free : d.Free (d.header ++ [.ofChars name]))
    (hchange : changeAt true (addMember (.ofChars name) value) d.header d.members = some members) :
    ∃ d', Reaches d (keyChars name ++ ' ' :: '=' :: ' ' :: printed ++ ['\n']) d.header members d' ∧
      d'.header = d.header ∧
      ∀ other ≠ .ofChars name, d.Free (d.header ++ [other]) → d'.Free (d.header ++ [other]) := by
  have hnew : ∀ known, known ∈ (if isContainer value then (d.header ++ [.ofChars name]) :: d.frozen
      else d.frozen) → known = d.header ++ [.ofChars name] ∨ known ∈ d.frozen := by
    intro known hknown
    split at hknown
    · exact List.mem_cons.mp hknown
    · exact .inr hknown
  refine ⟨_, ⟨.member hprinted (addValue_of_free free hchange), rfl, settled, ?_, ?_⟩, rfl,
    fun other hother hfree => ⟨hfree.declared, fun known hknown => ?_⟩⟩
  · exact fun _ => .inl
  · intro known hknown
    rcases hnew known hknown with rfl | h
    · exact .inr ⟨List.prefix_append .., by simp⟩
    · exact .inl h
  · rcases hnew known hknown with rfl | h
    · exact ⟨fun h => hother (eq_of_below h (List.prefix_refl _)),
        fun h => hother (eq_of_below (List.prefix_refl _) h)⟩
    · exact hfree.frozen known h

end CommandCompletion.Toml
