import CommandCompletion.Proofs.Toml.Arranged
import CommandCompletion.Proofs.Toml.Draft

namespace CommandCompletion.Toml

variable {members inner changed : Dict Value} {part : Text} {value : Value} {room : Nat}
  {d d₁ : Draft} {place : List Text} {key : List (List Char)}

-- Plain members are read from their lines. By induction on them: each line adds one to those that
-- are there, and leaves the names still to come free.
theorem exists_reaches_lines {plain changed : Dict Value}
    (storable : ∀ member ∈ plain, member.2.IsStorable) (distinct : plain.Distinct)
    (hfault : (lines plain).fault = none) (settled : d.pending = [])
    (reached : changeAt true some d.header d.members = some d.members)
    (free : ∀ member ∈ plain, d.Free (d.header ++ [member.1]))
    (hgrow : changeAt true (grow plain) d.header d.members = some changed) :
    ∃ d', Reaches d (lines plain).text d.header changed d' ∧ d'.header = d.header ∧
      ∀ name ∉ plain.keys, d.Free (d.header ++ [name]) → d'.Free (d.header ++ [name]) := by
  induction plain generalizing d with
  | nil =>
    obtain rfl : d.members = changed := Option.some.inj (reached.symm.trans hgrow)
    exact ⟨d, .refl settled _, rfl, fun _ _ => id⟩
  | cons member plain ih =>
    obtain ⟨name, value⟩ := member
    obtain ⟨hvalue, hplain⟩ := List.forall_mem_cons.mp storable
    obtain ⟨hfree, hfreePlain⟩ := List.forall_mem_cons.mp free
    obtain ⟨hnew, hdistinct⟩ := List.nodup_cons.mp distinct
    obtain ⟨chars, printed, rfl, hprinted, hback⟩ := exists_of_fault_lines hvalue hfault
    rw [lines_cons hprinted] at hfault ⊢
    rw [changeAt_grow_cons] at hgrow
    obtain ⟨members, hmember, hgrow⟩ := Option.bind_eq_some_iff.mp hgrow
    obtain ⟨d₁, hline, hheader, hstays⟩ := exists_reaches_member settled hback hfree hmember
    obtain rfl := hline.members_eq
    have hfreeLeft (other : Text × Value) (hother : other ∈ plain) :
        d₁.Free (d₁.header ++ [other.1]) := by
      rw [hheader]
      exact hstays _ (fun hsame => hnew (List.mem_map.mpr ⟨other, hother, hsame⟩))
        (hfreePlain other hother)
    rw [← hheader] at hgrow hmember
    obtain ⟨d', hlines, hheader', hstays'⟩ := ih hplain hdistinct hfault hline.settled
      (changeAt_some_of_changeAt hmember) hfreeLeft hgrow
    rw [hheader] at hlines hheader' hstays'
    refine ⟨d', by simpa using hline.trans hlines, hheader', fun other hother hfree => ?_⟩
    obtain ⟨hne, hother⟩ : other ≠ .ofChars chars ∧ other ∉ Dict.keys plain := by
      simpa [Dict.keys] using hother
    exact hstays' other hother (hstays other hne hfree)

theorem grow_arranged (distinct : members.Distinct) :
    grow (arranged members) [] = some (arranged members) :=
  grow_eq_some_of_distinct ((keys_arranged_perm members).nodup_iff.mpr distinct)

-- The sections of a table may be read now: nothing is known of them yet, and `changed` is what the
-- document is to hold after them.
structure Ready (members : Dict Value) (key : List Text) (changed : Dict Value) (d : Draft) : Prop where
  settled : d.pending = []
  free : ∀ member ∈ members, isOwn member.2 → d.Free (key ++ [member.1])
  reached : ownSections members = [] → changeAt true some key d.members = some d.members
  grows : changeAt true (grow (ownSections members)) key d.members = some changed

-- The text of a section's opening is read: what stands behind its header, if it has one, are its
-- plain members.
theorem exists_ready_of_lines (storable : (Value.table inner).IsStorable)
    (hfault : (lines (plainOf inner)).fault = none) (settled : d.pending = [])
    (hheader : d.header = place) (reached : changeAt true some place d.members = some d.members)
    (free : ∀ name, d.Free (place ++ [name]))
    (hgrow : changeAt true (grow (arranged inner)) place d.members = some changed) :
    ∃ d', Reaches d (lines (plainOf inner)).text place d'.members d' ∧
      Ready inner place changed d' := by
  subst hheader
  obtain ⟨distinct, hstorable⟩ : inner.Distinct ∧ ∀ member ∈ inner, member.2.IsStorable := by
    cases storable with
    | table distinct hstorable => exact ⟨distinct, hstorable⟩
  rw [arranged, changeAt_grow_append] at hgrow
  obtain ⟨plain, hplain, hgrow⟩ := Option.bind_eq_some_iff.mp hgrow
  obtain ⟨d', hreaches, hheader, hfree⟩ := exists_reaches_lines
    (fun member hmember => hstorable member (List.mem_of_mem_filter hmember))
    (distinct.sublist (List.filter_sublist.map _)) hfault settled reached
    (fun member _ => free member.1) hplain
  obtain rfl := hreaches.members_eq
  refine ⟨d', hreaches, hreaches.settled, fun member hmember hown => ?_,
    fun _ => changeAt_some_of_changeAt hplain, hgrow⟩
  refine hfree _ (fun hplain => ?_) (free member.1)
  obtain ⟨other, hother, hname⟩ := List.mem_map.mp hplain
  obtain ⟨hother, hnot⟩ := mem_plainOf.mp hother
  have hvalue := Dict.get?_of_mem distinct hmember
  have hvalue' := Dict.get?_of_mem distinct hother
  rw [hname, hvalue] at hvalue'
  rw [Option.some.inj hvalue', hnot] at hown
  cases hown

-- The opening of a table: its header and its plain members. A table without a header has neither.
theorem exists_ready_of_opening (hkey : key ≠ []) (storable : (Value.table inner).IsStorable)
    (hfault : (opening (.ofChars (dottedChars key)) false inner).fault = none)
    (settled : d.pending = []) (free : d.Free (names key))
    (hgrow : changeAt true (grow (arranged inner)) (names key) d.members = some changed) :
    ∃ d', Reaches d (opening (.ofChars (dottedChars key)) false inner).text (names key) d'.members d' ∧
      Ready inner (names key) changed d' := by
  have hname : Text.ofChars (dottedChars key) ≠ [] := by
    rw [ne_eq, Text.ofChars_eq_nil_iff, dottedChars_eq_nil_iff]
    exact hkey
  cases hheaded : isHeaded (.ofChars (dottedChars key)) false inner with
  | true =>
    obtain ⟨hlines, htext⟩ := text_opening hfault hheaded
    obtain ⟨reached, hreach, hgrow⟩ := exists_changeAt_some hgrow
    obtain ⟨d₁, hreaches, hheader, hfree⟩ := exists_reaches_header hkey settled free hreach
    obtain rfl := hreaches.members_eq
    obtain ⟨d', hreaches', ready⟩ := exists_ready_of_lines storable hlines hreaches.settled hheader
      (changeAt_some_of_changeAt hreach) hfree hgrow
    exact ⟨d', htext ▸ hreaches.trans hreaches', ready⟩
  | false =>
    obtain ⟨hplain, hne⟩ := not_isHeaded hname hheaded
    have htext : (opening (.ofChars (dottedChars key)) false inner).text = [] := by
      rw [opening_eq hfault, hheaded, hplain]
      rfl
    rw [arranged, hplain, List.nil_append] at hgrow
    refine ⟨d, htext ▸ .refl settled _, settled, fun member _ _ => free.append member.1,
      fun hown => ?_, hgrow⟩
    have hkeys := (keys_arranged_perm inner).length_eq
    rw [arranged, hplain, hown] at hkeys
    exact absurd (List.eq_nil_of_length_eq_zero (by simpa [Dict.keys] using hkeys.symm)) hne

-- The opening of one more table of a list.
theorem exists_ready_of_item {part : List Char} (storable : (Value.table inner).IsStorable)
    (hfault : (opening (.ofChars (dottedChars (key ++ [part]))) true inner).fault = none)
    (settled : d.pending = []) (hfrozen : ∀ known ∈ d.frozen, ¬known <+: names (key ++ [part]))
    (hgrow : ((changeAt true (addItem (.ofChars part)) (names key) d.members).bind
      (changeAt true (grow (arranged inner)) (names (key ++ [part])))) = some changed) :
    ∃ d', Reaches d (opening (.ofChars (dottedChars (key ++ [part]))) true inner).text
        (names (key ++ [part])) d'.members d' ∧
      Ready inner (names (key ++ [part])) changed d' := by
  obtain ⟨hlines, htext⟩ := text_opening hfault rfl
  obtain ⟨added, hadd, hgrow⟩ := Option.bind_eq_some_iff.mp hgrow
  obtain ⟨d₁, hreaches, hheader, hfree⟩ := exists_reaches_itemHeader settled hfrozen hadd
  obtain rfl := hreaches.members_eq
  have hthere := changeAt_some_of_addItem hadd
  rw [← show names (key ++ [part]) = names key ++ [.ofChars part] from List.map_append] at hthere
  obtain ⟨d', hreaches', ready⟩ := exists_ready_of_lines storable hlines hreaches.settled hheader
    hthere hfree hgrow
  exact ⟨d', htext ▸ hreaches.trans hreaches', ready⟩

namespace Ready

variable {added : Dict Value} {text : List Char}

-- What a table still has to come when one of its sections has been read.
theorem tail {part : Text} (ready : Ready ((part, value) :: members) place changed d)
    (distinct : Dict.Distinct ((part, value) :: members)) {read : Value}
    (hadd : changeAt true (addMember part read) place d.members = some added)
    (hgrow : changeAt true (grow (ownSections members)) place added = some changed)
    (h : Reaches d text (place ++ [part]) added d₁) : Ready members place changed d₁ := by
  obtain rfl := h.members_eq
  refine ⟨h.settled, fun member hmember hown => ?_, fun _ => changeAt_some_of_changeAt hadd, hgrow⟩
  exact (ready.free member (List.mem_cons_of_mem _ hmember) hown).of_grows h.grows fun hsame =>
    (List.nodup_cons.mp distinct).1 (List.mem_map.mpr ⟨member, hmember, hsame.symm⟩)

theorem skip {part : Text} (ready : Ready ((part, value) :: members) place changed d)
    (hvalue : isOwn value = false) : Ready members place changed d := by
  have hsame := ownSections_of_plain hvalue part members
  refine ⟨ready.settled, fun member hmember => ready.free member (List.mem_cons_of_mem _ hmember),
    ?_, ?_⟩
  · exact hsame ▸ ready.reached
  · exact hsame ▸ ready.grows

theorem nil (ready : Ready [] place changed d) : d.members = changed := by
  have hreached := ready.reached (by rw [ownSections])
  have hgrows := ready.grows
  rw [ownSections] at hgrows
  exact Option.some.inj (hreached.symm.trans hgrows)

end Ready

theorem passes_gap (printed : Bool) (d : Draft) : Passes d (gap printed).text d := by
  cases printed
  · exact .refl d
  · exact .emptyLine d

-- The sections of a table are read from their print, wherever the table stands.
def TableReads (members : Dict Value) : Prop :=
  ∀ ⦃room key printed d changed⦄,
    (sections room (.ofChars (dottedChars key)) printed members).fault = none →
      Ready members (names key) changed d →
        ∃ d', Reaches d (sections room (.ofChars (dottedChars key)) printed members).text (names key)
          changed d'

-- A section is read where it stands: its opening first, then the sections in it.
theorem exists_reaches_table {chars : List Char} {printed : Bool}
    (storable : (Value.table inner).IsStorable) (hinner : TableReads inner)
    (hfault : (sections room (.ofChars (dottedChars key)) printed
      ((.ofChars chars, .table inner) :: members)).fault = none)
    (settled : d.pending = []) (free : d.Free (names (key ++ [chars])))
    (hgrow : changeAt true (grow (arranged inner)) (names (key ++ [chars])) d.members =
      some changed) :
    ∃ text d', Reaches d text (names (key ++ [chars])) changed d' ∧
      (sections room (.ofChars (dottedChars key)) printed
          ((.ofChars chars, .table inner) :: members)).text =
        text ++ (sections room (.ofChars (dottedChars key)) true members).text := by
  obtain ⟨hstart, hown, -, htext⟩ := sections_table_of_fault hfault
  rw [dotted_ofChars] at hstart hown htext
  obtain ⟨d₁, hopening, ready⟩ := exists_ready_of_opening (by simp) storable hstart settled free hgrow
  obtain ⟨d', hsections⟩ := hinner hown ready
  exact ⟨_, d', (hopening.trans hsections).of_passes (passes_gap printed d), htext⟩

theorem TableReads.table {part : Text} (storable : (Value.table inner).IsStorable)
    (distinct : Dict.Distinct ((part, .table inner) :: members)) (hinner : TableReads inner)
    (hmembers : TableReads members) : TableReads ((part, .table inner) :: members) := by
  intro room key printed d changed hfault ready
  have hwhole := hasHalf_of_sections _ hfault _ List.mem_cons_self (isOwn_table inner)
  rw [hasHalf_dotted, Bool.or_eq_false_iff] at hwhole
  obtain ⟨chars, rfl⟩ := Text.exists_eq_ofChars hwhole.2
  have hnames : names (key ++ [chars]) = names key ++ [.ofChars chars] := List.map_append
  have hgrow := ready.grows
  rw [ownSections, changeAt_grow_cons] at hgrow
  obtain ⟨added, hadd, hgrow⟩ := Option.bind_eq_some_iff.mp hgrow
  have hplace : changeAt true (grow (arranged inner)) (names (key ++ [chars])) d.members =
      some added := by
    rw [hnames, changeAt_append]
    have hinnerDistinct : inner.Distinct := by
      cases storable with
      | table distinct _ => exact distinct
    exact changeAt_mono (fun _ _ => changeAt_grow_of_addMember (grow_arranged hinnerDistinct)) hadd
  obtain ⟨text, d₁, htable, htext⟩ := exists_reaches_table storable hinner hfault ready.settled
    (hnames ▸ ready.free _ List.mem_cons_self (isOwn_table inner)) hplace
  rw [hnames] at htable
  obtain ⟨d', hrest⟩ := hmembers (sections_table_of_fault hfault).2.2.1
    (ready.tail distinct hadd hgrow htable)
  exact ⟨d', htext ▸ htable.of_append.trans hrest⟩

theorem TableReads.plain {part : Text} (hvalue : isOwn value = false)
    (hmembers : TableReads members) : TableReads ((part, value) :: members) := by
  intro room key printed d changed hfault ready
  rw [sections_of_plain hvalue] at hfault ⊢
  exact hmembers hfault (ready.skip hvalue)

theorem TableReads.nil : TableReads [] := by
  intro room key printed d changed _ ready
  obtain rfl := ready.nil
  rw [sections]
  exact ⟨d, .refl ready.settled _⟩

-- The tables of a list are read one after the other. By induction on those still to come: each is
-- put at the end of the list, and what was known below the list's key is forgotten.
theorem exists_reaches_items {part : List Char} {items : List Value} {printed : Bool}
    (htables : ∀ item ∈ items, isTable item) (storable : ∀ item ∈ items, item.IsStorable)
    (hitems : ∀ inner, .table inner ∈ items → TableReads inner)
    (hfault : (itemSections room (.ofChars (dottedChars (key ++ [part]))) printed items).fault = none)
    (settled : d.pending = []) (hfrozen : ∀ known ∈ d.frozen, ¬known <+: names (key ++ [part]))
    (reached : items = [] → changeAt true some (names key) d.members = some d.members)
    (hgrow : changeAt true (growItems (.ofChars part) (arrangedItems items)) (names key) d.members =
      some changed) :
    ∃ d', Reaches d
      (itemSections room (.ofChars (dottedChars (key ++ [part]))) printed items).text
      (names (key ++ [part])) changed d' := by
  induction items generalizing d printed with
  | nil =>
    rw [arrangedItems] at hgrow
    obtain rfl : d.members = changed := Option.some.inj ((reached rfl).symm.trans hgrow)
    rw [itemSections]
    exact ⟨d, .refl settled _⟩
  | cons item items ih =>
    obtain ⟨htable, hothersTables⟩ := List.forall_mem_cons.mp htables
    obtain ⟨hstorable, hothersStorable⟩ := List.forall_mem_cons.mp storable
    obtain ⟨inner, rfl⟩ : ∃ inner, item = .table inner := by
      cases item <;> first | exact ⟨_, rfl⟩ | cases htable
    obtain ⟨hstart, hown, hrest, htext⟩ := itemSections_table_of_fault hfault
    have hnames : names (key ++ [part]) = names key ++ [.ofChars part] := List.map_append
    rw [arrangedItems, changeAt_growItems_cons] at hgrow
    obtain ⟨added, hadd, hgrow⟩ := Option.bind_eq_some_iff.mp hgrow
    obtain ⟨d₁, hopening, ready⟩ := exists_ready_of_item hstorable hstart settled hfrozen
      (hnames ▸ hadd)
    obtain ⟨d₂, hsections⟩ := hitems inner List.mem_cons_self hown ready
    have hitem := (hopening.trans hsections).of_passes (passes_gap printed d)
    obtain rfl := hitem.members_eq
    have hthere : changeAt true some (names key) d₂.members = some d₂.members := by
      obtain ⟨_, -, hitem⟩ := Option.bind_eq_some_iff.mp hadd
      rw [changeAt_append] at hitem
      exact changeAt_some_of_changeAt hitem
    obtain ⟨d', hothers⟩ := ih hothersTables hothersStorable
      (fun inner hinner => hitems inner (List.mem_cons_of_mem _ hinner)) hrest hitem.settled
      (hitem.grows.frozen_stays_below hfrozen) (fun _ => hthere) hgrow
    exact ⟨d', htext ▸ hitem.trans hothers⟩

theorem TableReads.list {part : Text} {items : List Value} (storable : (Value.list items).IsStorable)
    (hown : isOwn (.list items)) (distinct : Dict.Distinct ((part, .list items) :: members))
    (hitems : ∀ inner, .table inner ∈ items → TableReads inner) (hmembers : TableReads members) :
    TableReads ((part, .list items) :: members) := by
  intro room key printed d changed hfault ready
  have hwhole := hasHalf_of_sections _ hfault _ List.mem_cons_self hown
  rw [hasHalf_dotted, Bool.or_eq_false_iff] at hwhole
  obtain ⟨chars, rfl⟩ := Text.exists_eq_ofChars hwhole.2
  have hnames : names (key ++ [chars]) = names key ++ [.ofChars chars] := List.map_append
  have hgrow := ready.grows
  rw [ownSections, if_pos hown, changeAt_grow_cons] at hgrow
  obtain ⟨added, hadd, hgrowMembers⟩ := Option.bind_eq_some_iff.mp hgrow
  rw [sections_of_own_list hown, dotted_ofChars] at hfault ⊢
  obtain ⟨hlist, hrest, htext⟩ := Printout.fault_andThen hfault
  obtain ⟨first, others, rfl, htables⟩ := exists_tables_of_isOwn hown
  have hstorable : ∀ item ∈ Value.table first :: others, item.IsStorable := by
    cases storable with
    | list hstorable => exact hstorable
  have hplace : changeAt true (growItems (.ofChars chars) (arrangedItems (.table first :: others)))
      (names key) d.members = some added := by
    refine changeAt_mono (fun _ _ => growItems_of_addMember ?_ ?_) hadd
    · simp [arrangedItems]
    · intro item hitem
      obtain ⟨inner, hinner, rfl⟩ := mem_arrangedItems hitem
      cases hstorable _ hinner with
      | table distinct _ => exact grow_arranged distinct
  have hfree := ready.free _ List.mem_cons_self hown
  obtain ⟨d₁, hread⟩ := exists_reaches_items htables hstorable hitems hlist ready.settled
    (fun known hknown => hnames ▸ (hfree.frozen known hknown).2)
    (fun hnil => absurd hnil (List.cons_ne_nil _ _)) hplace
  rw [hnames] at hread
  obtain ⟨d', hreads⟩ := hmembers hrest (ready.tail distinct hadd hgrowMembers hread)
  exact ⟨d', htext ▸ hread.of_append.trans hreads⟩

-- By induction on the members of a table, whose values are known to be read.
theorem tableReads_of_isStorable (storable : value.IsStorable) :
    (∀ inner, value = .table inner → TableReads inner) ∧
      ∀ items, value = .list items → ∀ inner, .table inner ∈ items → TableReads inner := by
  induction storable with
  | bool | int | text => exact ⟨nofun, nofun⟩
  | list _ ih => exact ⟨nofun, by rintro _ ⟨⟩ inner hinner; exact (ih _ hinner).1 inner rfl⟩
  | @table members distinct hstorable ih =>
    refine ⟨?_, nofun⟩
    rintro _ ⟨⟩
    induction members with
    | nil => exact TableReads.nil
    | cons member members ihMembers =>
      obtain ⟨part, value⟩ := member
      obtain ⟨hvalue, hvalues⟩ := List.forall_mem_cons.mp hstorable
      obtain ⟨ihValue, ihValues⟩ := List.forall_mem_cons.mp ih
      have hmembers : TableReads members := ihMembers (List.nodup_cons.mp distinct).2 hvalues ihValues
      cases hown : isOwn value with
      | false => exact TableReads.plain hown hmembers
      | true =>
        cases value with
        | table inner => exact TableReads.table hvalue distinct (ihValue.1 inner rfl) hmembers
        | list items => exact TableReads.list hvalue hown distinct (ihValue.2 items rfl) hmembers
        | _ => cases hown

theorem joinLineEnds_of_notMem {text : List Char} (h : '\r' ∉ text) : joinLineEnds text = text := by
  fun_induction joinLineEnds text with
  | case1 rest ih => simp at h
  | case2 c rest _ ih => rw [ih fun hmem => h (List.mem_cons_of_mem _ hmem)]
  | case3 => rfl

-- What is printed without a fault is read back, the plain members of every table before those that
-- stand in sections.
theorem read_print (storable : (Value.table members).IsStorable)
    (hfault : (print members).fault = none) :
    read (print members).text = .ok (arranged members) := by
  have distinct : members.Distinct := by
    cases storable with
    | table distinct _ => exact distinct
  rw [print] at hfault ⊢
  obtain ⟨hstart, hsections, htext⟩ := Printout.fault_andThen hfault
  have hlines : opening [] false members = lines (plainOf members) := by
    rw [opening_eq hstart]
    exact Printout.nil_andThen _
  rw [hlines] at hstart hsections htext ⊢
  have free (name : Text) : Draft.Free {} ([] ++ [name]) := ⟨nofun, nofun⟩
  obtain ⟨d, hplain, ready⟩ :=
    exists_ready_of_lines storable hstart rfl rfl rfl free (grow_arranged distinct)
  have htable : TableReads members := (tableReads_of_isStorable storable).1 members rfl
  obtain ⟨d', hown⟩ : ∃ d', Reaches d
      (sections printRoom [] (!(lines (plainOf members)).text.isEmpty) members).text []
      (arranged members) d' := @htable printRoom [] _ d _ hsections ready
  have hreads := hplain.trans hown
  have hscan := hreads.passes.reads (Reads.nil d') _ (Nat.lt_succ_self _)
  rw [List.append_nil] at hscan
  rw [htext, read, joinLineEnds_of_notMem hreads.passes.oneLineEnd, hscan]
  exact congrArg Except.ok hreads.members_eq

end CommandCompletion.Toml
