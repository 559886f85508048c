import CommandCompletion.Proofs.Toml.Inline

namespace CommandCompletion.Toml

namespace Printout

variable {first next : Printout} {text : Text}

theorem nil_andThen (next : Printout) : andThen ⟨[], none⟩ next = next := by
  obtain ⟨text, fault | fault⟩ := next <;> simp [andThen]

theorem fault_andThen (h : (first.andThen next).fault = none) :
    first.fault = none ∧ next.fault = none ∧ (first.andThen next).text = first.text ++ next.text := by
  obtain ⟨chars, fault | fault⟩ := first
  · exact ⟨rfl, h, rfl⟩
  · cases h

theorem exists_of_fault_ofText (h : (ofText text).fault = none) :
    ∃ chars, text = .ofChars chars ∧ (ofText text).text = chars := by
  cases hhalf : text.hasHalf with
  | true =>
    rw [ofText, Text.chars?_eq_none hhalf] at h
    cases h
  | false =>
    obtain ⟨chars, rfl⟩ := Text.exists_eq_ofChars hhalf
    exact ⟨chars, rfl, by rw [ofText_ofChars]⟩

end Printout

variable {members inner : Dict Value} {name : Text} {value : Value} {room : Nat}
  {key : List (List Char)}

-- Whether a value that can be printed is printed in sections of its own.
def isOwn (value : Value) : Bool :=
  match isSection value with
  | .ok own => own
  | .error _ => false

def plainOf (members : Dict Value) : Dict Value :=
  members.filter (!isOwn ·.2)

theorem isSection_eq_ok_true_iff : isSection value = .ok true ↔ isOwn value = true := by
  unfold isOwn
  split
  · next own h => simp [h]
  · next fault h => simp [h]

theorem isOwn_table (inner : Dict Value) : isOwn (.table inner) = true := by
  simp [isOwn, isSection]

theorem mem_plainOf {member : Text × Value} :
    member ∈ plainOf members ↔ member ∈ members ∧ isOwn member.2 = false := by
  simp [plainOf]

-- Which members stand in sections.
theorem sorted_eq_ok {entries : List (Bool × Text × Value)} (h : sorted members = .ok entries) :
    entries = members.map fun member => (isOwn member.2, member) := by
  induction members generalizing entries with
  | nil =>
    cases h
    rfl
  | cons member members ih =>
    obtain ⟨own, hown, h⟩ := bind_eq_ok_iff.mp h
    obtain ⟨others, hothers, h⟩ := bind_eq_ok_iff.mp h
    cases h
    have hmember : isOwn member.2 = own := by simp [isOwn, hown]
    rw [List.map_cons, hmember, ih hothers]

-- Whether a section has a header of its own.
def isHeaded (name : Text) (item : Bool) (members : Dict Value) : Bool :=
  item || (!name.isEmpty && (!(plainOf members).isEmpty || members.isEmpty))

theorem opening_eq {item : Bool} (h : (opening name item members).fault = none) :
    opening name item members =
      (Printout.ofText (if isHeaded name item members then headerText item name else [])).andThen
        (lines (plainOf members)) := by
  unfold opening at h ⊢
  split at h
  · cases h
  · next entries hsorted =>
    have hentries := sorted_eq_ok hsorted
    have hplain : (entries.filter (!·.1)).map (·.2) = plainOf members := by
      rw [hentries, List.filter_map, List.map_map]
      exact List.map_id _
    have hempty : entries.isEmpty = members.isEmpty := by
      rw [hentries, List.isEmpty_map]
    simp only [hplain, hempty, isHeaded]
    rfl

theorem lines_cons {chars printed : List Char} (hprinted : behindKey value = .ok (.ofChars printed))
    (members : Dict Value) :
    lines ((.ofChars chars, value) :: members) =
      ⟨keyChars chars ++ ' ' :: '=' :: ' ' :: printed ++ '\n' :: (lines members).text,
        (lines members).fault⟩ := by
  have hline : keyPart (.ofChars chars) ++ Text.ofString " = " ++ .ofChars printed ++
      Text.ofString "\n" =
        .ofChars (keyChars chars ++ ' ' :: '=' :: ' ' :: printed ++ ['\n']) := by
    rw [keyPart_ofChars]
    simp [Text.ofChars, Text.ofString]
  rw [lines, hprinted]
  dsimp only
  rw [hline, Printout.ofText_ofChars]
  simp [Printout.andThen]

-- The line of a value that is printed.
theorem exists_of_fault_lines (storable : value.IsStorable)
    (h : (lines ((name, value) :: members)).fault = none) :
    ∃ chars printed, name = .ofChars chars ∧ behindKey value = .ok (.ofChars printed) ∧
      ReadsBack maxRoom printed value := by
  rw [lines] at h
  split at h
  · cases h
  · next text hprinted =>
    obtain ⟨hline, -⟩ := Printout.fault_andThen h
    obtain ⟨line, hchars, -⟩ := Printout.exists_of_fault_ofText hline
    have hwhole : (keyPart name ++ Text.ofString " = " ++ text ++ Text.ofString "\n").hasHalf =
        false := hchars ▸ Text.hasHalf_ofChars line
    simp only [Text.hasHalf_append, Bool.or_eq_false_iff] at hwhole
    obtain ⟨chars, rfl⟩ := Text.exists_eq_ofChars ((hasHalf_keyPart name).symm.trans hwhole.1.1.1)
    have hinline := hprinted
    unfold behindKey at hinline
    split at hinline
    · cases hinline
    · next hroom =>
      obtain ⟨printed, rfl, hback⟩ := isReadBack_of_isStorable storable 0 maxRoom text hinline
        hwhole.1.2 (not_lt.mp hroom)
      exact ⟨chars, printed, rfl, hprinted, hback⟩

-- Names of sections, which have no halves.

theorem hasHalf_dotted (name part : Text) :
    (dotted name part).hasHalf = (name.hasHalf || part.hasHalf) := by
  unfold dotted
  split
  · next h =>
    rw [List.isEmpty_iff.mp h, hasHalf_keyPart]
    rfl
  · rw [Text.hasHalf_append, Text.hasHalf_append, hasHalf_keyPart]
    simp [show (Text.ofString ".").hasHalf = false from rfl]

theorem dotted_ofChars (key : List (List Char)) (part : List Char) :
    dotted (.ofChars (dottedChars key)) (.ofChars part) = .ofChars (dottedChars (key ++ [part])) := by
  have hempty : List.isEmpty (Text.ofChars (dottedChars key)) = decide (key = []) := by
    rw [Text.ofChars, List.isEmpty_map, Bool.eq_iff_iff, List.isEmpty_iff, dottedChars_eq_nil_iff,
      decide_eq_true_iff]
  rw [dotted, hempty, dottedChars_append_singleton, keyPart_ofChars]
  by_cases hkey : key = []
  · simp [hkey]
  · simp [hkey, Text.ofChars, Text.ofString]

theorem headerText_ofChars (item : Bool) (key : List (List Char)) :
    headerText item (.ofChars (dottedChars key)) =
      .ofChars (if item then '[' :: '[' :: (dottedChars key ++ [']', ']']) ++ ['\n']
        else '[' :: (dottedChars key ++ [']']) ++ ['\n']) := by
  cases item <;> simp [headerText, Text.ofChars, Text.ofString]

theorem text_opening {item : Bool} (h : (opening (.ofChars (dottedChars key)) item inner).fault = none)
    (hheaded : isHeaded (.ofChars (dottedChars key)) item inner) :
    (lines (plainOf inner)).fault = none ∧
      (opening (.ofChars (dottedChars key)) item inner).text =
        (if item then '[' :: '[' :: (dottedChars key ++ [']', ']']) ++ ['\n']
          else '[' :: (dottedChars key ++ [']']) ++ ['\n']) ++ (lines (plainOf inner)).text := by
  have heq := opening_eq h
  rw [if_pos hheaded, headerText_ofChars, Printout.ofText_ofChars] at heq
  rw [heq] at h ⊢
  exact ⟨(Printout.fault_andThen h).2.1, rfl⟩

theorem hasHalf_of_headed {item : Bool} (h : (opening name item members).fault = none)
    (hheaded : isHeaded name item members) : name.hasHalf = false := by
  rw [opening_eq h, if_pos hheaded] at h
  obtain ⟨chars, hchars, -⟩ := Printout.exists_of_fault_ofText (Printout.fault_andThen h).1
  have hwhole : (headerText item name).hasHalf = false := hchars ▸ Text.hasHalf_ofChars chars
  cases item <;> simp only [headerText, Bool.false_eq_true, ↓reduceIte, Text.hasHalf_append,
    Bool.or_eq_false_iff] at hwhole <;> exact hwhole.1.2

theorem fault_entering {start : Printout} (h : (entering room start).fault = none) :
    entering room start = start := by
  unfold entering at h ⊢
  split at h
  · cases h
  · next hroom => rw [if_neg hroom]

-- A table without a header of its own has members, and all of them stand in sections.
theorem not_isHeaded (hname : name ≠ []) (h : isHeaded name false members = false) :
    plainOf members = [] ∧ members ≠ [] := by
  simpa [isHeaded, hname] using h

theorem keyPart_ne_nil (name : Text) : keyPart name ≠ [] := by
  unfold keyPart
  split
  · next h =>
    rintro rfl
    cases h
  · simp [quotedText, Text.ofString, Text.ofChars]

theorem dotted_ne_nil (name part : Text) : dotted name part ≠ [] := by
  unfold dotted
  split
  · exact keyPart_ne_nil part
  · exact List.append_ne_nil_of_right_ne_nil _ (keyPart_ne_nil part)

-- The section of a table, with the sections inside it.
def tableSection (room : Nat) (name : Text) (item printed : Bool) (inner : Dict Value) : Printout :=
  let start := entering room (opening name item inner)
  ((gap printed).andThen start).andThen (sections (room - 1) name (!start.text.isEmpty) inner)

theorem tableSection_of_fault {item printed : Bool} {inner : Dict Value} {rest : Printout}
    (h : ((tableSection room name item printed inner).andThen rest).fault = none) :
    let start := opening name item inner
    let own := sections (room - 1) name (!start.text.isEmpty) inner
    start.fault = none ∧ own.fault = none ∧ rest.fault = none ∧
      ((tableSection room name item printed inner).andThen rest).text =
        (gap printed).text ++ (start.text ++ own.text) ++ rest.text := by
  intro start own
  rw [tableSection] at h ⊢
  obtain ⟨hown, hrest, htext⟩ := Printout.fault_andThen h
  obtain ⟨hstart, hinner, hownText⟩ := Printout.fault_andThen hown
  obtain ⟨-, hentering, hstartText⟩ := Printout.fault_andThen hstart
  have hsame := fault_entering hentering
  rw [hsame] at hentering hinner
  refine ⟨hentering, hinner, hrest, ?_⟩
  rw [htext, hownText, hstartText, hsame]
  simp only [start, own, List.append_assoc]

theorem sections_table_of_fault {printed : Bool} {part : Text} {inner : Dict Value}
    (h : (sections room name printed ((part, .table inner) :: members)).fault = none) :
    let start := opening (dotted name part) false inner
    let own := sections (room - 1) (dotted name part) (!start.text.isEmpty) inner
    start.fault = none ∧ own.fault = none ∧ (sections room name true members).fault = none ∧
      (sections room name printed ((part, .table inner) :: members)).text =
        (gap printed).text ++ (start.text ++ own.text) ++ (sections room name true members).text := by
  rw [sections] at h ⊢
  exact tableSection_of_fault h

theorem itemSections_table_of_fault {printed : Bool} {inner : Dict Value} {items : List Value}
    (h : (itemSections room name printed (.table inner :: items)).fault = none) :
    let start := opening name true inner
    let own := sections (room - 1) name (!start.text.isEmpty) inner
    start.fault = none ∧ own.fault = none ∧ (itemSections room name true items).fault = none ∧
      (itemSections room name printed (.table inner :: items)).text =
        (gap printed).text ++ (start.text ++ own.text) ++ (itemSections room name true items).text := by
  rw [itemSections] at h ⊢
  exact tableSection_of_fault h

theorem sections_of_own_list {items : List Value} (h : isOwn (.list items)) (room : Nat) (name : Text)
    (printed : Bool) (part : Text) (members : Dict Value) :
    sections room name printed ((part, .list items) :: members) =
      (itemSections room (dotted name part) printed items).andThen
        (sections room name true members) := by
  rw [sections, isSection_eq_ok_true_iff.mpr h]

theorem sections_of_plain (h : isOwn value = false) (room : Nat) (name : Text) (printed : Bool)
    (part : Text) (members : Dict Value) :
    sections room name printed ((part, value) :: members) = sections room name printed members := by
  cases value with
  | table inner => simp [isOwn_table] at h
  | list items =>
    rw [sections]
    split
    · next hown => simp [isSection_eq_ok_true_iff.mp hown] at h
    · rfl
  | _ => rw [sections] <;> simp

-- A list that stands in sections holds tables only, and at least one.
theorem exists_tables_of_isOwn {items : List Value} (h : isOwn (.list items)) :
    ∃ first others, items = .table first :: others ∧ ∀ item ∈ items, isTable item := by
  have hsection := isSection_eq_ok_true_iff.mpr h
  rw [isSection] at hsection
  split at hsection
  · next htables =>
    obtain ⟨hne, htables⟩ : items ≠ [] ∧ ∀ item ∈ items, isTable item := by simpa using htables
    obtain ⟨item, others, rfl⟩ := List.exists_cons_of_ne_nil hne
    have hitem := htables item List.mem_cons_self
    cases item <;> first | exact ⟨_, _, rfl, htables⟩ | cases hitem
  · cases hsection

-- A member that is printed in sections has no half in its name, nor has the table it stands in. By
-- induction on the members: where a table has no header, sections inside it have.
theorem hasHalf_of_sections : (members : List (Text × Value)) → ∀ {room name printed},
    (sections room name printed members).fault = none →
      ∀ member ∈ members, isOwn member.2 → (dotted name member.1).hasHalf = false
  | [], _, _, _, _ => List.forall_mem_nil _
  | (part, .table inner) :: members, room, name, printed, h => by
    obtain ⟨hstart, hown, hmembers, -⟩ := sections_table_of_fault h
    refine List.forall_mem_cons.mpr ⟨fun _ => ?_, hasHalf_of_sections members hmembers⟩
    cases hheaded : isHeaded (dotted name part) false inner with
    | true => exact hasHalf_of_headed hstart hheaded
    | false =>
      obtain ⟨hplain, hne⟩ := not_isHeaded (dotted_ne_nil name part) hheaded
      obtain ⟨member, hmember⟩ := List.exists_mem_of_ne_nil inner hne
      have hown' : isOwn member.2 := by
        by_contra hown
        exact List.not_mem_nil (hplain ▸ mem_plainOf.mpr ⟨hmember, by simpa using hown⟩)
      have hinner := hasHalf_of_sections inner hown member hmember hown'
      rw [hasHalf_dotted, Bool.or_eq_false_iff] at hinner
      exact hinner.1
  | (part, .list items) :: members, room, name, printed, h => by
    cases hown : isOwn (.list items) with
    | true =>
      rw [sections_of_own_list hown] at h
      obtain ⟨hitems, hmembers, -⟩ := Printout.fault_andThen h
      refine List.forall_mem_cons.mpr ⟨fun _ => ?_, hasHalf_of_sections members hmembers⟩
      obtain ⟨first, others, rfl, -⟩ := exists_tables_of_isOwn hown
      exact hasHalf_of_headed (itemSections_table_of_fault hitems).1 rfl
    | false =>
      rw [sections_of_plain hown] at h
      exact List.forall_mem_cons.mpr
        ⟨fun h => absurd h (by simp [hown]), hasHalf_of_sections members h⟩
  | (_, .null) :: members, _, _, _, h | (_, .bool _) :: members, _, _, _, h
  | (_, .int _) :: members, _, _, _, h | (_, .double _) :: members, _, _, _, h
  | (_, .text _) :: members, _, _, _, h | (_, .moment _) :: members, _, _, _, h => by
    rw [sections_of_plain rfl] at h
    exact List.forall_mem_cons.mpr ⟨nofun, hasHalf_of_sections members h⟩

end CommandCompletion.Toml
