import CommandCompletion.Grammar.Export
import CommandCompletion.Proofs.Json.Double
import CommandCompletion.Proofs.Json.Quoted

namespace CommandCompletion

namespace Value

mutual

-- The value that is read where one is printed: numbers and texts come back in the form that a
-- document has for them, and a moment as its text.
def echo : Value → Value
  | null => null
  | bool b => bool b
  | int n => int n
  | double d => double (Json.reread d)
  | text s => text s.rejoined
  | moment m => text m.text
  | list items => list (echoItems items)
  | table members => table (Dict.ofList (echoMembers members))

def echoItems : List Value → List Value
  | [] => []
  | item :: items => item.echo :: echoItems items

def echoMembers : List (Text × Value) → List (Text × Value)
  | [] => []
  | (name, value) :: rest => (name.rejoined, value.echo) :: echoMembers rest

end

end Value

namespace Json

variable {v : Value} {indent : Nat} {after behind text : List Char}

mutual

-- What follows a printed value is not changed.
theorem printBefore_append (after behind : List Char) (indent : Nat) : (v : Value) →
    printBefore (after ++ behind) indent v = printBefore after indent v ++ behind
  | .null | .bool true | .bool false | .list [] | .table [] => rfl
  | .int _ | .double _ | .text _ | .moment _ => (List.append_assoc ..).symm
  | .list (item :: items) => by
    rw [printBefore, printBefore, List.cons_append, List.append_assoc, ← printBefore_append,
      ← printItemsBefore_append, List.append_assoc, List.cons_append]
  | .table ((name, value) :: members) => by
    rw [printBefore, printBefore, List.cons_append, List.append_assoc, List.append_assoc,
      List.cons_append, List.cons_append, ← printBefore_append, ← printMembersBefore_append,
      List.append_assoc, List.cons_append]

theorem printItemsBefore_append (after behind : List Char) (indent : Nat) : (items : List Value) →
    printItemsBefore (after ++ behind) indent items =
      printItemsBefore after indent items ++ behind
  | [] => rfl
  | item :: items => by
    rw [printItemsBefore, printItemsBefore, List.cons_append, List.append_assoc,
      ← printBefore_append, ← printItemsBefore_append]

theorem printMembersBefore_append (after behind : List Char) (indent : Nat) :
    (members : List (Text × Value)) →
      printMembersBefore (after ++ behind) indent members =
        printMembersBefore after indent members ++ behind
  | [] => rfl
  | (name, value) :: members => by
    rw [printMembersBefore, printMembersBefore, List.cons_append, List.append_assoc,
      List.append_assoc, List.cons_append, List.cons_append, ← printBefore_append,
      ← printMembersBefore_append]

end

theorem toList_toString (n : Int) :
    (toString n).toList = signed (decide (n < 0)) (Nat.toDigits 10 n.natAbs) := by
  cases n with
  | ofNat n =>
    have hsign : decide (Int.ofNat n < 0) = false :=
      decide_eq_false (Int.not_lt.mpr (Int.natCast_nonneg n))
    rw [hsign]
    exact String.toList_ofList
  | negSucc n =>
    have hsign : decide (Int.negSucc n < 0) = true := decide_eq_true (Int.negSucc_lt_zero n)
    rw [hsign]
    show ("-" ++ String.ofList (Nat.toDigits 10 (n + 1))).toList = _
    simp only [String.toList_append, String.toList_ofList]
    rfl

-- How words and numbers begin.
def IsWordStart (c : Char) : Prop :=
  c ∈ ['n', 't', 'f', 'N', 'I', '-'] ∨ isDigit c

-- How values begin.
def IsStart (c : Char) : Prop :=
  c ∈ ['"', '[', '\x7b'] ∨ IsWordStart c

theorem exists_signed {digits : List Char} (negative : Bool) (h : IsWhole digits)
    (rest : List Char) : ∃ c others, signed negative digits ++ rest = c :: others ∧ IsWordStart c := by
  obtain ⟨c, others, he, hc⟩ := exists_signed_eq negative h rest
  exact ⟨c, others, he, hc.imp_left (by rintro rfl; decide)⟩

theorem exists_doubleText (d : Double) (rest : List Char) :
    ∃ c others, doubleText d ++ rest = c :: others ∧ IsWordStart c := by
  unfold doubleText
  split
  · exact ⟨'N', _, rfl, .inl (by decide)⟩
  split
  · split
    · exact ⟨'-', _, rfl, .inl (by decide)⟩
    · exact ⟨'I', _, rfl, .inl (by decide)⟩
  · next hnan hinfinite =>
    obtain ⟨parts, hparts⟩ := exists_decimal_text (by simpa using hnan) (by simpa using hinfinite)
    rw [hparts, parts.signed_text]
    exact exists_signed _ parts.isWhole _

theorem exists_printBefore (after : List Char) (indent : Nat) (v : Value) :
    ∃ c others, printBefore after indent v = c :: others ∧ IsStart c := by
  cases v with
  | null => exact ⟨'n', _, rfl, .inr (.inl (by decide))⟩
  | bool b =>
    cases b with
    | true => exact ⟨'t', _, rfl, .inr (.inl (by decide))⟩
    | false => exact ⟨'f', _, rfl, .inr (.inl (by decide))⟩
  | int n =>
    obtain ⟨c, others, he, hc⟩ := exists_signed (decide (n < 0)) (isWhole_toDigits n.natAbs) after
    exact ⟨c, others, by rw [printBefore, toList_toString, he], .inr hc⟩
  | double d =>
    obtain ⟨c, others, he, hc⟩ := exists_doubleText d after
    exact ⟨c, others, by rw [printBefore, he], .inr hc⟩
  | text s => exact ⟨'"', _, rfl, .inl (by decide)⟩
  | moment m => exact ⟨'"', _, rfl, .inl (by decide)⟩
  | list items => cases items <;> exact ⟨'[', _, rfl, .inl (by decide)⟩
  | table members => cases members <;> exact ⟨'\x7b', _, rfl, .inl (by decide)⟩

theorem IsWordStart.ne {c d : Char} (h : IsWordStart c)
    (hd : d ∉ ['n', 't', 'f', 'N', 'I', '-'] ∧ isDigit d = false) : c ≠ d := by
  rintro rfl
  rcases h with h | h
  · exact hd.1 h
  · rw [hd.2] at h
    cases h

theorem IsStart.ne {c d : Char} (h : IsStart c)
    (hd : d ∉ ['"', '[', '\x7b', 'n', 't', 'f', 'N', 'I', '-'] ∧ isDigit d = false) : c ≠ d := by
  rcases h with h | h
  · rintro rfl
    exact hd.1 (List.mem_append_left ['n', 't', 'f', 'N', 'I', '-'] h)
  · exact h.ne ⟨fun hmem => hd.1 (List.mem_append_right ['"', '[', '\x7b'] hmem), hd.2⟩

theorem IsStart.isGap {c : Char} (h : IsStart c) : isGap c = false := by
  simp [Json.isGap, h.ne (d := ' ') (by decide), h.ne (d := '\t') (by decide),
    h.ne (d := '\n') (by decide), h.ne (d := '\r') (by decide)]

-- A new line in front of a value is a gap.
theorem skipGap_newline {c : Char} (h : isGap c = false) (indent : Nat) (rest : List Char) :
    skipGap (newline indent ++ c :: rest) = c :: rest := by
  have hgap : ∀ c ∈ newline indent, Json.isGap c := by
    intro c hc
    rcases List.mem_cons.mp hc with rfl | hc
    · rfl
    · rw [List.eq_of_mem_replicate hc]
      rfl
  rw [skipGap, List.dropWhile_append_of_pos hgap, List.dropWhile_cons_of_neg (by simp [h])]

theorem skipGap_newline_printBefore (after : List Char) (outer indent : Nat) (v : Value) :
    skipGap (newline outer ++ printBefore after indent v) = printBefore after indent v := by
  obtain ⟨c, others, he, hc⟩ := exists_printBefore after indent v
  rw [he, skipGap_newline hc.isGap]

theorem length_printBefore (after : List Char) (indent : Nat) (v : Value) :
    after.length < (printBefore after indent v).length := by
  obtain ⟨c, others, he, -⟩ := exists_printBefore [] indent v
  have happend := printBefore_append [] after indent v
  rw [List.nil_append] at happend
  rw [happend, he, List.length_append, List.length_cons]
  omega

theorem endsNumber_newline (indent : Nat) (rest : List Char) :
    EndsNumber (newline indent ++ rest) := by
  rintro c hc
  obtain rfl : c = '\n' := (Option.some.inj hc).symm
  decide

theorem endsNumber_comma (rest : List Char) : EndsNumber (',' :: rest) := by
  rintro c hc
  obtain rfl : c = ',' := (Option.some.inj hc).symm
  decide

theorem scanWord_toString (n : Int) (h : Value.isLongNumber n = false) (hafter : EndsNumber after) :
    scanWord ((toString n).toList ++ after) = .ok (.int n, after) := by
  have hvalue : (if decide (n < 0) then -(n.natAbs : Int) else n.natAbs) = n := by
    simp only [decide_eq_true_eq]
    omega
  rw [toList_toString, scanWord_signed _ (isWhole_toDigits _),
    scanNumber_toDigits _ (length_toDigits_le h) hafter, hvalue]

-- What stands where a value begins with no quote and no bracket is a word or a number.
theorem scanValue_word {c : Char} (hc : IsWordStart c) (room fuel : Nat) (rest : List Char) :
    scanValue room (fuel + 1) (c :: rest) = scanWord (c :: rest) := by
  unfold scanValue
  split
  · next h => cases h; exact absurd rfl (hc.ne (d := '"') (by decide))
  · next h => cases h; exact absurd rfl (hc.ne (d := '\x7b') (by decide))
  · next h => cases h; exact absurd rfl (hc.ne (d := '[') (by decide))
  · rfl

theorem scanValue_quotedText (s : Text) (room fuel : Nat) (rest : List Char) :
    scanValue room (fuel + 1) (quotedText s ++ rest) = .ok (.text s.rejoined, rest) := by
  obtain ⟨others, he, hscan⟩ := scanText_quotedText s rest
  rw [he, scanValue, hscan]
  rfl

-- A value is read back wherever it is printed, if there is room for what stands inside it.
def ReadsBack (v : Value) : Prop :=
  ∀ ⦃room fuel indent : Nat⦄ ⦃after : List Char⦄, EndsNumber after → v.depth ≤ room →
    2 * (printBefore after indent v).length + 1 ≤ fuel →
    scanValue room fuel (printBefore after indent v) = .ok (v.echo, after)

variable {room fuel outer : Nat} {rest more : List Char} {value : Value} {name : Text}

theorem scanItems_last (hvalue : scanValue room fuel text = .ok (value, rest))
    (hgap : skipGap rest = ']' :: after) :
    scanItems room (fuel + 1) text = .ok ([value], after) := by
  rw [scanItems, hvalue]
  simp only [bind, Except.bind, hgap]

theorem scanItems_next {items : List Value} (hvalue : scanValue room fuel text = .ok (value, rest))
    (hgap : skipGap rest = ',' :: more)
    (hmore : scanItems room fuel (skipGap more) = .ok (items, after)) :
    scanItems room (fuel + 1) text = .ok (value :: items, after) := by
  rw [scanItems, hvalue]
  simp only [bind, Except.bind, hgap, hmore]

-- By induction on the other items: each of them has a comma in front, and the last one is followed
-- by the closing bracket.
theorem scanItems_print {items : List Value} (hitems : ∀ item ∈ items, ReadsBack item)
    (hroom : Value.depthOfItems items ≤ room) {item : Value} (hitem : ReadsBack item)
    (hdepth : item.depth ≤ room)
    (hfuel : 2 * (printBefore (printItemsBefore (newline outer ++ ']' :: after) indent items) indent
      item).length + 2 ≤ fuel) :
    scanItems room fuel
        (printBefore (printItemsBefore (newline outer ++ ']' :: after) indent items) indent item) =
      .ok (item.echo :: Value.echoItems items, after) := by
  induction items generalizing item fuel with
  | nil =>
    obtain ⟨fuel, rfl⟩ : ∃ f, fuel = f + 1 := ⟨fuel - 1, by omega⟩
    exact scanItems_last (hitem (endsNumber_newline _ _) hdepth (Nat.le_of_succ_le_succ hfuel))
      (skipGap_newline rfl _ _)
  | cons next items ih =>
    obtain ⟨fuel, rfl⟩ : ∃ f, fuel = f + 1 := ⟨fuel - 1, by omega⟩
    obtain ⟨hnext, hitems⟩ := List.forall_mem_cons.mp hitems
    obtain ⟨hnextDepth, hroom⟩ := Nat.max_le.mp hroom
    have hlength := length_printBefore
      (printItemsBefore (newline outer ++ ']' :: after) indent (next :: items)) indent item
    refine scanItems_next (hitem (endsNumber_comma _) hdepth (Nat.le_of_succ_le_succ hfuel)) rfl ?_
    rw [skipGap_newline_printBefore]
    refine ih hitems hroom hnext hnextDepth ?_
    simp only [printItemsBefore, List.length_cons, List.length_append] at hlength hfuel
    omega

theorem scanMembers_last (hstart : skipGap (' ' :: text) = text)
    (hvalue : scanValue room fuel text = .ok (value, rest)) (hgap : skipGap rest = '\x7d' :: after) :
    scanMembers room (fuel + 1) (quotedText name ++ ':' :: ' ' :: text) =
      .ok ([(name.rejoined, value)], after) := by
  obtain ⟨others, he, hname⟩ := scanText_quotedText name (':' :: ' ' :: text)
  rw [he, scanMembers, hname]
  have hcolon : skipGap (':' :: ' ' :: text) = ':' :: ' ' :: text := rfl
  simp only [bind, Except.bind, hcolon, hstart, hvalue, hgap]

theorem scanMembers_next {members : List (Text × Value)} (hstart : skipGap (' ' :: text) = text)
    (hvalue : scanValue room fuel text = .ok (value, rest)) (hgap : skipGap rest = ',' :: more)
    (hmore : scanMembers room fuel (skipGap more) = .ok (members, after)) :
    scanMembers room (fuel + 1) (quotedText name ++ ':' :: ' ' :: text) =
      .ok ((name.rejoined, value) :: members, after) := by
  obtain ⟨others, he, hname⟩ := scanText_quotedText name (':' :: ' ' :: text)
  rw [he, scanMembers, hname]
  have hcolon : skipGap (':' :: ' ' :: text) = ':' :: ' ' :: text := rfl
  simp only [bind, Except.bind, hcolon, hstart, hvalue, hgap, hmore]

theorem skipGap_newline_quotedText (name : Text) (outer : Nat) (rest : List Char) :
    skipGap (newline outer ++ (quotedText name ++ rest)) = quotedText name ++ rest :=
  skipGap_newline rfl outer _

theorem skipGap_space_printBefore (after : List Char) (indent : Nat) (v : Value) :
    skipGap (' ' :: printBefore after indent v) = printBefore after indent v := by
  obtain ⟨c, others, he, hc⟩ := exists_printBefore after indent v
  rw [he, skipGap, List.dropWhile_cons_of_pos rfl, List.dropWhile_cons_of_neg (by simp [hc.isGap])]

-- As with the items of a list.
theorem scanMembers_print {members : List (Text × Value)}
    (hmembers : ∀ pair ∈ members, ReadsBack pair.2)
    (hroom : Value.depthOfMembers members ≤ room) (hvalue : ReadsBack value)
    (hdepth : value.depth ≤ room)
    (hfuel : 2 * (quotedText name ++ ':' :: ' ' ::
      printBefore (printMembersBefore (newline outer ++ '\x7d' :: after) indent members) indent
        value).length + 2 ≤ fuel) :
    scanMembers room fuel (quotedText name ++ ':' :: ' ' ::
        printBefore (printMembersBefore (newline outer ++ '\x7d' :: after) indent members) indent
          value) =
      .ok ((name.rejoined, value.echo) :: Value.echoMembers members, after) := by
  rw [List.length_append, List.length_cons, List.length_cons] at hfuel
  induction members generalizing name value fuel with
  | nil =>
    obtain ⟨fuel, rfl⟩ : ∃ f, fuel = f + 1 := ⟨fuel - 1, by omega⟩
    exact scanMembers_last (skipGap_space_printBefore _ _ _)
      (hvalue (endsNumber_newline _ _) hdepth (by omega)) (skipGap_newline rfl _ _)
  | cons next members ih =>
    obtain ⟨nextName, next⟩ := next
    obtain ⟨fuel, rfl⟩ : ∃ f, fuel = f + 1 := ⟨fuel - 1, by omega⟩
    obtain ⟨hnext, hmembers⟩ := List.forall_mem_cons.mp hmembers
    obtain ⟨hnextDepth, hroom⟩ := Nat.max_le.mp hroom
    have hlength := length_printBefore
      (printMembersBefore (newline outer ++ '\x7d' :: after) indent ((nextName, next) :: members))
      indent value
    refine scanMembers_next (skipGap_space_printBefore _ _ _)
      (hvalue (endsNumber_comma _) hdepth (by omega)) rfl ?_
    rw [skipGap_newline_quotedText]
    refine ih hmembers hroom hnext hnextDepth ?_
    simp only [printMembersBefore, List.length_cons, List.length_append] at hlength hfuel
    omega

theorem scanValue_list {items : List Value} (hroom : room ≠ 0) (hopen : skipGap rest = text)
    (hclose : ∀ others, text ≠ ']' :: others)
    (hitems : scanItems (room - 1) fuel text = .ok (items, after)) :
    scanValue room (fuel + 1) ('[' :: rest) = .ok (.list items, after) := by
  rw [scanValue, if_neg hroom, hopen]
  split
  · exact absurd rfl (hclose _)
  · rw [hitems]
    rfl

theorem scanValue_table {members : List (Text × Value)} (hroom : room ≠ 0)
    (hopen : skipGap rest = text) (hclose : ∀ others, text ≠ '\x7d' :: others)
    (hmembers : scanMembers (room - 1) fuel text = .ok (members, after)) :
    scanValue room (fuel + 1) ('\x7b' :: rest) = .ok (.table (Dict.ofList members), after) := by
  rw [scanValue, if_neg hroom, hopen]
  split
  · exact absurd rfl (hclose _)
  · rw [hmembers]
    rfl

theorem readsBack_of_scanWord
    (hstart : ∀ indent after, ∃ c others, printBefore after indent v = c :: others ∧ IsWordStart c)
    (hscan : ∀ indent after, EndsNumber after →
      scanWord (printBefore after indent v) = .ok (v.echo, after)) : ReadsBack v := by
  intro room fuel indent after hafter _ hfuel
  obtain ⟨fuel, rfl⟩ : ∃ f, fuel = f + 1 := ⟨fuel - 1, by omega⟩
  obtain ⟨c, others, he, hc⟩ := hstart indent after
  have hread := hscan indent after hafter
  rw [he] at hread ⊢
  rw [scanValue_word hc, hread]

theorem readsBack_int {n : Int} (h : Value.isLongNumber n = false) : ReadsBack (.int n) := by
  refine readsBack_of_scanWord (fun indent after => ?_) fun indent after hafter => ?_
  · rw [printBefore, toList_toString]
    exact exists_signed _ (isWhole_toDigits _) after
  · rw [printBefore, scanWord_toString n h hafter, Value.echo]

theorem readsBack_double (d : Double) : ReadsBack (.double d) := by
  refine readsBack_of_scanWord (fun indent after => ?_) fun indent after hafter => ?_
  · rw [printBefore]
    exact exists_doubleText d after
  · rw [printBefore, scanWord_doubleText d hafter, Value.echo]

theorem readsBack_of_quotedText {s : Text}
    (hprint : ∀ indent after, printBefore after indent v = quotedText s ++ after)
    (hecho : v.echo = .text s.rejoined) : ReadsBack v := by
  intro room fuel indent after _ _ hfuel
  obtain ⟨fuel, rfl⟩ : ∃ f, fuel = f + 1 := ⟨fuel - 1, by omega⟩
  rw [hprint, scanValue_quotedText, hecho]

-- A list or table takes a step, and a part of the room from what stands inside it.
theorem readsBack_of_nested (hdeep : 0 < v.depth)
    (h : ∀ ⦃room fuel indent : Nat⦄ ⦃after : List Char⦄, v.depth ≤ room + 1 →
      2 * (printBefore after indent v).length ≤ fuel →
      scanValue (room + 1) (fuel + 1) (printBefore after indent v) = .ok (v.echo, after)) :
    ReadsBack v := by
  intro room fuel indent after _ hdepth hfuel
  obtain ⟨fuel, rfl⟩ : ∃ f, fuel = f + 1 := ⟨fuel - 1, by omega⟩
  obtain ⟨room, rfl⟩ : ∃ r, room = r + 1 := ⟨room - 1, by omega⟩
  exact h hdepth (Nat.le_of_succ_le_succ hfuel)

-- Behind its opening bracket, what a list or table holds is read.
theorem readsBack_list {items : List Value} (hitems : ∀ item ∈ items, ReadsBack item) :
    ReadsBack (.list items) := by
  refine readsBack_of_nested (Nat.succ_pos _) fun room fuel indent after hdepth hfuel => ?_
  cases items with
  | nil =>
    rw [printBefore, scanValue, if_neg (Nat.succ_ne_zero _)]
    rfl
  | cons item items =>
    obtain ⟨hitem, hitems⟩ := List.forall_mem_cons.mp hitems
    obtain ⟨hitemDepth, hroom⟩ := Nat.max_le.mp (Nat.le_of_succ_le_succ hdepth)
    refine scanValue_list (Nat.succ_ne_zero _) (skipGap_newline_printBefore _ _ _ _) ?_
      (scanItems_print hitems hroom hitem hitemDepth ?_)
    · intro others he
      obtain ⟨c, _, hstart, hc⟩ := exists_printBefore _ (indent + 1) item
      rw [hstart] at he
      exact hc.ne (by decide) (List.cons.inj he).1
    · rw [printBefore, List.length_cons, List.length_append] at hfuel
      omega

theorem readsBack_table {members : List (Text × Value)}
    (hmembers : ∀ pair ∈ members, ReadsBack pair.2) : ReadsBack (.table members) := by
  refine readsBack_of_nested (Nat.succ_pos _) fun room fuel indent after hdepth hfuel => ?_
  cases members with
  | nil =>
    rw [printBefore, scanValue, if_neg (Nat.succ_ne_zero _)]
    rfl
  | cons member members =>
    obtain ⟨name, value⟩ := member
    obtain ⟨hvalue, hmembers⟩ := List.forall_mem_cons.mp hmembers
    obtain ⟨hvalueDepth, hroom⟩ := Nat.max_le.mp (Nat.le_of_succ_le_succ hdepth)
    refine scanValue_table (Nat.succ_ne_zero _) (skipGap_newline_quotedText _ _ _) nofun
      (scanMembers_print hmembers hroom hvalue hvalueDepth ?_)
    rw [printBefore, List.length_cons, List.length_append] at hfuel
    omega

mutual

theorem readsBack : (v : Value) → v.hasLong = false → ReadsBack v
  | .null => fun _ =>
    readsBack_of_scanWord (fun _ _ => ⟨'n', _, rfl, .inl (by decide)⟩) fun _ _ _ => rfl
  | .bool true => fun _ =>
    readsBack_of_scanWord (fun _ _ => ⟨'t', _, rfl, .inl (by decide)⟩) fun _ _ _ => rfl
  | .bool false => fun _ =>
    readsBack_of_scanWord (fun _ _ => ⟨'f', _, rfl, .inl (by decide)⟩) fun _ _ _ => rfl
  | .int n => fun hlong => readsBack_int (by rwa [Value.hasLong] at hlong)
  | .double d => fun _ => readsBack_double d
  | .text _ => fun _ => readsBack_of_quotedText (fun _ _ => rfl) rfl
  | .moment m => fun _ =>
    readsBack_of_quotedText (fun _ _ => rfl) <| by
      rw [Value.echo, Text.ofString, rejoined_of_isJoined (isJoined_ofChars _)]
  | .list items => fun hlong =>
    readsBack_list (readsBack_items items (by rwa [Value.hasLong] at hlong))
  | .table members => fun hlong =>
    readsBack_table (readsBack_members members (by rwa [Value.hasLong] at hlong))

theorem readsBack_items : (items : List Value) → Value.anyLong items = false →
    ∀ item ∈ items, ReadsBack item
  | [] => fun _ => nofun
  | item :: items => fun hlong => by
    rw [Value.anyLong, Bool.or_eq_false_iff] at hlong
    obtain ⟨hitem, hitems⟩ := hlong
    exact List.forall_mem_cons.mpr ⟨readsBack item hitem, readsBack_items items hitems⟩

theorem readsBack_members : (members : List (Text × Value)) → Value.memberLong members = false →
    ∀ pair ∈ members, ReadsBack pair.2
  | [] => fun _ => nofun
  | (_, value) :: members => fun hlong => by
    rw [Value.memberLong, Bool.or_eq_false_iff] at hlong
    obtain ⟨hvalue, hmembers⟩ := hlong
    exact List.forall_mem_cons.mpr ⟨readsBack value hvalue, readsBack_members members hmembers⟩

end

theorem endsNumber_of_isGap {gap : List Char} (hgap : ∀ c ∈ gap, isGap c) : EndsNumber gap := by
  intro c hc
  have h := hgap c (List.mem_of_mem_head? hc)
  simp only [isGap, Bool.or_eq_true, decide_eq_true_eq] at h
  rcases h with ((rfl | rfl) | rfl) | rfl <;> decide

-- A printed document is read back, with any gap behind it.
theorem read_print_append {gap : List Char} (hlong : v.hasLong = false)
    (hdepth : v.depth ≤ maxDepth) (hgap : ∀ c ∈ gap, isGap c) :
    read (print v ++ gap) = .ok v.echo := by
  have happend : print v ++ gap = printBefore gap 0 v := by
    rw [print, ← printBefore_append, List.nil_append]
  obtain ⟨c, others, he, hc⟩ := exists_printBefore gap 0 v
  have hstart : skipGap (printBefore gap 0 v) = printBefore gap 0 v := by
    rw [he, skipGap, List.dropWhile_cons_of_neg (by simp [hc.isGap])]
  have hvalue : scanValue maxDepth (2 * (printBefore gap 0 v).length + 2) (printBefore gap 0 v) =
      .ok (v.echo, gap) :=
    readsBack v hlong (endsNumber_of_isGap hgap) hdepth (by omega)
  have hend : skipGap gap = [] := List.dropWhile_eq_nil_iff.mpr hgap
  have hscan : scanDocument maxDepth (printBefore gap 0 v) = .ok v.echo := by
    unfold scanDocument
    split
    · next hmark =>
      rw [he] at hmark
      exact absurd (List.cons.inj hmark).1 (hc.ne (by decide))
    · rw [hstart, hvalue]
      simp only [bind, Except.bind, hend]
  rw [happend, read, readWithin, hscan]

end Json

end CommandCompletion
