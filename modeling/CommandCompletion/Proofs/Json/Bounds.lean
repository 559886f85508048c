import CommandCompletion.Json.Reader
import Mathlib.Data.List.Infix
import Mathlib.Data.List.TakeWhile

namespace CommandCompletion.Json

-- How many lists and tables begin in a text, and at most begin one inside the other.
def openings (text : List Char) : Nat :=
  text.countP fun c => c = '[' || c = '\x7b'

-- More digits stand in a row than a whole number may have.
def HasLongRun (text : List Char) : Prop :=
  ∃ run, run <:+: text ∧ (∀ c ∈ run, isDigit c) ∧ Text.maxDigits < run.length

variable {α β : Type} {room : Nat} {text tail rest : List Char}

theorem openings_le (h : tail <:+ text) : openings tail ≤ openings text :=
  h.sublist.countP_le

theorem HasLongRun.mono (h : tail <:+ text) (long : HasLongRun tail) : HasLongRun text := by
  obtain ⟨run, hrun, digits, many⟩ := long
  exact ⟨run, hrun.trans h.isInfix, digits, many⟩

theorem HasLongRun.maxDigits_lt (long : HasLongRun text) : Text.maxDigits < text.length := by
  obtain ⟨run, hrun, -, many⟩ := long
  exact many.trans_le hrun.length_le

-- What follows a piece that was read is an end of the text. A piece is refused for its depth or
-- for a long number only where the text has that many brackets or digits.
def Fair (room : Nat) (text : List Char) : Except Stop (α × List Char) → Prop
  | .ok (_, rest) => rest <:+ text
  | .error .tooDeep => room < openings text
  | .error .longNumber => HasLongRun text
  | .error (.malformed _ _) => True

theorem Fair.mono {result : Except Stop (α × List Char)} (fair : Fair room tail result)
    (h : tail <:+ text) : Fair room text result := by
  rcases result with (_ | _ | _) | ⟨_, rest⟩
  · trivial
  · exact HasLongRun.mono h fair
  · exact fair.trans_le (openings_le h)
  · exact List.IsSuffix.trans fair h

theorem Fair.map {result : Except Stop (α × List Char)} (fair : Fair room text result)
    (f : α → β) : Fair room text (result.map fun (a, rest) => (f a, rest)) := by
  rcases result with (_ | _ | _) | _ <;> exact fair

theorem Fair.bind {result : Except Stop (α × List Char)}
    {next : α × List Char → Except Stop (β × List Char)} (fair : Fair room text result)
    (h : ∀ a rest, rest <:+ text → Fair room text (next (a, rest))) :
    Fair room text (result >>= next) := by
  rcases result with (_ | _ | _) | ⟨a, rest⟩
  · trivial
  · exact fair
  · exact fair
  · exact h a rest fair

-- What is read behind an opening bracket has less room.
theorem Fair.inside {result : Except Stop (α × List Char)} {c : Char}
    (hc : openings [c] = 1) (fair : Fair (room - 1) tail result)
    (h : tail <:+ rest) : Fair room (c :: rest) result := by
  rcases result with (_ | _ | _) | ⟨a, rest⟩
  · trivial
  · exact HasLongRun.mono (h.trans (List.suffix_cons c _)) fair
  · have inner : room - 1 < openings tail := fair
    have outer := openings_le h
    have split : openings (c :: rest) = openings rest + openings [c] := by
      simp [openings, List.countP_cons]
    show room < openings (c :: rest)
    omega
  · exact List.IsSuffix.trans fair (h.trans (List.suffix_cons c _))

theorem skipGap_suffix (text : List Char) : skipGap text <:+ text :=
  List.dropWhile_suffix _

theorem scanUnits_fair (opening text : List Char) : Fair room text (scanUnits opening text) := by
  fun_induction scanUnits opening text with
  | case1 => trivial
  | case2 rest => exact List.suffix_cons _ _
  | case3 => trivial
  | case4 => trivial
  | case5 a b c d e more unit _ ih =>
    exact (ih.map _).mono ⟨['\\', 'u', a, b, c, d], rfl⟩
  | case6 => trivial
  | case7 => trivial
  | case8 c rest _ e _ ih => exact (ih.map _).mono ⟨['\\', c], rfl⟩
  | case9 => trivial
  | case10 c rest _ _ _ _ _ ih => exact (ih.map _).mono (List.suffix_cons _ _)

theorem scanText_fair (text : List Char) : Fair room text (scanText text) :=
  (scanUnits_fair _ text).map joinUnits

theorem scanFraction_suffix (text : List Char) : (scanFraction text).2 <:+ text := by
  unfold scanFraction
  split
  · dsimp only
    split
    · exact List.suffix_refl _
    · exact (List.dropWhile_suffix _).trans (List.suffix_cons _ _)
  · exact List.suffix_refl _

theorem scanExponent_suffix (text : List Char) : (scanExponent text).2 <:+ text := by
  unfold scanExponent
  split
  · next c tail =>
    split
    · split
      next start hsign =>
        have hstart : start <:+ tail := by
          split at hsign <;> cases hsign
          · exact List.suffix_cons _ _
          · exact List.suffix_cons _ _
          · exact List.suffix_refl _
        dsimp only
        split
        · exact List.suffix_refl _
        · exact ((List.dropWhile_suffix _).trans hstart).trans (List.suffix_cons _ _)
    · exact List.suffix_refl _
  · exact List.suffix_refl _

-- The digits of a whole number stand together where it starts.
theorem wholeDigits {start whole : List Char}
    (h : (match start with
      | '0' :: _ => ['0']
      | _ => start.takeWhile isDigit) = whole) :
    whole <+: start ∧ ∀ c ∈ whole, isDigit c := by
  split at h <;> subst h
  · exact ⟨⟨_, rfl⟩, List.forall_mem_singleton.mpr rfl⟩
  · exact ⟨List.takeWhile_prefix _, fun _ => List.mem_takeWhile_imp⟩

theorem scanNumber_fair (text : List Char) : Fair room text (scanNumber text) := by
  unfold scanNumber
  split
  next start hsign =>
    have hstart : start <:+ text := by
      split at hsign <;> cases hsign
      · exact List.suffix_cons _ _
      · exact List.suffix_refl _
    extract_lets whole
    obtain ⟨front, digits⟩ : whole <+: start ∧ ∀ c ∈ whole, isDigit c := wholeDigits rfl
    clear_value whole
    have hrest : (scanExponent (scanFraction (start.drop whole.length)).2).2 <:+ text :=
      (scanExponent_suffix _).trans
        ((scanFraction_suffix _).trans ((List.drop_suffix _ _).trans hstart))
    dsimp only
    split
    · trivial
    · split
      · split
        · next many => exact ⟨whole, front.isInfix.trans hstart.isInfix, digits, many⟩
        · exact hrest
      · exact hrest

theorem scanWord_fair (text : List Char) : Fair room text (scanWord text) := by
  unfold scanWord
  split
  · exact List.drop_suffix _ _
  · exact scanNumber_fair text

-- A bracket opens where there is no room left.
theorem room_lt_openings {c : Char} (hc : openings [c] = 1) (hroom : room = 0) (rest : List Char) :
    room < openings (c :: rest) := by
  have split : openings (c :: rest) = openings rest + openings [c] := by
    simp [openings, List.countP_cons]
  omega

-- What stands behind a gap and a sign.
theorem suffix_of_skipGap {c : Char} (hgap : skipGap rest = c :: tail) : tail <:+ rest :=
  (List.suffix_cons c tail).trans (hgap ▸ skipGap_suffix rest)

-- What one more step of fuel reads, with any room: only an opening bracket takes from it.
section

variable {fuel : Nat} (hvalue : ∀ room text, Fair room text (scanValue room fuel text))
  (hitems : ∀ room text, Fair room text (scanItems room fuel text))
  (hmembers : ∀ room text, Fair room text (scanMembers room fuel text))

include hitems hmembers in
theorem scanValue_succ_fair (room : Nat) (text : List Char) :
    Fair room text (scanValue room (fuel + 1) text) := by
  unfold scanValue
  split
  · next rest => exact ((scanText_fair rest).map _).mono (List.suffix_cons _ _)
  · next rest =>
    split
    · next hroom => exact room_lt_openings rfl hroom rest
    · split
      · next hgap => exact (suffix_of_skipGap hgap).trans (List.suffix_cons _ _)
      · exact ((hmembers _ _).map (Value.table <| Dict.ofList ·)).inside rfl (skipGap_suffix rest)
  · next rest =>
    split
    · next hroom => exact room_lt_openings rfl hroom rest
    · split
      · next hgap => exact (suffix_of_skipGap hgap).trans (List.suffix_cons _ _)
      · exact ((hitems _ _).map Value.list).inside rfl (skipGap_suffix rest)
  · exact scanWord_fair text

include hvalue hitems in
theorem scanItems_succ_fair (room : Nat) (text : List Char) :
    Fair room text (scanItems room (fuel + 1) text) := by
  unfold scanItems
  refine (hvalue room text).bind fun item rest hrest => ?_
  dsimp only
  split
  · next hgap => exact (suffix_of_skipGap hgap).trans hrest
  · next more hgap =>
    have hmore : skipGap more <:+ text :=
      (skipGap_suffix more).trans ((suffix_of_skipGap hgap).trans hrest)
    exact ((hitems room _).mono hmore).bind fun items rest hrest => hrest
  · trivial

include hvalue hmembers in
theorem scanMembers_succ_fair (room : Nat) (text : List Char) :
    Fair room text (scanMembers room (fuel + 1) text) := by
  unfold scanMembers
  split
  · next start =>
    refine ((scanText_fair start).bind fun name rest hrest => ?_).mono (List.suffix_cons _ _)
    dsimp only
    split
    · next behind hgap =>
      have hbehind : skipGap behind <:+ start :=
        (skipGap_suffix behind).trans ((suffix_of_skipGap hgap).trans hrest)
      refine ((hvalue room _).mono hbehind).bind fun value rest hrest => ?_
      dsimp only
      split
      · next hgap => exact (suffix_of_skipGap hgap).trans hrest
      · next more hgap =>
        have hmore : skipGap more <:+ start :=
          (skipGap_suffix more).trans ((suffix_of_skipGap hgap).trans hrest)
        exact ((hmembers room _).mono hmore).bind fun members rest hrest => hrest
      · trivial
    · trivial
  · trivial

end

theorem scan_fair (fuel : Nat) :
    (∀ room text, Fair room text (scanValue room fuel text)) ∧
    (∀ room text, Fair room text (scanItems room fuel text)) ∧
    (∀ room text, Fair room text (scanMembers room fuel text)) := by
  induction fuel with
  | zero => exact ⟨fun _ _ => trivial, fun _ _ => trivial, fun _ _ => trivial⟩
  | succ fuel ih =>
    obtain ⟨ihValue, ihItems, ihMembers⟩ := ih
    exact ⟨scanValue_succ_fair ihItems ihMembers, scanItems_succ_fair ihValue ihItems,
      scanMembers_succ_fair ihValue ihMembers⟩

-- A document is refused for its depth or for a long number only if it has that many brackets or
-- digits.
theorem scanDocument_eq_error {stop : Stop} (h : scanDocument room text = .error stop) :
    (stop = .tooDeep → room < openings text) ∧ (stop = .longNumber → HasLongRun text) := by
  have fair : Fair room text (scanValue room (2 * text.length + 2) (skipGap text)) :=
    ((scan_fair _).1 _ _).mono (skipGap_suffix text)
  unfold scanDocument at h
  split at h
  · cases h
    exact ⟨nofun, nofun⟩
  · revert h fair
    rcases scanValue room (2 * text.length + 2) (skipGap text) with found | ⟨value, rest⟩
    · intro fair h
      cases h
      constructor <;> rintro rfl <;> exact fair
    · intro _ h
      simp only [bind, Except.bind] at h
      split at h <;> cases h
      exact ⟨nofun, nofun⟩

theorem maxDepth_lt_of_read (h : read text = .error .tooDeep) : maxDepth < openings text := by
  unfold read readWithin at h
  split at h <;> cases h
  next hscan => exact (scanDocument_eq_error hscan).1 rfl

theorem hasLongRun_of_read (h : read text = .error .longNumber) : HasLongRun text := by
  unfold read readWithin at h
  split at h <;> cases h
  next hscan => exact (scanDocument_eq_error hscan).2 rfl

end CommandCompletion.Json
