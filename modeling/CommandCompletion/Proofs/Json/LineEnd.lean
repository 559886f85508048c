import CommandCompletion.Proofs.Json.Decoded
import CommandCompletion.Text.LineEnd

namespace CommandCompletion

theorem Text.unifyLineEnds_of_notMem {text : List Char} (h : '\r' ∉ text) :
    unifyLineEnds text = text := by
  induction text with
  | nil => rfl
  | cons c text ih =>
    rw [List.mem_cons, not_or] at h
    rw [unifyLineEnds.eq_3 _ _ (fun _ hc => absurd hc.symm h.1) fun hc => absurd hc.symm h.1,
      ih h.2]

namespace Json

variable {v : Value} {after : List Char} {indent : Nat}

theorem return_notMem_unitEscape (unit : Nat) : '\r' ∉ unitEscape unit := by
  have hhex : '\r' ∉ Text.hex 4 unit := fun h =>
    absurd (Text.mem_hexDigits_of_mem_hex h) (by decide)
  simp [unitEscape, hhex]

theorem return_notMem_escapedChar (c : Char) : '\r' ∉ escapedChar c := by
  by_cases hc : c = '\r'
  · subst hc
    decide
  · have hunits (unit : Nat) := return_notMem_unitEscape unit
    unfold escapedChar
    split_ifs <;> simp [hunits, Ne.symm hc]

theorem return_notMem_quotedText (text : Text) : '\r' ∉ quotedText text := by
  have hescaped (c : CodePoint) : '\r' ∉ escaped c := by
    cases c with
    | char c => exact return_notMem_escapedChar c
    | _ => exact return_notMem_unitEscape _
  simp [quotedText, hescaped]

theorem return_notMem_newline (indent : Nat) : '\r' ∉ newline indent := by
  simp [newline]

theorem return_notMem_toString (n : Int) : '\r' ∉ (toString n).toList := by
  have hdigits : '\r' ∉ Nat.toDigits 10 n.natAbs := fun h =>
    absurd (isDigit_of_mem_toDigits h) (by decide)
  rw [toList_toString]
  unfold signed
  split <;> simp [hdigits]

mutual

-- Lines of a document end with a line feed alone.
theorem return_notMem_printBefore (after : List Char) (indent : Nat) : (v : Value) →
    v.hasDouble = false → '\r' ∉ after → '\r' ∉ printBefore after indent v
  | .null, _, h | .bool true, _, h | .bool false, _, h => by simp [printBefore, h]
  | .list [], _, h | .table [], _, h => by simp [printBefore, h]
  | .int n, _, h => by
    rw [printBefore, List.mem_append, not_or]
    exact ⟨return_notMem_toString n, h⟩
  | .text s, _, h => by simp [printBefore, return_notMem_quotedText, h]
  | .moment m, _, h => by simp [printBefore, return_notMem_quotedText, h]
  | .list (item :: items), exact, h => by
    rw [Value.hasDouble, Value.anyDouble, Bool.or_eq_false_iff] at exact
    have hend : '\r' ∉ newline indent ++ ']' :: after := by simp [return_notMem_newline, h]
    have hitem := return_notMem_printBefore _ (indent + 1) item exact.1
      (return_notMem_printItemsBefore _ (indent + 1) items exact.2 hend)
    simp [printBefore, return_notMem_newline, hitem]
  | .table ((name, value) :: members), exact, h => by
    rw [Value.hasDouble, Value.memberDouble, Bool.or_eq_false_iff] at exact
    have hend : '\r' ∉ newline indent ++ '\x7d' :: after := by simp [return_notMem_newline, h]
    have hvalue := return_notMem_printBefore _ (indent + 1) value exact.1
      (return_notMem_printMembersBefore _ (indent + 1) members exact.2 hend)
    simp [printBefore, return_notMem_newline, return_notMem_quotedText, hvalue]

theorem return_notMem_printItemsBefore (after : List Char) (indent : Nat) :
    (items : List Value) → Value.anyDouble items = false → '\r' ∉ after →
      '\r' ∉ printItemsBefore after indent items
  | [], _, h => h
  | item :: items, exact, h => by
    rw [Value.anyDouble, Bool.or_eq_false_iff] at exact
    have hitem := return_notMem_printBefore _ indent item exact.1
      (return_notMem_printItemsBefore after indent items exact.2 h)
    simp [printItemsBefore, return_notMem_newline, hitem]

theorem return_notMem_printMembersBefore (after : List Char) (indent : Nat) :
    (members : List (Text × Value)) → Value.memberDouble members = false → '\r' ∉ after →
      '\r' ∉ printMembersBefore after indent members
  | [], _, h => h
  | (name, value) :: members, exact, h => by
    rw [Value.memberDouble, Bool.or_eq_false_iff] at exact
    have hvalue := return_notMem_printBefore _ indent value exact.1
      (return_notMem_printMembersBefore after indent members exact.2 h)
    simp [printMembersBefore, return_notMem_newline, return_notMem_quotedText, hvalue]

end

-- What is written into a file is what is read from it, whatever becomes of its line ends.
theorem unifyLineEnds_write (exact : v.hasDouble = false) :
    Text.unifyLineEnds (write v).toList = print v := by
  rw [write, String.toList_ofList]
  exact Text.unifyLineEnds_of_notMem (return_notMem_printBefore [] 0 v exact List.not_mem_nil)

end Json

end CommandCompletion
