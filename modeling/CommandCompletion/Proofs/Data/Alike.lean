import CommandCompletion.Proofs.Data.Dict
import CommandCompletion.Proofs.Data.Value

namespace CommandCompletion.Value

mutual

-- Whether two values are the same but for the order in which the members of tables stand.
def alike : Value → Value → Bool
  | list as, list bs => alikeItems as bs
  | table as, table bs => (as.map Prod.fst).isPerm (bs.map Prod.fst) && alikeMembers as bs
  | a, b => a = b

def alikeItems : List Value → List Value → Bool
  | [], [] => true
  | a :: as, b :: bs => alike a b && alikeItems as bs
  | _, _ => false

def alikeMembers : List (Text × Value) → List (Text × Value) → Bool
  | [], _ => true
  | (name, a) :: as, bs =>
    (match Dict.get? bs name with
      | some b => alike a b
      | none => false) && alikeMembers as bs

end

variable {as bs : List (Text × Value)} {a b : Value}

theorem alikeMembers_iff : alikeMembers as bs ↔
    ∀ member ∈ as, ∃ b, Dict.get? bs member.1 = some b ∧ alike member.2 b := by
  induction as with
  | nil => simp [alikeMembers]
  | cons member as ih =>
    obtain ⟨name, a⟩ := member
    rw [alikeMembers, Bool.and_eq_true, ih, List.forall_mem_cons]
    cases Dict.get? bs name <;> simp

-- Tables are alike if they have the same names, and what they hold under each name is alike.
theorem alike_table_iff (distinct : Dict.Distinct as) :
    alike (table as) (table bs) ↔ (Dict.keys as).Perm (Dict.keys bs) ∧
      ∀ name a, Dict.get? as name = some a → ∃ b, Dict.get? bs name = some b ∧ alike a b := by
  rw [alike, Bool.and_eq_true, List.isPerm_iff, alikeMembers_iff]
  refine and_congr_right fun _ => ⟨fun h name a hget => h _ (Dict.mem_of_get? hget), ?_⟩
  rintro h ⟨name, a⟩ hmember
  exact h name a (Dict.get?_of_mem distinct hmember)

theorem distinct_of_alike (h : alike (table as) (table bs)) (distinct : Dict.Distinct bs) :
    Dict.Distinct as := by
  rw [alike, Bool.and_eq_true, List.isPerm_iff] at h
  exact h.1.nodup_iff.mpr distinct

-- A table is alike to tables only.
theorem exists_table_of_alike (h : alike a (table bs)) : ∃ as, a = table as := by
  cases a <;> first | exact ⟨_, rfl⟩ | simp [alike] at h

theorem ne_table_of_alike (h : alike a b) (hb : ∀ bs, b ≠ table bs) (as : List (Text × Value)) :
    a ≠ table as := by
  rintro rfl
  cases b with
  | table bs => exact hb bs rfl
  | _ => simp [alike] at h

end CommandCompletion.Value
