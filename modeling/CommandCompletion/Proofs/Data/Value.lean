import CommandCompletion.Data.Value

namespace CommandCompletion.Value

mutual

-- Whether two values are the same, member by member.
def same : Value → Value → Bool
  | null, null => true
  | bool a, bool b => a = b
  | int a, int b => a = b
  | double a, double b => a = b
  | text a, text b => a = b
  | moment a, moment b => a = b
  | list a, list b => sameItems a b
  | table a, table b => sameMembers a b
  | _, _ => false

def sameItems : List Value → List Value → Bool
  | [], [] => true
  | a :: as, b :: bs => same a b && sameItems as bs
  | _, _ => false

def sameMembers : List (Text × Value) → List (Text × Value) → Bool
  | [], [] => true
  | (name, a) :: as, (other, b) :: bs => name = other && same a b && sameMembers as bs
  | _, _ => false

end

mutual

theorem eq_of_same : (a b : Value) → same a b = true → a = b
  | null, b, h | bool _, b, h | int _, b, h | double _, b, h | text _, b, h | moment _, b, h => by
    cases b <;> simp_all [same]
  | list as, b, h => by
    cases b <;> simp only [same, Bool.false_eq_true] at h
    rw [eq_of_sameItems as _ h]
  | table as, b, h => by
    cases b <;> simp only [same, Bool.false_eq_true] at h
    rw [eq_of_sameMembers as _ h]

theorem eq_of_sameItems : (as bs : List Value) → sameItems as bs = true → as = bs
  | [], bs, h => by
    cases bs <;> simp_all [sameItems]
  | a :: as, bs, h => by
    cases bs with
    | nil => simp [sameItems] at h
    | cons b bs =>
      obtain ⟨ha, has⟩ := Bool.and_eq_true_iff.mp (by rwa [sameItems] at h)
      rw [eq_of_same a b ha, eq_of_sameItems as bs has]

theorem eq_of_sameMembers : (as bs : List (Text × Value)) → sameMembers as bs = true → as = bs
  | [], bs, h => by
    cases bs <;> simp_all [sameMembers]
  | (name, a) :: as, bs, h => by
    cases bs with
    | nil => simp [sameMembers] at h
    | cons head bs =>
      obtain ⟨other, b⟩ := head
      simp only [sameMembers, Bool.and_eq_true, decide_eq_true_eq] at h
      rw [h.1.1, eq_of_same a b h.1.2, eq_of_sameMembers as bs h.2]

end

mutual

theorem same_self : (a : Value) → same a a = true
  | null | bool _ | int _ | double _ | text _ | moment _ => by simp [same]
  | list as => by rw [same, sameItems_self as]
  | table as => by rw [same, sameMembers_self as]

theorem sameItems_self : (as : List Value) → sameItems as as = true
  | [] => rfl
  | a :: as => by rw [sameItems, same_self a, sameItems_self as]; rfl

theorem sameMembers_self : (as : List (Text × Value)) → sameMembers as as = true
  | [] => rfl
  | (name, a) :: as => by rw [sameMembers, same_self a, sameMembers_self as]; simp

end

instance : DecidableEq Value := fun a b =>
  decidable_of_iff (same a b = true) ⟨eq_of_same a b, fun h => h ▸ same_self a⟩

end CommandCompletion.Value
