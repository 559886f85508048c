import Mathlib
import CommandCompletion.Proofs.Data.Alike
import CommandCompletion.Proofs.Toml.Printing

namespace CommandCompletion

namespace Toml

mutual

-- The members of a table that are printed in sections, each as it is read from there: in a table
-- the plain members come first.
def ownSections : List (Text × Value) → Dict Value
  | [] => []
  | (part, .table inner) :: members =>
    (part, .table (plainOf inner ++ ownSections inner)) :: ownSections members
  | (part, .list items) :: members =>
    if isOwn (.list items) then
      (part, .list ((arrangedItems items).map .table)) :: ownSections members
    else ownSections members
  | _ :: members => ownSections members

def arrangedItems : List Value → List (Dict Value)
  | [] => []
  | .table inner :: items => (plainOf inner ++ ownSections inner) :: arrangedItems items
  | _ :: items => arrangedItems items

end

-- A document as it is read from its print.
def arranged (members : Dict Value) : Dict Value :=
  plainOf members ++ ownSections members

end Toml

namespace Value

open Toml (arrangedItems)

variable {value : Value}

theorem alikeItems_self {items : List Value} (h : ∀ item ∈ items, alike item item) :
    alikeItems items items := by
  induction items with
  | nil => rfl
  | cons item items ih =>
    obtain ⟨hitem, hitems⟩ := List.forall_mem_cons.mp h
    rw [alikeItems, hitem, ih hitems]
    rfl

theorem IsStorable.alike_self (storable : value.IsStorable) : alike value value := by
  induction storable with
  | bool | int | text => simp [alike]
  | list _ ih => rw [alike, alikeItems_self ih]
  | table distinct _ ih =>
    refine (alike_table_iff distinct).mpr ⟨.refl _, fun name a hget => ⟨a, hget, ?_⟩⟩
    exact ih _ (Dict.mem_of_get? hget)

-- A value that is printed in sections, as it is read from there.
def arranged : Value → Value
  | .table inner => .table (Toml.arranged inner)
  | .list items => .list ((arrangedItems items).map .table)
  | value => value

end Value

namespace Toml

variable {members : Dict Value} {value : Value}

theorem ownSections_of_plain (h : isOwn value = false) (part : Text) (members : Dict Value) :
    ownSections ((part, value) :: members) = ownSections members := by
  cases value with
  | table inner => simp [isOwn_table] at h
  | list items => simp [ownSections, h]
  | _ => rw [ownSections] <;> nofun

theorem keys_ownSections (members : Dict Value) :
    (ownSections members).keys = Dict.keys (members.filter (isOwn ·.2)) := by
  induction members with
  | nil => simp [ownSections]
  | cons member members ih =>
    obtain ⟨part, value⟩ := member
    cases hown : isOwn value with
    | false => rw [ownSections_of_plain hown, ih, List.filter_cons_of_neg (by simp [hown])]
    | true =>
      cases value with
      | table inner => simpa [ownSections, Dict.keys, hown] using ih
      | list items => simpa [ownSections, Dict.keys, hown] using ih
      | _ => cases hown

theorem keys_arranged_perm (members : Dict Value) : (arranged members).keys.Perm members.keys := by
  have hkeys : (arranged members).keys =
      Dict.keys (members.filter (!isOwn ·.2) ++ members.filter (isOwn ·.2)) := by
    have hown := keys_ownSections members
    simp only [Dict.keys] at hown
    simp only [arranged, plainOf, Dict.keys, List.map_append, hown]
  rw [hkeys]
  exact (List.perm_append_comm.trans (List.filter_append_perm _ members)).map Prod.fst


theorem mem_arrangedItems {items : List Value} {item : Dict Value} (h : item ∈ arrangedItems items) :
    ∃ inner, .table inner ∈ items ∧ item = arranged inner := by
  induction items with
  | nil => simp [arrangedItems] at h
  | cons first items ih =>
    cases first with
    | table inner =>
      rw [arrangedItems] at h
      rcases List.mem_cons.mp h with rfl | h
      · exact ⟨inner, List.mem_cons_self, rfl⟩
      · exact (ih h).imp fun _ => And.imp_left (List.mem_cons_of_mem _)
    | _ =>
      rw [arrangedItems] at h
      · exact (ih h).imp fun _ => And.imp_left (List.mem_cons_of_mem _)
      · nofun

theorem mem_ownSections {name : Text} (h : (name, value) ∈ ownSections members) :
    ∃ printed, (name, printed) ∈ members ∧ isOwn printed ∧ value = printed.arranged := by
  induction members with
  | nil => simp [ownSections] at h
  | cons member members ih =>
    obtain ⟨part, printed⟩ := member
    cases hown : isOwn printed with
    | false =>
      rw [ownSections_of_plain hown] at h
      exact (ih h).imp fun _ => And.imp_left (List.mem_cons_of_mem _)
    | true =>
      have hcons : ownSections ((part, printed) :: members) =
          (part, printed.arranged) :: ownSections members := by
        cases printed with
        | table inner => rw [ownSections]; rfl
        | list items => rw [ownSections, if_pos hown]; rfl
        | _ => cases hown
      rw [hcons] at h
      rcases List.mem_cons.mp h with heq | h
      · cases heq
        exact ⟨printed, List.mem_cons_self, hown, rfl⟩
      · exact (ih h).imp fun _ => And.imp_left (List.mem_cons_of_mem _)

theorem distinct_arranged (distinct : members.Distinct) : (arranged members).Distinct :=
  (keys_arranged_perm members).nodup_iff.mpr distinct

theorem alikeItems_arrangedItems {items : List Value} (htables : ∀ item ∈ items, isTable item)
    (h : ∀ item ∈ items, isOwn item → Value.alike item.arranged item) :
    Value.alikeItems ((arrangedItems items).map .table) items := by
  induction items with
  | nil => simp [arrangedItems, Value.alikeItems]
  | cons item items ih =>
    obtain ⟨hitem, hitems⟩ := List.forall_mem_cons.mp h
    obtain ⟨htable, hothers⟩ := List.forall_mem_cons.mp htables
    cases item with
    | table inner =>
      have hinner : Value.alike (.table (arranged inner)) (.table inner) := hitem (isOwn_table inner)
      rw [arrangedItems, List.map_cons, Value.alikeItems, ih hothers hitems, Bool.and_true]
      exact hinner
    | _ => cases htable

theorem alike_table_arranged (storable : (Value.table members).IsStorable)
    (h : ∀ member ∈ members, isOwn member.2 → Value.alike member.2.arranged member.2) :
    Value.alike (.table (arranged members)) (.table members) := by
  cases storable with
  | table distinct storable =>
    refine (Value.alike_table_iff (distinct_arranged distinct)).mpr
      ⟨keys_arranged_perm members, fun name value hget => ?_⟩
    rcases List.mem_append.mp (Dict.mem_of_get? hget) with hplain | hread
    · have hmember := (mem_plainOf.mp hplain).1
      exact ⟨value, Dict.get?_of_mem distinct hmember, (storable _ hmember).alike_self⟩
    · obtain ⟨printed, hmember, hown, rfl⟩ := mem_ownSections hread
      exact ⟨printed, Dict.get?_of_mem distinct hmember, h _ hmember hown⟩

-- What is read from sections is what was printed, but for the order of members.
theorem alike_arranged (storable : value.IsStorable) (hown : isOwn value) :
    Value.alike value.arranged value := by
  induction storable with
  | bool | int | text => cases hown
  | list _ ih =>
    obtain ⟨first, others, rfl, htables⟩ := exists_tables_of_isOwn hown
    exact alikeItems_arrangedItems htables ih
  | table distinct storable ih => exact alike_table_arranged (.table distinct storable) ih

end Toml

end CommandCompletion
