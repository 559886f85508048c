import CommandCompletion.Grammar.Tree
import CommandCompletion.Proofs.Data.Result

namespace CommandCompletion

namespace Value

-- The values that stand for a truth value.
inductive Truth : Value → Bool → Prop
  | bool (b : Bool) : Truth (.bool b) b
  | zero : Truth (.int 0) false
  | one : Truth (.int 1) true
  | zeroDouble {d : Double} (h : d.isZero = true) : Truth (.double d) false
  | oneDouble : Truth (.double (Double.ofDecimal false 1 0)) true
  | no {s : Text} (h : s.asciiLower ∈ Node.falseWords) : Truth (.text s) false
  | yes {s : Text} (h : s.asciiLower ∈ Node.trueWords) : Truth (.text s) true

-- The values that name a path: the name of a child of the root, or a list of names.
inductive IsPath : Value → Path → Prop
  | name (s : Text) : IsPath (.text s) [s]
  | names (path : Path) : IsPath (.list (path.map .text)) path

-- What a member stands for that may be left out or null.
inductive Stands {α : Type} (meaning : Value → α → Prop) : Option Value → Option α → Prop
  | absent : Stands meaning none none
  | null : Stands meaning (some .null) none
  | given {value : Value} {a : α} (h : meaning value a) : Stands meaning (some value) (some a)

def IsText (value : Value) (s : Text) : Prop :=
  value = .text s

def IsTable (value : Value) (members : Dict Value) : Prop :=
  value = .table members

end Value

namespace Node

open Value (Truth IsPath Stands IsText IsTable)

-- The fields of a node, its children apart, are those that the members of its data give it. The
-- kind and the properties go by two names each.
structure Fields (members : Dict Value) (node : Node) : Prop where
  kind : (members.get? "type").or (members.get? "kind") = some (.text node.kind.name)
  executable : members.get? "executable" = none ∧ node.executable = false ∨
    ∃ value, members.get? "executable" = some value ∧ value.Truth node.executable
  redirect : Stands IsPath (members.get? "redirect") node.redirect
  parser : Stands IsText (members.get? "parser") node.parser
  properties : Stands IsTable
    ((members.get? "properties").or (members.get? "parser_properties")) node.properties

variable {members : Dict Value}

theorem eitherMember_cases (members : Dict Value) (first second : Text) :
    eitherMember members first second = none ∧
        (members.get? first).or (members.get? second) = none ∨
      ∃ name value, eitherMember members first second = some (name, value) ∧
        (members.get? first).or (members.get? second) = some value := by
  unfold eitherMember
  cases members.get? first with
  | some value => exact .inr ⟨first, value, rfl, rfl⟩
  | none =>
    cases members.get? second with
    | some value => exact .inr ⟨second, value, rfl, rfl⟩
    | none => exact .inl ⟨rfl, rfl⟩

theorem ofName?_eq_some_iff {name : Text} {kind : Kind} :
    Kind.ofName? name = some kind ↔ name = kind.name := by
  constructor
  · intro h
    have hname := List.find?_some h
    exact (of_decide_eq_true hname).symm
  · rintro rfl
    cases kind <;> rfl

theorem kindOf_eq_ok_iff {kind : Kind} : kindOf members = .ok kind ↔
    (members.get? "type").or (members.get? "kind") = some (.text kind.name) := by
  unfold kindOf
  rcases eitherMember_cases members "type" "kind" with ⟨hmember, hor⟩ | ⟨name, value, hmember, hor⟩
  · simp [hmember, hor, Checked.refuse]
  · rw [hmember, hor]
    cases value with
    | text s =>
      rw [Option.some_inj, Value.text.injEq, ← ofName?_eq_some_iff]
      cases hkind : Kind.ofName? s <;> simp [hkind, Checked.refuse]
    | _ => simp [Checked.refuse]

theorem notMem_falseWords {s : Text} (h : s ∈ trueWords) : s ∉ falseWords := by
  have apart : ∀ word ∈ trueWords, word ∉ falseWords := by decide
  exact apart s h

theorem truth_of_executableOf {executable : Bool} (h : executableOf members = .ok executable) :
    members.get? "executable" = none ∧ executable = false ∨
      ∃ value, members.get? "executable" = some value ∧ value.Truth executable := by
  simp only [executableOf, List.contains_eq_mem, decide_eq_true_eq] at h
  split at h
  · next hmember =>
    cases h
    exact .inl ⟨hmember, rfl⟩
  · next hmember =>
    cases h
    exact .inr ⟨_, hmember, .bool _⟩
  · next n hmember =>
    refine .inr ⟨_, hmember, ?_⟩
    split at h
    · next hzero =>
      cases h
      exact hzero ▸ .zero
    · split at h
      · next hone =>
        cases h
        exact hone ▸ .one
      · cases h
  · next d hmember =>
    refine .inr ⟨_, hmember, ?_⟩
    split at h
    · next hzero =>
      cases h
      exact .zeroDouble hzero
    · split at h
      · next hone =>
        cases h
        exact hone ▸ .oneDouble
      · cases h
  · next s hmember =>
    refine .inr ⟨_, hmember, ?_⟩
    split at h
    · next hyes =>
      cases h
      exact .yes hyes
    · split at h
      · next hno =>
        cases h
        exact .no hno
      · cases h
  · cases h

theorem executableOf_of_truth {value : Value} {executable : Bool}
    (hmember : members.get? "executable" = some value) (truth : value.Truth executable) :
    executableOf members = .ok executable := by
  simp only [executableOf, hmember, List.contains_eq_mem, decide_eq_true_eq]
  cases truth with
  | bool | zero | one => rfl
  | zeroDouble hzero => exact if_pos hzero
  | oneDouble => rfl
  | no hno => exact (if_neg fun hyes => notMem_falseWords hyes hno).trans (if_pos hno)
  | yes hyes => exact if_pos hyes

theorem executableOf_eq_ok_iff {executable : Bool} : executableOf members = .ok executable ↔
    members.get? "executable" = none ∧ executable = false ∨
      ∃ value, members.get? "executable" = some value ∧ value.Truth executable := by
  refine ⟨truth_of_executableOf, ?_⟩
  rintro (⟨hmember, rfl⟩ | ⟨value, hmember, truth⟩)
  · rw [executableOf, hmember]
  · exact executableOf_of_truth hmember truth

theorem namesFrom_eq_ok_iff {items : List Value} {names : List Text} {i : Nat} :
    namesFrom i items = .ok names ↔ items = names.map .text := by
  induction items generalizing names i with
  | nil => cases names <;> simp [namesFrom]
  | cons item items ih =>
    constructor
    · intro h
      unfold namesFrom at h
      split at h
      · next hothers =>
        cases h
        rw [ih.mp hothers, List.map_cons]
      · cases h
      · cases h
    · intro h
      cases names with
      | nil => cases h
      | cons name names =>
        obtain ⟨rfl, hitems⟩ := List.cons.inj h
        simp only [namesFrom, ih.mpr hitems]

theorem redirectOf_eq_ok_iff {redirect : Option Path} :
    redirectOf members = .ok redirect ↔ Stands IsPath (members.get? "redirect") redirect := by
  constructor
  · intro h
    unfold redirectOf at h
    split at h
    · next hmember =>
      cases h
      exact hmember ▸ .absent
    · next hmember =>
      cases h
      exact hmember ▸ .null
    · next s hmember =>
      cases h
      exact hmember ▸ .given (.name s)
    · next items hmember =>
      obtain ⟨names, hnames, rfl⟩ := map_eq_ok_iff.mp (within_eq_ok h)
      rw [hmember, namesFrom_eq_ok_iff.mp hnames]
      exact .given (.names names)
    · cases h
  · intro h
    generalize hmember : members.get? "redirect" = member at h
    cases h with
    | absent | null => rw [redirectOf, hmember]
    | given path =>
      cases path with
      | name s => rw [redirectOf, hmember]
      | names path =>
        simp only [redirectOf, hmember, namesFrom_eq_ok_iff.mpr rfl]
        rfl

theorem parserOf_eq_ok_iff {parser : Option Text} :
    parserOf members = .ok parser ↔ Stands IsText (members.get? "parser") parser := by
  constructor
  · intro h
    unfold parserOf at h
    split at h
    · next hmember =>
      cases h
      exact hmember ▸ .absent
    · next hmember =>
      cases h
      exact hmember ▸ .null
    · next s hmember =>
      cases h
      exact hmember ▸ .given rfl
    · cases h
  · intro h
    generalize hmember : members.get? "parser" = member at h
    cases h with
    | absent | null => rw [parserOf, hmember]
    | given text =>
      cases text
      rw [parserOf, hmember]

theorem propertiesOf_eq_ok_iff {properties : Option (Dict Value)} :
    propertiesOf members = .ok properties ↔ Stands IsTable
      ((members.get? "properties").or (members.get? "parser_properties")) properties := by
  unfold propertiesOf
  rcases eitherMember_cases members "properties" "parser_properties" with
    ⟨hmember, hor⟩ | ⟨name, value, hmember, hor⟩
  · rw [hmember, hor]
    refine ⟨fun h => ?_, fun h => ?_⟩
    · cases h
      exact .absent
    · cases h
      rfl
  · rw [hmember, hor]
    constructor
    · intro h
      cases value <;> cases h
      · exact .null
      · exact .given rfl
    · intro h
      cases h with
      | null => rfl
      | given table =>
        cases table
        rfl

end Node

end CommandCompletion
