import CommandCompletion.Proofs.Loading
import CommandCompletion.Proofs.Program.Outcome
import CommandCompletion.Proofs.Sample

namespace CommandCompletion

namespace Loading

variable {s : Store} {path : Text}

theorem isDecoded_of_readJson {what : DataFile} {v : Value} (h : readJson s what path = .ok v) :
    v.IsDecoded := by
  cases hfile : (FilePath.ofText path).expandHome s.home? with
  | none =>
    rw [readJson, hfile] at h
    cases h
  | some file =>
    cases hhalf : path.hasHalf with
    | true =>
      simp only [readJson, hfile, hhalf] at h
      cases h
    | false =>
      rw [readJson_of_expandHome hfile hhalf] at h
      obtain ⟨text, -, hparse⟩ := bind_eq_ok_iff.mp h
      unfold parse at hparse
      split at hparse
      · next hread =>
        cases hparse
        exact Json.isDecoded_of_read hread
      all_goals cases hparse

theorem isDecoded_of_grammar {g : Grammar} (h : grammar s path = .ok g) : g.root.IsDecoded := by
  obtain ⟨data, hdata, hbuild⟩ := bind_eq_ok_iff.mp h
  split at hbuild
  · next hg =>
    cases hbuild
    exact Grammar.isDecoded_of_build (isDecoded_of_readJson hdata) hg
  · cases hbuild

theorem isDecoded_of_registries {r : Registries} (h : registries s path = .ok r) :
    r.IsDecoded := by
  obtain ⟨data, hdata, hvalue⟩ := bind_eq_ok_iff.mp h
  split at hvalue
  · next hr =>
    cases hvalue
    exact Registries.isDecoded_of_ofValue (isDecoded_of_readJson hdata) hr
  · cases hvalue

end Loading

namespace Program

variable {α β : Type} {mode : Mode} {w : World}

-- What holds of each result that a step can have.
def Gives (x : Action α) (p : α → Prop) : Prop :=
  ∀ w, Yields x w (fun a _ => p a) fun _ _ => True

theorem gives_pure {p : α → Prop} {a : α} (h : p a) : Gives (pure a) p :=
  fun _ => h

theorem gives_crash {p : α → Prop} (crashed : Crash) : Gives (crash crashed) p :=
  fun _ => trivial

theorem gives_true (x : Action α) : Gives x fun _ => True :=
  fun w => (yields_run x w).mono (fun _ _ _ => trivial) fun _ _ _ => trivial

theorem Gives.bind {x : Action β} {f : β → Action α} {q : β → Prop} {p : α → Prop}
    (hx : Gives x q) (hf : ∀ b, q b → Gives (f b) p) : Gives (x >>= f) p :=
  fun w => yields_bind.mpr ((hx w).mono (fun b w hb => hf b hb w) fun _ _ h => h)

theorem Gives.andThen {x : Action β} {f : β → Action α} {p : α → Prop}
    (hf : ∀ b, Gives (f b) p) : Gives (x >>= f) p :=
  (gives_true x).bind fun b _ => hf b

theorem Gives.of_run {x : Action α} {p : α → Prop} (h : Gives x p) {a : α} {w' : World}
    (hrun : x.run w = .ok a w') : p a :=
  (yields_of_run hrun).mp (h w)

theorem gives_fail (message : Text) {p : α → Prop} : Gives (fail mode message) p :=
  yields_fail message

theorem gives_onLoad (loaded : Except LoadFault α) :
    Gives (onLoad mode loaded) fun a => loaded = .ok a := by
  cases loaded with
  | ok a => exact gives_pure rfl
  | error fault =>
    unfold onLoad
    dsimp only
    split
    · exact gives_fail _
    · exact gives_crash _

theorem gives_onGrammar (found : Except RedirectFault α) :
    Gives (onGrammar mode found) fun a => found = .ok a := by
  cases found with
  | ok a => exact gives_pure rfl
  | error fault => exact gives_fail _

-- Data that is loaded is as the bundled data if every file that is read is.
theorem gives_loadData {load : Store → Text → Except LoadFault α} {p : α → Prop} {bundled : α}
    (hload : ∀ {s path a}, load s path = .ok a → p a) (hbundled : p bundled)
    (records : α → Text → List Record) (noted : List Record) (path : Option Value) :
    Gives (loadData mode load records bundled noted path) p := by
  unfold loadData
  split
  · exact .andThen fun _ => gives_pure hbundled
  · exact .andThen fun _ => (gives_onLoad _).bind fun a ha =>
      .andThen fun _ => gives_pure (hload ha)
  · exact gives_crash _

theorem gives_loadGrammar (path : Option Value) :
    Gives (loadGrammar mode path) fun g => g.root.IsDecoded :=
  loadGrammar_eq mode ▸ gives_loadData Loading.isDecoded_of_grammar Sample.isDecoded_grammar _ _ path

theorem gives_loadRegistries (path : Option Value) :
    Gives (loadRegistries mode path) Registries.IsDecoded :=
  loadRegistries_eq mode ▸
    gives_loadData Loading.isDecoded_of_registries Registries.isDecoded_sample _ _ path

-- Whatever is loaded was read from documents or is built in.
theorem gives_commandSet (c : Choices) : Gives (commandSet c) CommandSet.IsDecoded :=
  .andThen fun _ => .andThen fun _ => .andThen fun _ => (gives_loadGrammar _).bind fun _ hg =>
    (gives_loadRegistries _).bind fun _ hr => gives_pure ⟨hg, hr⟩

theorem isDecoded_of_commandSet {c : Choices} {set : CommandSet} {w' : World}
    (h : (commandSet c).run w = .ok set w') : set.IsDecoded :=
  (gives_commandSet c).of_run h

end Program

end CommandCompletion
