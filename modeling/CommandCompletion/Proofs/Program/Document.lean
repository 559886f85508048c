import CommandCompletion.Proofs.Program.Commands
import CommandCompletion.Proofs.Program.Request
import CommandCompletion.Proofs.Report.Shown
import CommandCompletion.Proofs.Settings.Run

namespace CommandCompletion

theorem Value.echo_ofString (s : String) : (Value.text s).echo = .text s := by
  rw [echo, Json.rejoined_of_isJoined (Text.isJoined_ofString s)]

namespace Report

-- What is sent is one document, which holds this value.
def Prints (o : Output) (v : Value) : Prop :=
  ∃ text, o.on .out = .ofChars text ∧ Json.read text = .ok v

theorem Prints.unique {o : Output} {v v' : Value} (h : Prints o v) (h' : Prints o v') : v = v' := by
  obtain ⟨text, htext, hread⟩ := h
  obtain ⟨text', htext', hread'⟩ := h'
  have hsame : text.map CodePoint.char = text'.map .char := htext.symm.trans htext'
  obtain rfl : text = text' := List.map_injective_iff.mpr (fun _ _ => CodePoint.char.inj) hsame
  exact Except.ok.inj (hread.symm.trans hread')

theorem not_prints_nil {v : Value} : ¬Prints [] v := by
  rintro ⟨text, htext, hread⟩
  obtain rfl : text = [] := List.map_eq_nil_iff.mp htext.symm
  have hstopped : (Json.read []).isOk = false := by decide
  rw [hread] at hstopped
  cases hstopped

-- A document can be read unless it holds what is not written or lies too deep.
theorem prints_document {v : Value} (hlong : v.hasLong = false) (hdepth : v.depth ≤ Json.maxDepth) :
    Prints (document v) v.echo := by
  refine ⟨Json.print v ++ ['\n'], ?_, Json.read_print_append hlong hdepth ?_⟩
  · simp [document_eq, Output.on]
  · exact List.forall_mem_singleton.mpr (by decide)

theorem prints_success {d : Value} (hlong : d.hasLong = false) (hdepth : d.depth < Json.maxDepth) :
    Prints (success d) (.table [("status", .text "success"), ("data", d.echo)]) := by
  have hlimit : 1 < Json.maxDepth := by decide
  have distinct : (["status", "data"] : List Text).Nodup := by decide
  have hecho : (Value.table [("status", .text "success"), ("data", d)]).echo =
      .table [("status", .text "success"), ("data", d.echo)] := by
    refine (Value.echo_table (by exact distinct) (by simp [Text.isJoined_ofString])).trans ?_
    simp only [List.map_cons, List.map_nil, Value.echo_ofString]
  rw [← hecho]
  refine prints_document ?_ ?_
  · simp [Value.hasLong, Value.memberLong, hlong]
  · simp only [Value.depth, Value.depthOfMembers]
    omega

theorem prints_failure (message : Text) : Prints (failure message 1)
    (.table [("status", .text "error"),
      ("error", .table [("message", .text message.rejoined), ("code", .int 1)])]) := by
  have hone : Value.isLongNumber 1 = false :=
    Value.isLongNumber_of_lt (by decide : Int.natAbs 1 < Nat.pow 10 1) (by decide)
  have distinct : (["status", "error"] : List Text).Nodup := by decide
  have distinct' : (["message", "code"] : List Text).Nodup := by decide
  have hecho : (Value.table [("status", .text "error"),
      ("error", .table [("message", .text message), ("code", .int 1)])]).echo =
      .table [("status", .text "error"),
        ("error", .table [("message", .text message.rejoined), ("code", .int 1)])] := by
    have hinner : (Value.table [("message", .text message), ("code", .int 1)]).echo =
        .table [("message", .text message.rejoined), ("code", .int 1)] :=
      Value.echo_table (by exact distinct') (by simp [Text.isJoined_ofString])
    refine (Value.echo_table (by exact distinct) (by simp [Text.isJoined_ofString])).trans ?_
    simp only [List.map_cons, List.map_nil, Value.echo_ofString, hinner]
  rw [← hecho]
  refine prints_document ?_ ?_
  · simp [Value.hasLong, Value.memberLong, hone]
  · simp +decide [Value.depth, Value.depthOfMembers]

end Report

namespace Program

variable {α : Type} {mode : Mode} {c : Choices} {r : Request} {w : World} {v : Value}

theorem yields_document {done : Unit → World → Prop} {stopped : Stop → World → Prop} :
    Yields (report (.ok (Report.document v))) w done stopped ↔
      done () { w with output := w.output ++ Report.document v } := by
  have whole := Text.hasHalf_ofChars (Json.print v ++ ['\n'])
  rw [Report.document_eq]
  simp [report, write, List.forM, send, whole, Text.ofString_spelled_ofChars]

theorem sent_document (v : Value) : sent (Report.document v) = Report.document v := by
  simp [sent, Report.document_eq, Text.ofString_spelled_ofChars]

-- The data that answers a request in some world.
inductive Answers (c : Choices) (w : World) : Request → Value → Prop
  | complete {line : Text} {set : CommandSet} {w' : World} {cs : List Candidate}
    (commands : (commandSet c).run w = .ok set w') (completed : set.complete line = .ok cs) :
    Answers c w (.complete line) (.list (cs.map (·.toValue)))
  | parse {line : Text} {set : CommandSet} {w' : World} {parse : Parse set.grammar}
    (commands : (commandSet c).run w = .ok set w') (parsed : set.parse line = .ok parse) :
    Answers c w (.parse line) (parse.toValue line)
  | tree {path : Path} {depth : Nat} {set : CommandSet} {w' : World}
    {spot target : set.grammar.Spot} (commands : (commandSet c).run w = .ok set w')
    (found : set.grammar.find path = .ok (some spot)) (resolved : spot.resolve = .ok target)
    (fits : target.node.depth ≤ Node.maxDepth) :
    Answers c w (.tree path depth) target.node.toValue
  | configShow {settings : Dict Value} {s : Store} (loaded : Settings.load w.store = (.ok settings, s))
    (short : (Value.table settings).hasLong = false)
    (fits : (Value.table settings).depth < Json.maxDepth) :
    Answers c w .configShow (.table settings)
  | configSet {key raw : Text} {settings : Dict Value} {s : Store} {value : Value}
    (changed : Settings.set w.store key raw = (.ok settings, s))
    (accepted : Settings.accepted? key raw = some value) :
    Answers c w (.configSet key raw) (.table [(key, value)])
  | configPath {path : FilePath} {s : Store} (made : Settings.configPath w.store = (.ok path, s)) :
    Answers c w .configPath (.table [("path", .text path.text)])

variable {d : Value}

-- Every answer can be printed.
theorem Answers.isPrintable (h : Answers c w r d) :
    d.hasLong = false ∧ d.depth < Json.maxDepth := by
  have hlimit : 4 < Json.maxDepth ∧ 2 * Node.maxDepth + 1 < Json.maxDepth := by decide
  cases h with
  | @complete line set w' cs commands completed =>
    have decoded := (isDecoded_of_commandSet commands).complete completed
    refine ⟨(Value.IsDecoded.list (List.forall_mem_map.mpr fun c hc => (decoded c hc).toValue)).hasLong, ?_⟩
    have hitems : Value.depthOfItems (cs.map (·.toValue)) ≤ 3 :=
      Value.depthOfItems_le_iff.mpr (List.forall_mem_map.mpr fun c _ => c.depth_toValue_le)
    rw [Value.depth]
    omega
  | @parse line _ _ parse =>
    have := parse.depth_toValue_le line
    exact ⟨parse.hasLong_toValue line, by omega⟩
  | @tree _ _ _ _ _ target commands _ _ fits =>
    have decoded : target.node.IsDecoded :=
      (isDecoded_of_commandSet commands).grammar.lookup target.located
    have := decoded.depth_toValue_le
    exact ⟨decoded.toValue.hasLong, by omega⟩
  | configShow _ short fits => exact ⟨short, fits⟩
  | @configSet _ _ _ _ value _ accepted =>
    have simple := (Settings.accepted_sound accepted).2.1
    cases value with
    | text | bool =>
      refine ⟨rfl, ?_⟩
      simp only [Value.depth, Value.depthOfMembers]
      omega
    | _ => cases simple
  | configPath =>
    refine ⟨rfl, ?_⟩
    simp only [Value.depth, Value.depthOfMembers]
    omega

-- The answers about a line come back from a document as they are.
theorem Answers.echo_eq (h : Answers c w r d) {line : Text}
    (about : r = .complete line ∨ r = .parse line ∧ line.IsJoined) : d.echo = d := by
  cases h with
  | @complete _ _ _ cs commands completed =>
    have decoded := (isDecoded_of_commandSet commands).complete completed
    refine Value.IsDecoded.echo_eq
      (.list (List.forall_mem_map.mpr fun c hc => (decoded c hc).toValue)) ?_
    rw [Value.hasDouble, Value.anyDouble_eq_false_iff]
    exact List.forall_mem_map.mpr fun c _ => c.hasDouble_toValue
  | @parse _ _ _ parse commands parsed =>
    obtain ⟨⟨⟩⟩ | ⟨⟨⟩, joined⟩ := about
    exact (Parse.isDecoded_toValue (isDecoded_of_commandSet commands).grammar joined
      (CommandSet.isJoined_trimStart joined) parsed).echo_eq (parse.hasDouble_toValue line)
  | _ => obtain ⟨⟨⟩⟩ | ⟨⟨⟩, -⟩ := about

-- A step that ends with sending data that answers a request, unless it fails or crashes.
def Sends (mode : Mode) (x : Action Unit) (w : World) (p : Value → Prop) : Prop :=
  Yields x w (fun _ w' => ∃ d, p d ∧ w'.output = w.output ++ Report.success d)
    ((reportFrame mode).stopped w)

theorem Sends.bind {x : Action α} {f : α → Action Unit} {p : Value → Prop}
    (hx : (reportFrame mode).Keeps x)
    (hf : ∀ a w', x.run w = .ok a w' → Sends mode (f a) w' p) : Sends mode (x >>= f) w p := by
  refine yields_bind.mpr (((hx w).and (yields_run x w)).mono ?_ fun _ _ h => h.1)
  rintro a w' ⟨hkept, hrun⟩
  refine (hf a w' hrun).mono ?_ fun _ _ => (reportFrame mode).stopped_after hkept
  rintro _ w'' ⟨d, hd, hsent⟩
  exact ⟨d, hd, hsent.trans (congrArg (· ++ Report.success d) hkept)⟩

theorem Sends.log {records : List Record} {f : Unit → Action Unit} {p : Value → Prop}
    (hf : ∀ w', Sends mode (f ()) w' p) : Sends mode (log records >>= f) w p :=
  .bind (Frame.keeps_log _ _) fun _ w' _ => hf w'

theorem Sends.commandSet {f : CommandSet → Action Unit} {p : Value → Prop}
    (hf : ∀ set w₀ w', (commandSet c).run w = .ok set w₀ → Sends c.mode (f set) w' p) :
    Sends c.mode (commandSet c >>= f) w p :=
  .bind (Frame.keeps_commandSet _) fun set w' hset => hf set w' w' hset

theorem Sends.onGrammar {found : Except RedirectFault α} {f : α → Action Unit} {p : Value → Prop}
    (hf : ∀ a w', found = .ok a → Sends mode (f a) w' p) :
    Sends mode (onGrammar mode found >>= f) w p :=
  .bind (Frame.keeps_onGrammar _ _) fun a w' ha => hf a w' ((gives_onGrammar _).of_run ha)

theorem Sends.onSettings {operate : Store → Settings.Outcome α} {f : α → Action Unit}
    {p : Value → Prop}
    (hf : ∀ a s w', operate w.store = (.ok a, s) → Sends mode (f a) w' p) :
    Sends mode (onSettings mode operate >>= f) w p := by
  refine .bind (Frame.keeps_onSettings _ _) fun a w' ha => ?_
  obtain ⟨s, hoperate⟩ := operate_of_onSettings ha
  exact hf a s w' hoperate

theorem Sends.unless {q : Prop} [Decidable q] {crashed : Crash} {next : Unit → Action Unit}
    {p : Value → Prop} (h : ¬q → Sends mode (next ()) w p) :
    Sends mode (if q then crash crashed >>= next else next ()) w p := by
  refine yields_unless.mpr ?_
  split
  · trivial
  · next hq => exact h hq

theorem sends_fail {message : Text} {p : Value → Prop} :
    Sends mode (fail mode message) w p :=
  yields_bind.mpr <| ((reportFrame mode).failed w message).mono (fun _ _ h => h) fun _ _ h => h

theorem sends_report {made : Report} {p : Value → Prop}
    (hmade : made = .ok (Report.success d)) (hd : p d) : Sends mode (report made) w p := by
  subst hmade
  exact yields_document.mpr ⟨d, hd, rfl⟩

theorem sends_answer (json : c.mode = .json) (w : World) :
    Sends c.mode (answer c r) w (Answers c w r) := by
  cases r with
  | complete line =>
    refine .commandSet fun set _ _ hset => .log fun _ => .onGrammar fun cs _ hcs => ?_
    exact sends_report (by rw [json]; rfl) (.complete hset hcs)
  | parse line =>
    refine .commandSet fun set _ _ hset => .log fun _ => .onGrammar fun parse _ hparse => ?_
    exact sends_report (by rw [json]; rfl) (.parse hset hparse)
  | tree path depth =>
    refine .commandSet fun set _ _ hset => .log fun _ => .onGrammar fun found _ hfound => ?_
    cases found with
    | none => exact sends_fail
    | some spot =>
      refine .log fun _ => .onGrammar fun target _ htarget => .unless fun hfits => ?_
      simp only [json, Bool.and_eq_true, decide_eq_true_eq, not_and, not_lt] at hfits
      exact sends_report (by rw [json]; rfl) (.tree hset hfound htarget (hfits trivial))
  | configShow =>
    refine .onSettings fun settings s _ hload => .unless fun hshort => .unless fun hfits => ?_
    simp only [showsLong, json, Bool.not_eq_true] at hshort
    simp only [showsDeep, json, decide_eq_true_eq, not_le] at hfits
    exact sends_report (by rw [json]; rfl) (.configShow hload hshort hfits)
  | configSet key raw =>
    refine .onSettings fun settings s _ hset => ?_
    obtain ⟨value, haccepted, hvalue⟩ := Settings.get?_of_set hset
    have hreport {found : Option Value} (h : found = some value) :
        Report.setting .json key (found.getD .null) =
          .ok (Report.success (.table [(key, value)])) := by
      rw [h]
      rfl
    exact sends_report (by rw [json]; exact hreport hvalue) (.configSet hset haccepted)
  | configPath =>
    exact .onSettings fun path s _ hmade =>
      sends_report (by rw [json]; rfl) (.configPath hmade)

variable {s : Store} {words : List Text}

-- The data that answers a request once the level of the log is known.
def Replies (c : Choices) (s : Store) (r : Request) (d : Value) : Prop :=
  ∃ level w, (logLevel c).run { store := s } = .ok level w ∧ Answers c { w with level } r d

theorem sends_reply (json : c.mode = .json) : Sends c.mode (reply c r) { store := s } (Replies c s r) := by
  refine .bind (Frame.keeps_logLevel _) fun level w hlevel => .bind (fun _ => rfl) fun _ w' hw' => ?_
  obtain rfl : { w with level } = w' := by
    cases hw'
    rfl
  exact (sends_answer json _).mono
    (fun _ _ ⟨d, answers, sent⟩ => ⟨d, ⟨level, w, hlevel, answers⟩, sent⟩) fun _ _ h => h

end Program

end CommandCompletion
