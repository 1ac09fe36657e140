import OverlayConfig.Proofs.Fields
import OverlayConfig.Proofs.Template.Names
import OverlayConfig.Template.Render
set_option autoImplicit false

namespace OverlayConfig.Template

open Parse

structure Outputs where
  slots : List (List Char × String)
  last : List Char

namespace Outputs

def text (fill : String → List Char) (o : Outputs) : List Char :=
  (o.slots.flatMap fun p => p.1 ++ fill p.2) ++ o.last

def tokens (o : Outputs) : List Token :=
  (o.slots.flatMap fun p => [.raw p.1, .outputStart, .word p.2, .outputEnd]) ++ [.raw o.last]

def parts (o : Outputs) : List Stmt :=
  (o.slots.flatMap fun p => [.raw p.1, .output (.variable p.2)]) ++ [.raw o.last]

def tokensIf (test : String) (o : Outputs) : List Token :=
  [.raw [], .blockStart, .word "if", .word test, .blockEnd] ++ o.tokens
    ++ [.blockStart, .word "endif", .blockEnd, .raw []]

def steps (o : Outputs) : Nat := 2 * o.slots.length + 1

theorem length_tokens (o : Outputs) : o.tokens.length = 4 * o.slots.length + 1 := by
  simp [tokens, List.length_flatMap, List.map_const', Nat.mul_comm]

end Outputs

section Parsing

variable {s t : ParseState} {stops : List String} {fuel : Nat} {ts : List Token} {parts : List Stmt}

theorem run_body_end (h : s.tokens = []) : (body (fuel + 1) stops).run s = .ok ([], s) := by
  rw [body, run_bind (run_peek?_end h)]
  rfl

theorem run_body_raw {cs : List Char} (h : s.tokens = .raw cs :: ts)
    (hrest : (body fuel stops).run s.tail = .ok (parts, t)) :
    (body (fuel + 1) stops).run s = .ok (.raw cs :: parts, t) := by
  rw [body, run_bind (run_peek? h nofun)]
  refine (run_bind run_skip _).trans ?_
  exact run_bind hrest _

theorem run_body_output {name : String}
    (h : s.tokens = .outputStart :: .word name :: .outputEnd :: ts) (hname : isName name = true) (hdepth : s.depth + 2 < maxNesting)
    (hrest : (body (fuel + 12) stops).run s.tail.tail.tail = .ok (parts, t)) :
    (body (fuel + 13) stops).run s = .ok (.output (.variable name) :: parts, t) := by
  have hexpression := run_expression_name (s := s.tail) (tail_tokens h) rfl hname hdepth fuel
  rw [body, run_bind (run_peek? h nofun)]
  refine (run_bind run_skip _).trans ?_
  refine (run_bind hexpression _).trans ?_
  refine (run_bind (run_expect (tail_tokens (tail_tokens h)) nofun) _).trans ?_
  exact run_bind hrest _

def ParseState.at (s : ParseState) (ts : List Token) : ParseState := { s with tokens := ts }

theorem run_body_slots (slots : List (List Char × String))
    (hnames : ∀ p ∈ slots, isName p.2 = true) (hdepth : s.depth + 2 < maxNesting)
    (hrest : (body (fuel + 12) stops).run (s.at ts) = .ok (parts, t)) :
    (body (2 * slots.length + fuel + 12) stops).run (s.at
      ((slots.flatMap fun p => [.raw p.1, .outputStart, .word p.2, .outputEnd]) ++ ts)) =
      .ok ((slots.flatMap fun p => [.raw p.1, .output (.variable p.2)]) ++ parts, t) := by
  induction slots with
  | nil => simpa using hrest
  | cons p slots ih =>
    have hinner := ih fun q hq => hnames q (List.mem_cons_of_mem _ hq)
    have hfuel : 2 * (p :: slots).length + fuel + 12 = 2 * slots.length + fuel + 12 + 1 + 1 := by
      simp only [List.length_cons]
      omega
    rw [hfuel]
    exact run_body_raw rfl (run_body_output rfl (hnames p List.mem_cons_self) hdepth hinner)

theorem run_body_outputs {o : Outputs} (hnames : ∀ p ∈ o.slots, isName p.2 = true)
    (hdepth : s.depth + 2 < maxNesting)
    (hrest : (body (fuel + 12) stops).run (s.at ts) = .ok ([], t)) :
    (body (o.steps + fuel + 12) stops).run (s.at (o.tokens ++ ts)) = .ok (o.parts, t) := by
  have hlast : (body (fuel + 1 + 12) stops).run (s.at (.raw o.last :: ts)) =
      .ok ([.raw o.last], t) := run_body_raw rfl hrest
  rw [Outputs.steps, Nat.add_assoc _ 1, Nat.add_comm 1, Outputs.tokens, Outputs.parts,
    List.append_assoc]
  exact run_body_slots o.slots hnames hdepth hlast

theorem parse_outputs {cs : List Char} {o : Outputs} (hnames : ∀ p ∈ o.slots, isName p.2 = true)
    (h : tokens cs = o.tokens) : parse cs = .ok ⟨o.parts, []⟩ := by
  let s : ParseState := ⟨o.tokens, 0, [], [], false, false⟩
  obtain ⟨fuel, hfuel⟩ : ∃ fuel, 24 * o.tokens.length + 24 = o.steps + fuel + 12 := by
    refine ⟨24 * o.tokens.length + 12 - o.steps, ?_⟩
    rw [Outputs.length_tokens, Outputs.steps]
    omega
  have hend : (body (fuel + 12) []).run (s.at []) = .ok ([], s.at []) := run_body_end rfl
  have hbody := run_body_outputs hnames (by decide : 0 + 2 < maxNesting) hend
  rw [List.append_nil] at hbody
  rw [parse, h, hfuel]
  exact congrArg (· >>= fun p => Except.ok (⟨p.1, p.2.blocks⟩ : Document)) hbody

theorem run_body_endif (h : s.tokens = .blockStart :: .word "endif" :: ts) :
    (body (fuel + 1) ["endif", "else", "elif"]).run s = .ok ([], s.tail) := by
  rw [body, run_bind (run_peek? h nofun)]
  refine (run_bind run_skip _).trans ?_
  refine (run_bind (run_peek? (tail_tokens h) nofun) _).trans ?_
  rfl

theorem run_conditional {test : String} {o : Outputs} (hnames : ∀ p ∈ o.slots, isName p.2 = true)
    (htest : isName test = true) (hdepth : s.depth + 2 < maxNesting) :
    (conditional (o.steps + fuel + 13)).run (s.at (.word test :: .blockEnd ::
      (o.tokens ++ .blockStart :: .word "endif" :: ts))) =
      .ok (.conditional (.variable test) o.parts [], s.at ts) := by
  have hend : (body (fuel + 12) ["endif", "else", "elif"]).run
      (s.at (.blockStart :: .word "endif" :: ts)) = .ok ([], s.at (.word "endif" :: ts)) :=
    run_body_endif rfl
  have hbody := run_body_outputs hnames hdepth hend
  rw [conditional]
  have hdisjunction := run_disjunction_name (s := s.at (.word test :: .blockEnd ::
    (o.tokens ++ .blockStart :: .word "endif" :: ts))) rfl rfl htest (Nat.lt_of_succ_lt hdepth)
    (o.steps + fuel + 2)
  refine (run_bind hdisjunction _).trans ?_
  refine (run_bind (run_expect (x := .blockEnd) rfl nofun) _).trans ?_
  refine (run_bind hbody _).trans ?_
  have helse : Token.word "endif" ≠ .word "else" := by decide
  have helif : Token.word "endif" ≠ .word "elif" := by decide
  refine (run_bind (run_accept_of_ne (x := .word "endif") rfl nofun helse) _).trans ?_
  refine (run_bind (run_accept_of_ne (x := .word "endif") rfl nofun helif) _).trans ?_
  refine (run_bind (run_expect (x := .word "endif") rfl nofun) _).trans ?_
  rfl

theorem run_body_if {test : String} {o : Outputs} (hnames : ∀ p ∈ o.slots, isName p.2 = true)
    (htest : isName test = true) (hdepth : s.depth + 3 < maxNesting)
    (hrest : (body (o.steps + fuel + 14) []).run (s.at ts) = .ok (parts, t)) :
    (body (o.steps + fuel + 15) []).run
      (s.at (.blockStart :: .word "if" :: .word test :: .blockEnd ::
        (o.tokens ++ .blockStart :: .word "endif" :: .blockEnd :: ts))) =
      .ok (.conditional (.variable test) o.parts [] :: parts, t) := by
  let inside : ParseState := s.at (.word test :: .blockEnd ::
    (o.tokens ++ .blockStart :: .word "endif" :: .blockEnd :: ts))
  have hstatement : (statement (o.steps + fuel + 14) "if").run inside.deeper =
      .ok (.conditional (.variable test) o.parts [], s.deeper.at (.blockEnd :: ts)) := by
    rw [statement, if_pos rfl]
    exact run_conditional (s := s.deeper) hnames htest (by simpa [ParseState.deeper] using hdepth)
  have hnested := run_nested (s := inside) (by change s.depth < _; omega) hstatement
  rw [body]
  refine (run_bind (run_peek? (x := .blockStart) rfl nofun) _).trans ?_
  refine (run_bind run_skip _).trans ?_
  refine (run_bind (run_peek? (x := .word "if") rfl nofun) _).trans ?_
  refine (run_bind run_skip _).trans ?_
  refine (run_bind hnested _).trans ?_
  refine (run_bind (run_expect (x := .blockEnd) rfl nofun) _).trans ?_
  exact run_bind hrest _

theorem parse_outputs_if {cs : List Char} {test : String} {o : Outputs}
    (hnames : ∀ p ∈ o.slots, isName p.2 = true) (htest : isName test = true)
    (h : tokens cs = o.tokensIf test) :
    parse cs = .ok ⟨[.raw [], .conditional (.variable test) o.parts [], .raw []], []⟩ := by
  let s : ParseState := ⟨[], 0, [], [], false, false⟩
  obtain ⟨fuel, hfuel⟩ : ∃ fuel, 24 * (o.tokensIf test).length + 24 = o.steps + fuel + 16 := by
    refine ⟨24 * (o.tokensIf test).length + 24 - 16 - o.steps, ?_⟩
    have hlength : (o.tokensIf test).length = o.tokens.length + 9 := by simp [Outputs.tokensIf]
    rw [hlength, Outputs.length_tokens, Outputs.steps]
    omega
  have hend : (body (o.steps + fuel + 14) []).run (s.at [.raw []]) = .ok ([.raw []], s) :=
    run_body_raw rfl (run_body_end rfl)
  have hbody : (body (o.steps + fuel + 16) []).run (s.at (o.tokensIf test)) = .ok
      ([.raw [], .conditional (.variable test) o.parts [], .raw []], s) := by
    rw [Outputs.tokensIf, List.append_assoc]
    exact run_body_raw rfl (run_body_if (s := s) hnames htest (by decide : 0 + 3 < maxNesting) hend)
  rw [parse, h, hfuel]
  exact congrArg (· >>= fun p => Except.ok (⟨p.1, p.2.blocks⟩ : Document)) hbody

end Parsing

section Rendering

variable (perform : Invocation → Eval (List Char))

/-- The names are looked up in data, of which nothing has been changed. -/
structure Scopes.Sees (scopes : Scopes) (m : Memory) (fields : Fields Value) : Prop where
  frames : scopes.frames = [{}]
  base : scopes.base = .data fields
  escaping : scopes.escaping = false
  records : m.records = []

variable {scopes : Scopes} {m : Memory} {fields : Fields Value}

theorem run_eval_variable (hsees : scopes.Sees m fields) {name : String} {v : Value}
    (h : Fields.get? name fields = some v) :
    (eval perform scopes (.variable name)).run m = .ok (v, m) := by
  have hlookup : (scopes.lookup? name).run m = .ok (some v, m) := by
    have hfind : Scopes.find? name scopes.frames = none := by
      rw [hsees.frames]
      rfl
    have hfields : scopes.baseFields m = fields := by rw [Scopes.baseFields, hsees.base]
    rw [Scopes.lookup?, run_bind (p := get) (s := m) (a := m) (t := m) rfl, hfind, hfields, h,
      Option.none_or]
    simp only [Memory.present, hsees.records]
    rfl
  rw [eval, run_bind hlookup]
  rfl

theorem run_output (hsees : scopes.Sees m fields) {name : String} {cs : List Char}
    (h : Fields.get? name fields = some (.text cs)) :
    (run perform (.output (.variable name)) scopes).run m = .ok ((cs, scopes), m) := by
  rw [run, run_bind (run_eval_variable perform hsees h)]
  simp only [write, Value.defined, Scopes.textOf, hsees.escaping]
  rfl

theorem run_runAll_cons {part : Stmt} {parts : List Stmt} {cs more : List Char}
    (hpart : (run perform part scopes).run m = .ok ((cs, scopes), m))
    (hparts : (runAll perform parts scopes).run m = .ok ((more, scopes), m)) :
    (runAll perform (part :: parts) scopes).run m = .ok ((cs ++ more, scopes), m) := by
  rw [runAll, run_bind hpart]
  exact run_bind hparts _

theorem run_raw (cs : List Char) :
    (run perform (.raw cs) scopes).run m = .ok ((cs, scopes), m) := by
  rw [run]
  rfl

theorem run_runAll_nil : (runAll perform [] scopes).run m = .ok (([], scopes), m) := by
  rw [runAll]
  rfl

variable {fill : String → List Char}

theorem run_outputs (hsees : scopes.Sees m fields) (o : Outputs)
    (hfields : ∀ p ∈ o.slots, Fields.get? p.2 fields = some (.text (fill p.2))) :
    (runAll perform o.parts scopes).run m = .ok ((o.text fill, scopes), m) := by
  obtain ⟨slots, last⟩ := o
  induction slots with
  | nil =>
    have hlast : (runAll perform [.raw last] scopes).run m = .ok ((last ++ [], scopes), m) :=
      run_runAll_cons perform (run_raw perform last) (run_runAll_nil perform)
    rwa [List.append_nil] at hlast
  | cons p slots ih =>
    have hrest := ih fun q hq => hfields q (List.mem_cons_of_mem _ hq)
    have hname := run_output perform hsees (hfields p List.mem_cons_self)
    have hall := run_runAll_cons perform (run_raw perform p.1)
      (run_runAll_cons perform hname hrest)
    simpa [Outputs.parts, Outputs.text] using hall

theorem run_outputs_if (hsees : scopes.Sees m fields) {test : String} {holds : Bool} (o : Outputs)
    (htest : Fields.get? test fields = some (.bool holds))
    (hfields : ∀ p ∈ o.slots, Fields.get? p.2 fields = some (.text (fill p.2))) :
    (run perform (.conditional (.variable test) o.parts []) scopes).run m =
      .ok ((if holds then o.text fill else [], scopes), m) := by
  rw [run, run_bind (run_eval_variable perform hsees htest)]
  cases holds with
  | true => exact run_outputs perform hsees o hfields
  | false => exact run_runAll_nil perform

end Rendering

variable {source : List Char} {data : Json} {o : Outputs} {fill : String → List Char}

theorem render_of_parse {document : Document} {cs : List Char}
    (hparse : parse source = .ok document) (h : ∀ scopes : Scopes, scopes.Sees {} (dataFields data) → (runAll (perform
      (Scopes.maxDepth + 1)) document.parts scopes).run {} = .ok ((cs, scopes), {})) :
    render source data = .ok cs := by
  have hrun := h ⟨[{}], .data (dataFields data), 0, false, document.blocks⟩ ⟨rfl, rfl, rfl, rfl⟩
  rw [render, hparse]
  change ((runAll (perform (Scopes.maxDepth + 1)) document.parts _).run' {} >>= _) = _
  rw [StateT.run', StateT.run] at *
  rw [hrun]
  rfl

/-- A template of outputs is rendered to the text with the values of the data in it. -/
theorem render_outputs (hnames : ∀ p ∈ o.slots, isName p.2 = true) (h : tokens source = o.tokens)
    (hdata : ∀ p ∈ o.slots, Fields.get? p.2 (dataFields data) = some (.text (fill p.2))) :
    render source data = .ok (o.text fill) :=
  render_of_parse (parse_outputs hnames h) fun _ hsees => run_outputs _ hsees o hdata

/-- A template of outputs inside of a condition is rendered to their text or to nothing. -/
theorem render_outputs_if {test : String} {holds : Bool}
    (hnames : ∀ p ∈ o.slots, isName p.2 = true) (htest : isName test = true)
    (h : tokens source = o.tokensIf test)
    (hholds : Fields.get? test (dataFields data) = some (.bool holds))
    (hdata : ∀ p ∈ o.slots, Fields.get? p.2 (dataFields data) = some (.text (fill p.2))) :
    render source data = .ok (if holds then o.text fill else []) := by
  refine render_of_parse (parse_outputs_if hnames htest h) fun scopes hsees => ?_
  have hblock := run_outputs_if (perform (Scopes.maxDepth + 1)) hsees o hholds hdata
  have hall := run_runAll_cons _ (run_raw _ []) (run_runAll_cons _ hblock
    (run_runAll_cons _ (run_raw _ []) (run_runAll_nil _)))
  simpa using hall

end OverlayConfig.Template
