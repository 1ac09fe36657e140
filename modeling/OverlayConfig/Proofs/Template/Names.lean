import OverlayConfig.Template.Parser
set_option autoImplicit false

namespace OverlayConfig.Template

def Token.isClosing : Token → Bool
  | .outputEnd | .blockEnd => true
  | _ => false

def isName (name : String) : Bool :=
  (wordValue? name).isNone && name ≠ "not" && name ≠ "caller"

theorem isName_iff {name : String} :
    isName name = true ↔ (wordValue? name = none ∧ name ≠ "not") ∧ name ≠ "caller" := by
  simp [isName]

def ParseState.tail (s : ParseState) : ParseState := { s with tokens := s.tokens.drop 1 }

def ParseState.deeper (s : ParseState) : ParseState := { s with depth := s.depth + 1 }

theorem run_bind {σ ε α β : Type} {s t : σ} {p : StateT σ (Except ε) α} {a : α}
    (h : p.run s = .ok (a, t)) (q : α → StateT σ (Except ε) β) :
    (p >>= q).run s = (q a).run t := by
  rw [StateT.run_bind, h]
  rfl

namespace Parse

variable {α : Type} {s t : ParseState} {x y : Token} {rest : List Token}

theorem run_peek? (h : s.tokens = x :: rest) (hx : ∀ kind, x ≠ .broken kind) :
    peek?.run s = .ok (some x, s) := by
  rw [peek?, run_bind (p := get) (s := s) (a := s) (t := s) rfl, h]
  cases x with
  | broken kind => exact absurd rfl (hx kind)
  | _ => rfl

theorem run_peek?_end (h : s.tokens = []) : peek?.run s = .ok (none, s) := by
  rw [peek?, run_bind (p := get) (s := s) (a := s) (t := s) rfl, h]
  rfl

theorem run_skip : skip.run s = .ok ((), s.tail) := rfl

theorem run_accept (h : s.tokens = x :: rest) (hx : ∀ kind, x ≠ .broken kind) :
    (accept x).run s = .ok (true, s.tail) := by
  rw [accept, run_bind (run_peek? h hx), if_pos rfl]
  rfl

theorem run_accept_of_ne (h : s.tokens = x :: rest) (hx : ∀ kind, x ≠ .broken kind) (hne : x ≠ y) :
    (accept y).run s = .ok (false, s) := by
  rw [accept, run_bind (run_peek? h hx), if_neg fun heq => hne (Option.some.inj heq)]
  rfl

theorem run_expect (h : s.tokens = x :: rest) (hx : ∀ kind, x ≠ .broken kind) :
    (expect x).run s = .ok ((), s.tail) := by
  rw [expect, run_bind (run_accept h hx)]
  rfl

theorem run_nested {p : Parse α} {a : α} (hdepth : s.depth < maxNesting)
    (h : p.run s.deeper = .ok (a, t)) :
    (nested p).run s = .ok (a, { t with depth := t.depth - 1 }) := by
  rw [nested, run_bind (p := get) (s := s) (a := s) (t := s) rfl, if_neg (Nat.not_le.mpr hdepth),
    run_bind (t := s.deeper) rfl, run_bind h]
  rfl

theorem run_nested_tail {p : Parse α} {a : α} (hdepth : s.depth < maxNesting)
    (h : p.run s.deeper = .ok (a, s.deeper.tail)) : (nested p).run s = .ok (a, s.tail) :=
  run_nested hdepth h

end Parse

open Parse

section Closing

variable {s : ParseState} {x : Token} {rest : List Token} (h : s.tokens = x :: rest)
  (hx : x.isClosing = true)

include hx in
theorem eq_of_isClosing : x = .outputEnd ∨ x = .blockEnd := by
  cases x with
  | outputEnd => exact .inl rfl
  | blockEnd => exact .inr rfl
  | _ => cases hx

include hx in
theorem ne_broken_of_isClosing (kind : ErrorKind) : x ≠ .broken kind := by
  rintro rfl
  cases hx

include h hx

theorem run_accept_closing {y : Token} (hy : y.isClosing = false) :
    (accept y).run s = .ok (false, s) := by
  refine run_accept_of_ne h (ne_broken_of_isClosing hx) ?_
  rintro rfl
  rw [hx] at hy
  cases hy

theorem run_peek?_closing : peek?.run s = .ok (some x, s) :=
  run_peek? h (ne_broken_of_isClosing hx)

theorem run_operands_closing (fuel : Nat) (ops : List (List Char × BinaryOperator))
    (stronger : List (List (List Char × BinaryOperator))) (e : Expr) :
    (operands (fuel + 1) ops stronger e).run s = .ok (e, s) := by
  rw [operands, run_bind (run_peek?_closing h hx)]
  rcases eq_of_isClosing hx with rfl | rfl <;> rfl

theorem run_postfixes_closing (fuel : Nat) (e : Expr) :
    (postfixes (fuel + 1) e).run s = .ok (e, s) := by
  rw [postfixes, run_bind (run_peek?_closing h hx)]
  rcases eq_of_isClosing hx with rfl | rfl <;> rfl

theorem run_filters_closing (fuel : Nat) (e : Expr) :
    (filters (fuel + 1) e).run s = .ok (e, s) := by
  rw [filters, run_bind (run_accept_closing h hx rfl)]
  exact run_bind (run_accept_closing h hx rfl) _

theorem run_relation?_closing : relation?.run s = .ok (none, s) := by
  rw [relation?, run_bind (run_peek?_closing h hx)]
  have hmeaning : symbolMeaning? comparisons (some x) = none := by
    rcases eq_of_isClosing hx with rfl | rfl <;> rfl
  rw [hmeaning]
  refine (run_bind (run_accept_closing h hx rfl) _).trans ?_
  exact run_bind (run_accept_closing h hx rfl) _

theorem run_comparedWith_closing (fuel : Nat) : (comparedWith (fuel + 1)).run s = .ok ([], s) := by
  rw [comparedWith, run_bind (run_relation?_closing h hx)]
  rfl

theorem run_conjuncts_closing (fuel : Nat) (e : Expr) :
    (conjuncts (fuel + 1) e).run s = .ok (e, s) := by
  rw [conjuncts, run_bind (run_accept_closing h hx rfl)]
  rfl

theorem run_disjuncts_closing (fuel : Nat) (e : Expr) :
    (disjuncts (fuel + 1) e).run s = .ok (e, s) := by
  rw [disjuncts, run_bind (run_accept_closing h hx rfl)]
  rfl

theorem run_choices_closing (fuel : Nat) (e : Expr) :
    (choices (fuel + 1) e).run s = .ok (e, s) := by
  rw [choices, run_bind (run_accept_closing h hx rfl)]
  rfl

end Closing

section Name

variable {s : ParseState} {name : String} {x : Token} {rest : List Token}
  (h : s.tokens = .word name :: x :: rest) (hx : x.isClosing = true) (hname : isName name = true)
  (hdepth : s.depth + 1 < maxNesting)

theorem tail_tokens {t : Token} {ts : List Token} (h : s.tokens = t :: ts) :
    s.tail.tokens = ts := by
  rw [ParseState.tail, h]
  rfl

include h hname

theorem run_primary_name (fuel : Nat) :
    (primary (fuel + 1)).run s = .ok (.variable name, s.tail) := by
  obtain ⟨⟨hvalue, -⟩, hcaller⟩ := isName_iff.mp hname
  rw [primary, run_bind (run_peek? h nofun)]
  simp only [hvalue, if_neg hcaller]
  rfl

include hdepth

theorem run_signed_name (fuel : Nat) :
    (signed (fuel + 2)).run s = .ok (.variable name, s.tail) := by
  have hsign : Token.word name ≠ sym "-" := Token.noConfusion
  rw [signed, run_bind (run_accept_of_ne h nofun hsign)]
  exact run_nested_tail (Nat.lt_of_succ_lt hdepth) (run_primary_name (s := s.deeper) h hname fuel)

include hx

theorem run_arithmetic_name (ops : List (List (List Char × BinaryOperator))) (fuel : Nat) :
    (arithmetic (ops.length + fuel + 3) ops).run s = .ok (.variable name, s.tail) := by
  induction ops generalizing fuel with
  | nil =>
    rw [List.length_nil, Nat.zero_add, arithmetic, run_bind (run_signed_name h hname hdepth fuel),
      run_bind (run_postfixes_closing (tail_tokens h) hx (fuel + 1) _)]
    exact run_filters_closing (tail_tokens h) hx (fuel + 1) _
  | cons level stronger ih =>
    have hfuel : (level :: stronger).length + fuel + 3 = stronger.length + fuel + 3 + 1 := by
      simp only [List.length_cons]
      omega
    rw [hfuel, arithmetic, run_bind (ih fuel)]
    exact run_operands_closing (tail_tokens h) hx _ _ _ _

theorem run_negation_name (fuel : Nat) :
    (negation (fuel + 8)).run s = .ok (.variable name, s.tail) := by
  have harithmetic : (arithmetic (fuel + 7) levels).run s = .ok (.variable name, s.tail) := by
    have hfuel : fuel + 7 = levels.length + fuel + 3 := by
      change fuel + 7 = 4 + fuel + 3
      omega
    rw [hfuel]
    exact run_arithmetic_name h hx hname hdepth levels fuel
  have hnot : Token.word name ≠ .word "not" :=
    fun heq => (isName_iff.mp hname).1.2 (Token.word.inj heq)
  rw [negation, run_bind (run_accept_of_ne h nofun hnot)]
  refine (run_bind harithmetic _).trans ?_
  refine (run_bind (run_comparedWith_closing (tail_tokens h) hx (fuel + 6)) _).trans ?_
  rfl

theorem run_disjunction_name (fuel : Nat) :
    (disjunction (fuel + 10)).run s = .ok (.variable name, s.tail) := by
  have hconjunction : (conjunction (fuel + 9)).run s = .ok (.variable name, s.tail) := by
    rw [conjunction, run_bind (run_negation_name h hx hname hdepth fuel)]
    exact run_conjuncts_closing (tail_tokens h) hx _ _
  rw [disjunction, run_bind hconjunction]
  exact run_disjuncts_closing (tail_tokens h) hx _ _

omit hdepth in
theorem run_expression_name (hdepth : s.depth + 2 < maxNesting) (fuel : Nat) :
    (expression (fuel + 12)).run s = .ok (.variable name, s.tail) := by
  have hinside : (ifExpression (fuel + 11)).run s.deeper = .ok (.variable name, s.deeper.tail) := by
    rw [ifExpression, run_bind (run_disjunction_name (s := s.deeper) h hx hname hdepth fuel)]
    exact run_choices_closing (tail_tokens (s := s.deeper) h) hx _ _
  rw [expression]
  exact run_nested_tail (Nat.lt_of_succ_lt (Nat.lt_of_succ_lt hdepth)) hinside

end Name

end OverlayConfig.Template
