import OverlayConfig.Proofs.Yaml.TokenFrame
set_option autoImplicit false

namespace OverlayConfig.Yaml

/-- The header of a literal block scalar without its last break, and the margin of its line. -/
def lineOpening : List Char := [' ', '|', '-', '\n', ' ', ' ', ' ', ' ']

def imageKey : List Char := ['i', 'm', 'a', 'g', 'e']

def StartsFlush (cs : List Char) : Prop := ∀ c ∈ cs.head?, isSpacing c = false

structure IsLine (v : List Char) : Prop where
  ne_nil : v ≠ []
  flush : StartsFlush v
  unbroken : ∀ c ∈ v, isBreak c = false

inductive LineEnd : (rest next : List Char) → Prop where
  | ended : LineEnd [] []
  | broken (next : List Char) (h : StartsFlush next) : LineEnd ('\n' :: next) next

theorem isHalfBreak_eq_false {c : Char} (h : isBreak c = false) (rest : List Char) :
    isHalfBreak c rest = false := by
  simp only [isHalfBreak, Bool.and_eq_false_iff, decide_eq_false_iff_not]
  refine .inl fun hr => ?_
  rw [hr] at h
  exact absurd h (by decide)

theorem isSpacing_eq_false {c : Char} :
    isSpacing c = false ↔ c ≠ ' ' ∧ c ≠ '\t' ∧ isBreak c = false := by
  simp [isSpacing, isBlank, and_assoc]

section BlockScalar

theorem blockHeader_strip (rest : List Char) (p : Position) :
    blockHeader ⟨'-' :: '\n' :: rest, p⟩ =
      .ok (.strip, none, ⟨rest, (p.after '-').nextLine '\n'⟩) := rfl

theorem blockGap_flush {cs : List Char} (h : StartsFlush cs) (indent widest : Nat)
    (breaks : List Char) (p : Position) :
    blockGap indent widest breaks cs p = .ok ⟨breaks.reverse, max widest p.column, ⟨cs, p⟩⟩ := by
  cases cs with
  | nil => rfl
  | cons c rest =>
    obtain ⟨hblank, htab, hbreak⟩ := isSpacing_eq_false.mp (h c rfl)
    simp [blockGap, hblank, htab, hbreak, isHalfBreak_eq_false hbreak]

theorem blockGap_blank {indent : Nat} (rest : List Char) (p : Position)
    (h : indent = 0 ∨ p.column < indent) :
    blockGap indent 0 [] (' ' :: rest) p = blockGap indent 0 [] rest (p.after ' ') := by
  rw [blockGap]
  exact if_pos ⟨rfl, h⟩

theorem blockGap_indent {cs : List Char} (h : StartsFlush cs) {p : Position} (hp : p.column = 0) :
    blockGap 0 0 [] ("    ".toList ++ cs) p =
      .ok ⟨[], 4, ⟨cs, p.afterAll "    ".toList⟩⟩ := by
  have hblank (rest : List Char) (p : Position) := blockGap_blank rest p (.inl rfl)
  calc blockGap 0 0 [] ("    ".toList ++ cs) p
      = blockGap 0 0 [] cs (p.afterAll "    ".toList) := by
        rw [show "    ".toList ++ cs = ' ' :: ' ' :: ' ' :: ' ' :: cs from rfl]
        rw [hblank, hblank, hblank, hblank]
        rfl
    _ = .ok ⟨[], 4, ⟨cs, p.afterAll "    ".toList⟩⟩ := by
        rw [blockGap_flush h]
        simp [Position.afterAll, hp]

theorem takeWhile_line {v rest next : List Char} (hv : ∀ c ∈ v, isBreak c = false)
    (hend : LineEnd rest next) (p : Position) :
    Cursor.takeWhile (fun c => !isBreak c) ⟨v ++ rest, p⟩ = (v, ⟨rest, p.afterAll v⟩) := by
  have hrest : rest.takeWhile (fun c => !isBreak c) = [] := by cases hend <;> rfl
  have hline : (v ++ rest).takeWhile (fun c => !isBreak c) = v := by
    rw [List.takeWhile_append_of_pos fun c hc => by simp [hv c hc], hrest, List.append_nil]
  simp [Cursor.takeWhile, Cursor.skip, hline]

theorem takeBreak_feed (rest : List Char) (p : Position) :
    Cursor.takeBreak ⟨'\n' :: rest, p⟩ = (['\n'], ⟨rest, p.nextLine '\n'⟩) := by
  rw [Cursor.takeBreak_cons]
  rfl

theorem takeLine_line {v rest next : List Char} (hv : ∀ c ∈ v, isBreak c = false)
    (hend : LineEnd rest next) (p : Position) :
    ∃ br q, Cursor.takeLine ⟨v ++ rest, p⟩ = (v, br, ⟨next, q⟩) ∧
      (rest ≠ [] → q.line = p.line + 1 ∧ q.column = 0) := by
  rw [Cursor.takeLine, takeWhile_line hv hend]
  cases hend with
  | ended => exact ⟨_, _, rfl, fun h => absurd rfl h⟩
  | broken next h =>
    simp only [takeBreak_feed]
    exact ⟨_, _, rfl, fun _ => ⟨rfl, rfl⟩⟩

theorem LineEnd.flush {rest next : List Char} (h : LineEnd rest next) : StartsFlush next := by
  cases h with
  | ended => exact fun c hc => nomatch hc
  | broken next h => exact h

theorem blockLines_line {v rest next : List Char} (hv : IsLine v) (hend : LineEnd rest next)
    {p : Position} (hp : p.column = 4) (fuel : Nat) :
    ∃ lines q, blockLines false 4 (fuel + 2) ⟨[], [], [], false, ⟨v ++ rest, p⟩⟩ = .ok lines ∧
      lines.reversed = v.reverse ∧ lines.cursor = ⟨next, q⟩ ∧
        (rest ≠ [] → q.line = p.line + 1 ∧ q.column = 0) := by
  obtain ⟨br, q, hline, hq⟩ := takeLine_line hv.unbroken hend p
  have hne : (v ++ rest).isEmpty = false := by simp [hv.ne_nil]
  have hgap := blockGap_flush hend.flush 4 0 [] q
  have hstop : next.isEmpty ∨ q.column ≠ 4 := by
    cases hend with
    | ended => exact .inl rfl
    | broken next h =>
      obtain ⟨-, hcolumn⟩ := hq (by simp)
      exact .inr (by omega)
  have hfirst : blockLines false 4 (fuel + 2) ⟨[], [], [], false, ⟨v ++ rest, p⟩⟩ =
      blockLines false 4 (fuel + 1)
        (BlockLines.add false v br ⟨[], max 0 q.column, ⟨next, q⟩⟩
          ⟨[], [], [], false, ⟨v ++ rest, p⟩⟩) := by
    rw [blockLines]
    simp only [hne, Cursor.column, hp, hline, hgap, List.reverse_nil]
    rfl
  have hlast (lines : BlockLines) (hcursor : lines.cursor = ⟨next, q⟩) :
      blockLines false 4 (fuel + 1) lines = .ok lines := by
    rw [blockLines]
    exact if_pos (by simpa [hcursor, Cursor.column] using hstop)
  exact ⟨_, q, hfirst.trans (hlast _ rfl), by simp [BlockLines.add], rfl, hq⟩

theorem blockScalar_line {v rest next : List Char} (hv : IsLine v) (hend : LineEnd rest next)
    {parent : Int} (hparent : parent ≤ 3) (p : Position) :
    ∃ q, blockScalar false parent ⟨"-\n    ".toList ++ (v ++ rest), p⟩ = .ok ⟨v, ⟨next, q⟩⟩ ∧
      (rest ≠ [] → q.line = p.line + 2 ∧ q.column = 0) := by
  have hflush : StartsFlush (v ++ rest) := by
    obtain ⟨c, w, rfl⟩ := List.exists_cons_of_ne_nil hv.ne_nil
    exact hv.flush
  have hgap := blockGap_indent hflush (p := (p.after '-').nextLine '\n') rfl
  have hindent : max (max 4 (parent + 1).toNat) 1 = 4 := by omega
  obtain ⟨fuel, hfuel⟩ : ∃ fuel, (v ++ rest).length + 1 = fuel + 2 := by
    have hlen := List.length_pos_iff.mpr hv.ne_nil
    exact ⟨(v ++ rest).length - 1, by simp only [List.length_append]; omega⟩
  obtain ⟨lines, q, hlines, hreversed, hcursor, hq⟩ := blockLines_line hv hend
    (p := ((p.after '-').nextLine '\n').afterAll "    ".toList) rfl fuel
  refine ⟨q, ?_, hq⟩
  refine bind_eq_ok.mpr ⟨_, blockHeader_strip _ _, ?_⟩
  refine bind_eq_ok.mpr ⟨_, hgap, ?_⟩
  simp only [if_pos, hindent, hfuel]
  refine bind_eq_ok.mpr ⟨lines, hlines, ?_⟩
  simp [hreversed, hcursor]

end BlockScalar

namespace TokenState

variable {s t : TokenState}

/-- The state at the start of a line in block context, with nothing before the line. -/
def lineStart (indent : Int) (outerIndents : List Int) (line : Nat) (rest : List Char) :
    TokenState :=
  ⟨⟨rest, ⟨0, line, 0⟩⟩, [], 0, indent, outerIndents, true, none, []⟩

theorem unroll_of_le {column : Int} (h : s.indent ≤ column) : s.unroll column = s := by
  have hclosed : closedBlocks column s.indent s.outerIndents = (0, s.indent, s.outerIndents) := by
    cases houter : s.outerIndents with
    | nil => rfl
    | cons next outer =>
      rw [closedBlocks]
      exact if_neg (by omega)
  unfold unroll
  split
  · rfl
  · simp [hclosed]

theorem next_of_token {allowed : Bool} {c : Cursor} {key : Option KeyCandidate}
    (hkeys : s.outerKeys = []) (hspacing : s.spacing = (allowed, c))
    (hkey : freshKey c.position s.key = .ok key) (hindent : s.indent ≤ c.column)
    (h : ({ s with cursor := c, keyAllowed := allowed, key := key } : TokenState).token = .ok t) :
    s.next = .ok t := by
  obtain ⟨cursor, reversed, count, indent, outer, allowed', key', keys⟩ := s
  obtain rfl : keys = [] := hkeys
  refine next_eq_ok.mpr ⟨key, [], by rw [hspacing]; exact hkey, rfl, ?_⟩
  rw [hspacing, arrive, unroll_of_le (by exact hindent)]
  exact h

theorem skipSpacing_flush {c : Char} (hspacing : isSpacing c = false) (hcomment : c ≠ '#')
    (hmark : c.toNat ≠ 0xfeff) (inFlow allowed : Bool) (rest : List Char) (p : Position) :
    skipSpacing inFlow allowed false (c :: rest) p = (allowed, ⟨c :: rest, p⟩) := by
  obtain ⟨hblank, htab, hbreak⟩ := isSpacing_eq_false.mp hspacing
  simp [skipSpacing, hblank, htab, hbreak, isHalfBreak_eq_false hbreak, hcomment, hmark]

theorem skipSpacing_blank {c : Char} (hspacing : isSpacing c = false) (hcomment : c ≠ '#')
    (hmark : c.toNat ≠ 0xfeff) (inFlow allowed : Bool) (rest : List Char) (p : Position) :
    skipSpacing inFlow allowed false (' ' :: c :: rest) p =
      (allowed, ⟨c :: rest, p.after ' '⟩) := by
  rw [← skipSpacing_flush hspacing hcomment hmark inFlow allowed rest (p.after ' '), skipSpacing]
  simp [isHalfBreak, isBreak]

theorem skip_one (c : Char) (rest : List Char) (p : Position) :
    Cursor.skip ⟨c :: rest, p⟩ 1 = ⟨rest, p.after c⟩ := rfl

theorem token_literal {rest : List Char} (hkeys : s.outerKeys = [])
    (hrest : s.cursor.rest = '|' :: rest) : s.token = s.blockText false := by
  have hflow : s.inFlow = false := by simp [inFlow, hkeys]
  simp [token, hrest, hflow, atMarker]

theorem next_literal {v rest next : List Char} (hkey : s.key = none) (hkeys : s.outerKeys = [])
    (hindent : s.indent ≤ 3) (hcolumn : s.indent ≤ s.cursor.column)
    (hrest : s.cursor.rest = lineOpening ++ (v ++ rest)) (hv : IsLine v)
    (hend : LineEnd rest next) :
    ∃ q, s.next = .ok { s.emit (.scalar v .literal) with cursor := ⟨next, q⟩, keyAllowed := true } ∧
      (rest ≠ [] → q.line = s.cursor.position.line + 2 ∧ q.column = 0) := by
  obtain ⟨⟨cs, p⟩, reversed, count, indent, outer, allowed, key, keys⟩ := s
  obtain rfl : cs = _ := hrest
  obtain rfl : key = none := hkey
  obtain rfl : keys = [] := hkeys
  obtain ⟨q, hq, hplace⟩ := blockScalar_line hv hend hindent ((p.after ' ').after '|')
  refine ⟨q, ?_, hplace⟩
  refine next_of_token rfl (skipSpacing_blank (by decide) (by decide) (by decide) _ _ _ _) rfl ?_ ?_
  · simp only [Cursor.column, Position.after] at hcolumn ⊢
    omega
  rw [token_literal rfl rfl]
  refine bind_eq_ok.mpr ⟨_, rfl, bind_eq_ok.mpr ⟨⟨v, ⟨next, q⟩⟩, ?_, rfl⟩⟩
  simp only [skip_one]
  exact hq

end TokenState

section Quoted

/-- A character that stands for itself inside of double quotes. -/
def isQuotable (c : Char) : Bool := !isSpacing c && c ≠ '\x22' && c ≠ '\\'

/-- A character that stands for itself inside of double quotes, or a blank, which does so too. -/
def isHeld (c : Char) : Bool := !isBreak c && c ≠ '\x22' && c ≠ '\\'

theorem isHeld_of_isQuotable {c : Char} (h : isQuotable c = true) : isHeld c = true := by
  simp only [isQuotable, isHeld, Bool.and_eq_true, Bool.not_eq_true', decide_eq_true_eq] at h ⊢
  obtain ⟨⟨hspacing, hquote⟩, hescape⟩ := h
  exact ⟨⟨(isSpacing_eq_false.mp hspacing).2.2, hquote⟩, hescape⟩

theorem Gap.addBlank_inLine {gap : Gap} (h : gap.hasBreaks = false) (c : Char) :
    (gap.addBlank c).hasBreaks = false ∧
      (gap.addBlank c).reversedText = c :: gap.reversedText := by
  cases gap with
  | none => exact ⟨rfl, rfl⟩
  | blanks reversed => exact ⟨rfl, rfl⟩
  | breaks first others => cases h

theorem doubleQuoted_held {v : List Char} (hv : ∀ c ∈ v, isHeld c = true) (gap : Gap)
    (hgap : gap.hasBreaks = false) (reversed rest : List Char) {p : Position} (hp : p.column ≠ 0) :
    ∃ q, doubleQuoted 0 0 gap reversed (v ++ '\x22' :: rest) p =
        .ok ⟨reversed.reverse ++ gap.reversedText.reverse ++ v, ⟨rest, q⟩⟩ ∧ q.line = p.line := by
  induction v generalizing gap reversed p with
  | nil =>
    refine ⟨p.after '\x22', ?_, rfl⟩
    simp [doubleQuoted, isBlank, isHalfBreak, isBreak, hp]
  | cons c v ih =>
    obtain ⟨hc, hrest⟩ := List.forall_mem_cons.mp hv
    simp only [isHeld, Bool.and_eq_true, Bool.not_eq_true', decide_eq_true_eq] at hc
    obtain ⟨⟨hbreak, hquote⟩, hescape⟩ := hc
    have hafter : (p.after c).column ≠ 0 := by simp [Position.after]
    rw [List.cons_append, doubleQuoted]
    by_cases hblank : isBlank c = true
    · obtain ⟨hinLine, htext⟩ := Gap.addBlank_inLine hgap c
      obtain ⟨q, hq, hline⟩ := ih hrest _ hinLine reversed hafter
      refine ⟨q, ?_, hline⟩
      rw [if_pos hblank, hq, htext]
      simp
    · obtain ⟨q, hq, hline⟩ := ih hrest .none rfl (c :: (gap.reversedText ++ reversed)) hafter
      refine ⟨q, ?_, hline⟩
      simp only [hblank, hbreak, isHalfBreak_eq_false hbreak, hp, hquote, hescape, false_and,
        Bool.false_eq_true, if_false, hq]
      simp [Gap.reversedText]

theorem plainScalar_key {word : List Char} (hword : ∀ c ∈ word, isSpacing c = false ∧ c ≠ ':')
    (indent : Int) (reversed rest : List Char) (p : Position) :
    plainScalar false indent .none reversed (word ++ ':' :: ' ' :: rest) p =
      .ok ⟨reversed.reverse ++ word, false, ⟨':' :: ' ' :: rest, p.afterAll word⟩⟩ := by
  induction word generalizing reversed p with
  | nil =>
    simp [plainScalar, isBlank, isHalfBreak, isBreak, atSpacing, isSpacing, Gap.hasBreaks,
      Position.afterAll]
  | cons c word ih =>
    obtain ⟨hspacing, hcolon⟩ := hword c (by simp)
    obtain ⟨hblank, htab, hbreak⟩ := isSpacing_eq_false.mp hspacing
    have hafter : (p.after c).afterAll word = p.afterAll (c :: word) := by
      simp only [Position.afterAll, Position.after, List.foldl_cons, List.length_cons,
        Position.mk.injEq, true_and]
      omega
    rw [List.cons_append, plainScalar]
    simp only [isBlank, hblank, htab, hbreak, isHalfBreak_eq_false hbreak, hcolon]
    simp [Gap.reversedText, ih (fun d hd => hword d (by simp [hd])), hafter]

end Quoted

namespace TokenState

variable {s : TokenState}

theorem token_image {rest : List Char} (hkeys : s.outerKeys = [])
    (hrest : s.cursor.rest = 'i' :: rest) : s.token = s.plainText := by
  have hflow : s.inFlow = false := by simp [inFlow, hkeys]
  simp [token, hrest, hflow, atMarker, atPlain, isBlank]

theorem token_colon {rest : List Char} (hrest : s.cursor.rest = ':' :: ' ' :: rest) :
    s.token = s.value := by
  simp [token, hrest, atMarker, atSpacing, isSpacing, isBlank]

theorem token_quote {rest : List Char} (hrest : s.cursor.rest = '\x22' :: rest) :
    s.token = s.content doubleQuotedText := by
  simp [token, hrest, atMarker]

variable {reversed : List Token} {count : Nat} {outer : List Int} {rest : List Char} {p : Position}

theorem next_image (rest : List Char) :
    next ⟨⟨imageKey ++ ':' :: ' ' :: rest, p⟩, reversed, count, p.column, outer, true, none, []⟩ =
      .ok ⟨⟨':' :: ' ' :: rest, p.afterAll imageKey⟩, .scalar imageKey .plain :: reversed,
        count + 1, p.column, outer, false, some ⟨true, count, p⟩, []⟩ := by
  have hword : ∀ c ∈ imageKey, isSpacing c = false ∧ c ≠ ':' := by
    simp [imageKey, isSpacing, isBlank, isBreak]
  have hscalar := plainScalar_key hword (p.column + 1) [] rest p
  refine next_of_token rfl (skipSpacing_flush (by decide) (by decide) (by decide) _ _ _ _) rfl
    (Int.le_refl _) ?_
  rw [token_image rfl rfl]
  refine bind_eq_ok.mpr ⟨_, rfl, bind_eq_ok.mpr ⟨_, hscalar, ?_⟩⟩
  simp [emit, inFlow, Cursor.column]

theorem next_value (rest : List Char) (t : Token) :
    next ⟨⟨':' :: ' ' :: rest, p.afterAll imageKey⟩, t :: reversed, count + 1, p.column, outer,
        false, some ⟨true, count, p⟩, []⟩ =
      .ok ⟨⟨' ' :: rest, (p.afterAll imageKey).after ':'⟩, .value :: t :: .key :: reversed,
        count + 3, p.column, outer, false, none, []⟩ := by
  have hfresh : freshKey (p.afterAll imageKey) (some ⟨true, count, p⟩) =
      .ok (some ⟨true, count, p⟩) := by
    have hindex : (p.afterAll imageKey).index = p.index + 5 := rfl
    have hline : (p.afterAll imageKey).line = p.line := rfl
    simp only [freshKey, KeyCandidate.isStale, hindex, hline]
    simp
  refine next_of_token rfl (skipSpacing_flush (by decide) (by decide) (by decide) _ _ _ _) hfresh
    ?_ ?_
  · simp only [Cursor.column, Position.afterAll]
    omega
  rw [token_colon rfl]
  simp [value, insertAt, roll, inFlow, emitNext, emit, skip_one]

theorem next_quoted {v : List Char} (hv : ∀ c ∈ v, isHeld c = true)
    {indent : Int} (hindent : indent ≤ p.column) (reversed : List Token) (count : Nat)
    (outer : List Int) (rest : List Char) :
    ∃ q, next ⟨⟨' ' :: '\x22' :: (v ++ '\x22' :: rest), p⟩, reversed, count, indent, outer, false,
        none, []⟩ =
      .ok ⟨⟨rest, q⟩, .scalar v .quoted :: reversed, count + 1, indent, outer, false, none, []⟩ ∧
        q.line = p.line := by
  obtain ⟨q, hq, hline⟩ := doubleQuoted_held hv .none rfl [] rest
    (p := (p.after ' ').after '\x22') (by simp [Position.after])
  refine ⟨q, ?_, hline⟩
  refine next_of_token rfl (skipSpacing_blank (by decide) (by decide) (by decide) _ _ _ _) rfl ?_ ?_
  · simp only [Cursor.column, Position.after]
    omega
  rw [token_quote rfl]
  refine bind_eq_ok.mpr ⟨_, rfl, bind_eq_ok.mpr ⟨(.scalar v .quoted, ⟨rest, q⟩), ?_, rfl⟩⟩
  exact bind_eq_ok.mpr ⟨_, hq, rfl⟩

theorem advance_image {v : List Char} (hv : ∀ c ∈ v, isHeld c = true) (hkey : s.key = none)
    (hkeys : s.outerKeys = []) (hallowed : s.keyAllowed = true)
    (hindent : s.indent = s.cursor.column)
    (hrest : s.cursor.rest = imageKey ++ ':' :: ' ' :: '\x22' :: (v ++ '\x22' :: rest)) :
    ∃ q, s.advance 3 = some { s with
        cursor := ⟨rest, q⟩
        reversed := .scalar v .quoted :: .value :: .scalar imageKey .plain :: .key :: s.reversed
        count := s.count + 4
        keyAllowed := false } ∧
      q.line = s.cursor.position.line := by
  obtain ⟨⟨cs, p⟩, reversed, count, indent, outer, allowed, key, keys⟩ := s
  obtain rfl : cs = _ := hrest
  obtain rfl : key = none := hkey
  obtain rfl : keys = [] := hkeys
  obtain rfl : allowed = true := hallowed
  obtain rfl : indent = p.column := hindent
  have hcolumn : (p.column : Int) ≤ ((p.afterAll imageKey).after ':').column := by
    simp only [Position.after, Position.afterAll]
    omega
  obtain ⟨q, hq, hline⟩ := next_quoted hv hcolumn
    (.value :: .scalar imageKey .plain :: .key :: reversed) (count + 3) outer rest
  refine ⟨q, ?_, hline⟩
  simp [advance, next_image, next_value, hq]

theorem next_feed (hkey : s.key = none) (hkeys : s.outerKeys = [])
    (hrest : s.cursor.rest = '\n' :: rest) :
    s.next = ({ s with
      cursor := ⟨rest, s.cursor.position.nextLine '\n'⟩
      keyAllowed := true } : TokenState).next := by
  obtain ⟨⟨cs, p⟩, reversed, count, indent, outer, allowed, key, keys⟩ := s
  obtain rfl : cs = _ := hrest
  obtain rfl : key = none := hkey
  obtain rfl : keys = [] := hkeys
  have hspacing : skipSpacing false allowed false ('\n' :: rest) p =
      skipSpacing false true false rest (p.nextLine '\n') := by
    rw [skipSpacing]
    simp [isHalfBreak, isBreak]
  simp only [next, inFlow, List.isEmpty_nil, Bool.not_true, hspacing]

theorem run_of_next {t : TokenState} (h : s.next = t.next) {fuel : Nat} {ts : List Token}
    (hrun : t.run (fuel + 1) = (ts, none)) : s.run (fuel + 1) = (ts, none) := by
  rw [run, h]
  rw [run] at hrun
  split at hrun
  · cases hrun
  · next u hu => exact hrun

def endTokens (indent : Int) (outer : List Int) : List Token :=
  List.replicate (closedBlocks (-1) indent outer).1 .blockEnd ++ [.streamEnd]

theorem closedBlocks_closedBlocks {column : Int} (hcolumn : -1 ≤ column) (indent : Int)
    (outer : List Int) {n : Nat} {inner : Int} {rest : List Int}
    (h : closedBlocks column indent outer = (n, inner, rest)) :
    (closedBlocks (-1) inner rest).1 + n = (closedBlocks (-1) indent outer).1 := by
  induction outer generalizing indent n with
  | nil =>
    cases h
    rfl
  | cons next outer ih =>
    rw [closedBlocks] at h
    split at h
    · next hlt =>
      cases h
      rw [closedBlocks, if_pos (by omega), ← Nat.add_assoc, ih next rfl]
    · cases h
      rfl

theorem run_end (hkey : s.key = none) (hkeys : s.outerKeys = []) (hrest : s.cursor.rest = [])
    (fuel : Nat) :
    s.run (fuel + 1) = (s.reversed.reverse ++ endTokens s.indent s.outerIndents, none) := by
  obtain ⟨⟨cs, p⟩, reversed, count, indent, outer, allowed, key, keys⟩ := s
  obtain rfl : cs = _ := hrest
  obtain rfl : key = none := hkey
  obtain rfl : keys = [] := hkeys
  cases hclosed : closedBlocks p.column indent outer with
  | mk n inside =>
    obtain ⟨inner, rest⟩ := inside
    have hsum := closedBlocks_closedBlocks (by omega) indent outer hclosed
    cases hlast : closedBlocks (-1) inner rest with
    | mk m _ =>
      rw [hlast] at hsum
      simp only [run, next, skipSpacing, freshKey, freshKeys, bind, Except.bind, unroll, inFlow,
        Cursor.column, hclosed, token, leaveBlocks, removeKey, emit, List.isEmpty_nil]
      simp [endTokens, ← hsum, hlast, Nat.add_comm]

end TokenState

end OverlayConfig.Yaml
