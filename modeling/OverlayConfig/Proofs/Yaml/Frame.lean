import OverlayConfig.Proofs.Results
import OverlayConfig.Yaml.Token
set_option autoImplicit false

namespace OverlayConfig.Yaml

def Position.shift (n : Nat) (p : Position) : Position := { p with index := p.index + n }

@[simp] theorem Position.shift_column (n : Nat) (p : Position) :
    (p.shift n).column = p.column := rfl

@[simp] theorem Position.shift_after (n : Nat) (p : Position) (c : Char) :
    (p.shift n).after c = (p.after c).shift n := by
  simp [Position.after, Position.shift, Nat.add_right_comm]

@[simp] theorem Position.shift_nextLine (n : Nat) (p : Position) (c : Char) :
    (p.shift n).nextLine c = (p.nextLine c).shift n := by
  simp [Position.nextLine, Position.shift, Nat.add_right_comm]

@[simp] theorem Position.shift_afterAll (n : Nat) (p : Position) (cs : List Char) :
    (p.shift n).afterAll cs = (p.afterAll cs).shift n := by
  have hsum (m : Nat) : cs.foldl (fun n c => n + c.utf8Size) (m + n) =
      cs.foldl (fun n c => n + c.utf8Size) m + n := by
    induction cs generalizing m with
    | nil => rfl
    | cons c rest ih =>
      simp only [List.foldl_cons]
      rw [← ih, Nat.add_right_comm]
  simp [Position.afterAll, Position.shift, hsum]

/-- The place with `n` more bytes before it and more text after it. -/
def Cursor.framed (n : Nat) (tail : List Char) (c : Cursor) : Cursor :=
  ⟨c.rest ++ tail, c.position.shift n⟩

/-- A reader that stops before `rest` cannot see what follows it. -/
def Clear (tail rest : List Char) : Prop := tail = [] ∨ 4 ≤ rest.length

/-- A reader that looks three characters ahead of `rest` cannot see what follows it. -/
def Near (tail rest : List Char) : Prop := tail = [] ∨ 3 ≤ rest.length

theorem Clear.near {tail rest cs : List Char} {c : Char} (h : Clear tail rest)
    (hsuffix : rest <:+ c :: cs) : Near tail cs := by
  have hle := hsuffix.length_le
  rcases h with h | h
  · exact .inl h
  · simp only [List.length_cons] at hle
    exact .inr (by omega)

section Near

variable {tail rest : List Char}

theorem Near.head? (h : Near tail rest) : (rest ++ tail).head? = rest.head? := by
  rcases h with rfl | h
  · simp
  · cases rest with
    | nil => simp at h
    | cons c rest => rfl

theorem Near.isHalfBreak (h : Near tail rest) (c : Char) :
    isHalfBreak c (rest ++ tail) = isHalfBreak c rest := by
  simp [Yaml.isHalfBreak, h.head?]

theorem Near.atSpacing (h : Near tail rest) : atSpacing (rest ++ tail) = atSpacing rest := by
  rcases h with rfl | h
  · simp
  · cases rest with
    | nil => simp at h
    | cons c rest => rfl

theorem atMarker_cons (a b c : Char) (cs : List Char) :
    Yaml.atMarker (a :: b :: c :: cs) =
      ((a = '-' && b = '-' && c = '-' || a = '.' && b = '.' && c = '.') && Yaml.atSpacing cs) := by
  unfold Yaml.atMarker
  split
  · simp_all
  · simp_all
  · next hdash hdot =>
    have hdash := hdash cs
    have hdot := hdot cs
    symm
    rw [Bool.and_eq_false_iff]
    grind

theorem Near.atMarker (h : Near tail rest) (c : Char) :
    atMarker (c :: (rest ++ tail)) = atMarker (c :: rest) := by
  rcases h with rfl | h
  · simp
  · match rest, h with
    | a :: b :: d :: rest, _ => simp only [List.cons_append, atMarker_cons, Yaml.atSpacing]

end Near

section PlainScalar

variable {inFlow : Bool} {indent : Int}

theorem plainScalar_suffix {cs : List Char} {gap : Gap} {reversed : List Char} {p : Position}
    {scalar : PlainScalar} (h : plainScalar inFlow indent gap reversed cs p = .ok scalar) :
    scalar.cursor.rest <:+ cs := by
  fun_induction plainScalar inFlow indent gap reversed cs p <;>
    grind [List.suffix_cons, List.IsSuffix.trans]

theorem plainScalar_framed {n : Nat} {cs tail : List Char} {gap : Gap} {reversed : List Char}
    {p : Position} {scalar : PlainScalar}
    (h : plainScalar inFlow indent gap reversed cs p = .ok scalar)
    (hclear : Clear tail scalar.cursor.rest) :
    plainScalar inFlow indent gap reversed (cs ++ tail) (p.shift n) =
      .ok { scalar with cursor := scalar.cursor.framed n tail } := by
  induction cs generalizing gap reversed p with
  | nil =>
    simp only [plainScalar, Except.ok.injEq] at h
    subst h
    rcases hclear with rfl | hlen
    · simp [plainScalar, Cursor.framed]
    · simp at hlen
  | cons c rest ih =>
    have hnear := hclear.near (plainScalar_suffix h)
    rw [plainScalar] at h
    rw [List.cons_append, plainScalar, Position.shift_column]
    simp only [hnear.isHalfBreak, hnear.head?, hnear.atSpacing, hnear.atMarker,
      Position.shift_after, Position.shift_nextLine] at h ⊢
    revert h
    refine ite_eq_ok_imp (ite_eq_ok_imp nofun ih) ?_
    refine ite_eq_ok_imp ih ?_
    refine ite_eq_ok_imp ih ?_
    refine ite_eq_ok_imp nofun ?_
    refine ite_eq_ok_imp (fun hended => ?_) ih
    cases hended
    rfl

end PlainScalar

section DoubleQuoted

theorem doubleQuoted_suffix {cs : List Char} {pending code : Nat} {gap : Gap}
    {reversed : List Char} {p : Position} {scalar : QuotedScalar}
    (h : doubleQuoted pending code gap reversed cs p = .ok scalar) :
    scalar.cursor.rest <:+ cs := by
  fun_induction doubleQuoted pending code gap reversed cs p <;>
    grind [List.suffix_cons, List.IsSuffix.trans]

theorem doubleQuoted_framed {n : Nat} {cs tail : List Char} {gap : Gap} {reversed : List Char}
    {p : Position} {scalar : QuotedScalar} (hplain : '\\' ∉ cs)
    (h : doubleQuoted 0 0 gap reversed cs p = .ok scalar) (hclear : Clear tail scalar.cursor.rest) :
    doubleQuoted 0 0 gap reversed (cs ++ tail) (p.shift n) =
      .ok { scalar with cursor := scalar.cursor.framed n tail } := by
  induction cs generalizing gap reversed p with
  | nil => cases h
  | cons c rest ih =>
    have hc := List.ne_of_not_mem_cons hplain
    have hrest := List.not_mem_of_not_mem_cons hplain
    have hnear := hclear.near (doubleQuoted_suffix h)
    rw [doubleQuoted] at h
    rw [List.cons_append, doubleQuoted, Position.shift_column]
    simp only [hnear.isHalfBreak, hnear.atMarker, Position.shift_after, Position.shift_nextLine,
      if_neg (Ne.symm hc)] at h ⊢
    revert h
    refine ite_eq_ok_imp (ih hrest) ?_
    refine ite_eq_ok_imp (ih hrest) ?_
    refine ite_eq_ok_imp (ih hrest) ?_
    refine ite_eq_ok_imp nofun ?_
    refine ite_eq_ok_imp (fun hquote => ?_) (ih hrest)
    cases hquote
    rfl

end DoubleQuoted

section Spacing

theorem skipSpacing_suffix (inFlow allowed inComment : Bool) (cs : List Char) (p : Position) :
    (skipSpacing inFlow allowed inComment cs p).2.rest <:+ cs := by
  fun_induction skipSpacing inFlow allowed inComment cs p <;>
    grind [List.suffix_cons, List.IsSuffix.trans]

theorem skipSpacing_framed {n : Nat} {cs tail : List Char} {inFlow allowed inComment : Bool}
    {p : Position} (hclear : Clear tail (skipSpacing inFlow allowed inComment cs p).2.rest) :
    skipSpacing inFlow allowed inComment (cs ++ tail) (p.shift n) =
      ((skipSpacing inFlow allowed inComment cs p).1,
        (skipSpacing inFlow allowed inComment cs p).2.framed n tail) := by
  induction cs generalizing allowed inComment p with
  | nil =>
    rcases hclear with rfl | hlen
    · simp [skipSpacing, Cursor.framed]
    · simp [skipSpacing] at hlen
  | cons c rest ih =>
    have hnear := hclear.near (skipSpacing_suffix inFlow allowed inComment (c :: rest) p)
    rw [skipSpacing] at hclear ⊢
    rw [List.cons_append, skipSpacing, Position.shift_column]
    simp only [hnear.isHalfBreak, Position.shift_after, Position.shift_nextLine] at hclear ⊢
    split
    · next hhalf => exact ih (by simpa [hhalf] using hclear)
    · next hhalf =>
      split
      · next hbreak => exact ih (by simpa [hhalf, hbreak] using hclear)
      · next hbreak =>
        split
        · next hblank =>
          exact ih (by simpa only [if_neg hhalf, if_neg hbreak, if_pos hblank] using hclear)
        · next hblank =>
          split
          · next hcomment =>
            refine ih ?_
            simpa only [if_neg hhalf, if_neg hbreak, if_neg hblank, if_pos hcomment] using hclear
          · rfl

end Spacing

section Cursor

variable {n : Nat} {tail : List Char} {c : Cursor}

theorem Clear.mono {rest rest' : List Char} (h : Clear tail rest)
    (hsuffix : rest <:+ rest') : Clear tail rest' :=
  h.imp_right fun h => Nat.le_trans h hsuffix.length_le

theorem Clear.cases {rest : List Char} (h : Clear tail rest) :
    tail = [] ∨ ∃ a b more, rest = a :: b :: more := by
  refine h.imp_right fun hlen => ?_
  match rest, hlen with
  | a :: b :: more, _ => exact ⟨a, b, more, rfl⟩

theorem Clear.atBreak {rest : List Char} (h : Clear tail rest) :
    atBreak (rest ++ tail) = atBreak rest := by
  rcases h.cases with rfl | ⟨a, b, more, rfl⟩
  · simp
  · rfl

theorem Cursor.skip_framed {k : Nat} (h : k ≤ c.rest.length) :
    (c.framed n tail).skip k = (c.skip k).framed n tail := by
  simp [framed, skip, List.drop_append_of_le_length h, List.take_append_of_le_length h]

theorem Cursor.skip_suffix (k : Nat) : (c.skip k).rest <:+ c.rest := List.drop_suffix _ _

theorem Cursor.takeWhile_suffix (p : Char → Bool) : (c.takeWhile p).2.rest <:+ c.rest :=
  List.drop_suffix _ _

theorem takeWhile_append_of_drop {p : Char → Bool} {cs : List Char}
    (h : cs.drop (cs.takeWhile p).length ≠ []) : (cs ++ tail).takeWhile p = cs.takeWhile p := by
  induction cs with
  | nil => simp at h
  | cons c rest ih =>
    cases hc : p c with
    | true => simp_all
    | false => simp [hc]

theorem Cursor.takeWhile_framed {p : Char → Bool} (h : Clear tail (c.takeWhile p).2.rest) :
    (c.framed n tail).takeWhile p = ((c.takeWhile p).1, (c.takeWhile p).2.framed n tail) := by
  have hsame : (c.rest ++ tail).takeWhile p = c.rest.takeWhile p := by
    rcases h.cases with rfl | ⟨a, b, more, hrest⟩
    · simp
    · have hdrop : c.rest.drop (c.rest.takeWhile p).length = a :: b :: more := hrest
      exact takeWhile_append_of_drop (by simp [hdrop])
  have hle := (List.takeWhile_sublist (l := c.rest) p).length_le
  simp only [takeWhile]
  rw [show (c.framed n tail).rest = c.rest ++ tail from rfl, hsame, skip_framed hle]

theorem Cursor.takeBreak_cons (d : Char) (rest : List Char) (p : Position) :
    takeBreak ⟨d :: rest, p⟩ =
      if isHalfBreak d rest then (['\n'], ⟨rest.drop 1, (p.after '\r').nextLine '\n'⟩)
      else if isBreak d then ([readBreak d], ⟨rest, p.nextLine d⟩) else ([], ⟨d :: rest, p⟩) := by
  unfold takeBreak
  split
  · next heq =>
    cases heq
    rfl
  · next hcr heq =>
    cases heq
    have hhalf : isHalfBreak d rest = false := by
      cases rest with
      | nil => simp [isHalfBreak]
      | cons e rest =>
        have hne : ¬(d = '\r' ∧ e = '\n') := fun h => hcr rest h.1 (by rw [h.2])
        simpa [isHalfBreak] using hne
    simp [hhalf]
  · next heq => cases heq

theorem Cursor.takeBreak_suffix : c.takeBreak.2.rest <:+ c.rest := by
  obtain ⟨rest, p⟩ := c
  cases rest with
  | nil => exact List.suffix_rfl
  | cons d rest =>
    rw [takeBreak_cons]
    split
    · exact (List.drop_suffix 1 rest).trans (List.suffix_cons d rest)
    · split
      · exact List.suffix_cons d rest
      · exact List.suffix_rfl

theorem Cursor.takeBreak_framed (h : Clear tail c.takeBreak.2.rest) :
    (c.framed n tail).takeBreak = (c.takeBreak.1, c.takeBreak.2.framed n tail) := by
  obtain ⟨rest, p⟩ := c
  have hclear := h.mono takeBreak_suffix
  cases rest with
  | nil =>
    rcases hclear with rfl | hlen
    · simp [framed, takeBreak]
    · simp at hlen
  | cons d rest =>
    have hnear := hclear.near (List.suffix_rfl)
    have hdrop : (rest ++ tail).drop 1 = rest.drop 1 ++ tail := by
      rcases hnear with rfl | hlen
      · simp
      · exact List.drop_append_of_le_length (by omega)
    rw [takeBreak_cons, framed, List.cons_append, takeBreak_cons, hnear.isHalfBreak, hdrop]
    simp only [Position.shift_after, Position.shift_nextLine]
    split
    · rfl
    · split <;> rfl

theorem Cursor.takeLine_length_lt (h : c.rest ≠ []) :
    c.takeLine.2.2.rest.length < c.rest.length := by
  obtain ⟨rest, p⟩ := c
  match rest with
  | [] => exact absurd rfl h
  | d :: rest =>
    rw [takeLine]
    cases hd : isBreak d with
    | true =>
      have hline : takeWhile (fun d => !isBreak d) ⟨d :: rest, p⟩ = ([], ⟨d :: rest, p⟩) := by
        simp [takeWhile, skip, hd, Position.afterAll]
      simp only [hline, takeBreak_cons]
      split
      · simp only [List.length_drop, List.length_cons]
        omega
      · simp
    | false =>
      have hle := takeBreak_suffix (c := (takeWhile (fun d => !isBreak d) ⟨d :: rest, p⟩).2)
      refine Nat.lt_of_le_of_lt hle.length_le ?_
      simp only [takeWhile, skip, List.takeWhile_cons, hd, Bool.not_false, if_true,
        List.length_drop, List.length_cons]
      omega

theorem Cursor.takeLine_framed (h : Clear tail c.takeLine.2.2.rest) :
    (c.framed n tail).takeLine =
      (c.takeLine.1, c.takeLine.2.1, c.takeLine.2.2.framed n tail) := by
  have hline : Clear tail (c.takeWhile fun d => !isBreak d).2.rest := h.mono takeBreak_suffix
  have hbreak : (Cursor.framed n tail (c.takeWhile fun d => !isBreak d).2).takeBreak =
      (c.takeLine.2.1, c.takeLine.2.2.framed n tail) := takeBreak_framed h
  rw [takeLine, takeWhile_framed hline]
  exact congrArg (Prod.mk _) hbreak

end Cursor

section BlockScalar

variable {n : Nat} {tail : List Char} {indent : Nat} {folded : Bool}

theorem blockGap_suffix {cs : List Char} {widest : Nat} {breaks : List Char} {p : Position}
    {gap : BlockGap} (h : blockGap indent widest breaks cs p = .ok gap) :
    gap.cursor.rest <:+ cs := by
  fun_induction blockGap indent widest breaks cs p <;>
    grind [List.suffix_cons, List.IsSuffix.trans]

theorem blockGap_framed {cs : List Char} {widest : Nat} {breaks : List Char} {p : Position}
    {gap : BlockGap} (h : blockGap indent widest breaks cs p = .ok gap)
    (hclear : Clear tail gap.cursor.rest) :
    blockGap indent widest breaks (cs ++ tail) (p.shift n) =
      .ok { gap with cursor := gap.cursor.framed n tail } := by
  induction cs generalizing widest breaks p with
  | nil =>
    simp only [blockGap, Except.ok.injEq] at h
    subst h
    rcases hclear with rfl | hlen
    · simp [blockGap, Cursor.framed]
    · simp at hlen
  | cons c rest ih =>
    have hnear := hclear.near (blockGap_suffix h)
    simp only [blockGap] at h
    rw [List.cons_append]
    simp only [blockGap]
    rw [Position.shift_column]
    simp only [hnear.isHalfBreak, Position.shift_after, Position.shift_nextLine] at h ⊢
    revert h
    refine ite_eq_ok_imp ih (ite_eq_ok_imp (fun hhalf => ?_) ?_)
    · rw [← ih hhalf]
      simp [Position.shift, Nat.add_right_comm]
    · refine ite_eq_ok_imp nofun (ite_eq_ok_imp ih fun hended => ?_)
      cases hended
      rfl

theorem blockLines_suffix {fuel : Nat} {lines result : BlockLines}
    (h : blockLines folded indent fuel lines = .ok result) :
    result.cursor.rest <:+ lines.cursor.rest := by
  induction fuel generalizing lines with
  | zero => cases h
  | succ fuel ih =>
    rw [blockLines] at h
    split at h
    · cases h
      exact List.suffix_rfl
    · next hline =>
      obtain ⟨gap, hgap, h⟩ := bind_eq_ok.mp h
      have hresult : result.cursor.rest <:+ gap.cursor.rest := ih h
      have hline : lines.cursor.takeLine.2.2.rest <:+ lines.cursor.rest :=
        Cursor.takeBreak_suffix.trans (Cursor.takeWhile_suffix _)
      exact hresult.trans ((blockGap_suffix hgap).trans hline)

theorem blockLines_framed {fuel fuel' : Nat} {lines result : BlockLines}
    (h : blockLines folded indent fuel lines = .ok result)
    (hclear : Clear tail result.cursor.rest)
    (hfuel : lines.cursor.rest.length < result.cursor.rest.length + fuel') :
    blockLines folded indent fuel' { lines with cursor := lines.cursor.framed n tail } =
      .ok { result with cursor := result.cursor.framed n tail } := by
  induction fuel generalizing lines fuel' with
  | zero => cases h
  | succ fuel ih =>
    have hle := blockLines_suffix h
    have hlen := hle.length_le
    obtain ⟨fuel', rfl⟩ : ∃ m, fuel' = m + 1 := ⟨fuel' - 1, by omega⟩
    -- the end of the text is no end if more follows, but then the reader stops well before it
    have hempty : (lines.cursor.rest ++ tail).isEmpty = lines.cursor.rest.isEmpty := by
      rcases hclear.mono hle with rfl | hlen
      · simp
      · cases hrest : lines.cursor.rest with
        | nil => simp [hrest] at hlen
        | cons c rest => rfl
    have hcond : ((lines.cursor.framed n tail).rest.isEmpty ||
        decide ((lines.cursor.framed n tail).column ≠ indent)) =
        (lines.cursor.rest.isEmpty || decide (lines.cursor.column ≠ indent)) :=
      congrArg (· || decide (lines.cursor.column ≠ indent)) hempty
    rw [blockLines] at h ⊢
    split at h
    · next hend =>
      cases h
      exact if_pos (hcond.trans hend)
    · next hline =>
      refine (if_neg fun hend => hline (hcond.symm.trans hend)).trans ?_
      have hrest : lines.cursor.rest ≠ [] := fun hnil => hline (by simp [hnil])
      have hlt := Cursor.takeLine_length_lt hrest
      obtain ⟨gap, hgap, h⟩ := bind_eq_ok.mp h
      have hgaple := blockGap_suffix hgap
      have hresult : result.cursor.rest <:+ gap.cursor.rest := blockLines_suffix h
      have hgapclear := hclear.mono hresult
      simp only [Cursor.takeLine_framed (hgapclear.mono hgaple)]
      refine bind_eq_ok.mpr ⟨_, blockGap_framed hgap hgapclear, ih h ?_⟩
      have hgaplen := hgaple.length_le
      simp only [BlockLines.add]
      omega

theorem Cursor.skipBlanks_suffix (c : Cursor) : c.skipBlanks.rest <:+ c.rest :=
  c.takeWhile_suffix _

theorem Cursor.skipBlanks_framed {c : Cursor} (h : Clear tail c.skipBlanks.rest) :
    (c.framed n tail).skipBlanks = c.skipBlanks.framed n tail := by
  rw [skipBlanks, skipWhile, takeWhile_framed h]
  rfl

theorem Cursor.skipComment_suffix (c : Cursor) : c.skipComment.rest <:+ c.rest := by
  unfold skipComment
  split
  · exact c.takeWhile_suffix _
  · exact List.suffix_rfl

theorem Cursor.skipComment_framed {c : Cursor} (h : Clear tail c.skipComment.rest) :
    (c.framed n tail).skipComment = c.skipComment.framed n tail := by
  have hclear := h.mono c.skipComment_suffix
  obtain ⟨rest, p⟩ := c
  cases rest with
  | nil =>
    rcases hclear with rfl | hlen
    · rfl
    · simp at hlen
  | cons a rest =>
    by_cases ha : a = '#'
    · subst ha
      exact congrArg Prod.snd (takeWhile_framed h)
    · have hskip (rest : List Char) (p : Position) :
          skipComment ⟨a :: rest, p⟩ = ⟨a :: rest, p⟩ := by
        simp [skipComment, ha]
      rw [hskip, framed, List.cons_append, hskip]

theorem headerEnd_suffix {c d : Cursor} (h : headerEnd c = .ok d) :
    d.rest <:+ c.rest := by
  simp only [headerEnd] at h
  split at h
  · cases h
    exact List.IsSuffix.trans Cursor.takeBreak_suffix
      (List.IsSuffix.trans c.skipBlanks.skipComment_suffix c.skipBlanks_suffix)
  · cases h

theorem headerEnd_framed {c d : Cursor} (h : headerEnd c = .ok d) (hclear : Clear tail d.rest) :
    headerEnd (c.framed n tail) = .ok (d.framed n tail) := by
  simp only [headerEnd] at h
  split at h
  · next hbreak =>
    cases h
    have hcomment := hclear.mono Cursor.takeBreak_suffix
    have hblanks := hcomment.mono c.skipBlanks.skipComment_suffix
    simp only [headerEnd, Cursor.skipBlanks_framed hblanks, Cursor.skipComment_framed hcomment]
    rw [Cursor.takeBreak_framed hclear]
    exact if_pos (hcomment.atBreak.trans hbreak)
  · cases h

theorem takeChomping_suffix {c d : Cursor} {chomping : Chomping}
    (h : takeChomping c = some (chomping, d)) : d.rest <:+ c.rest := by
  unfold takeChomping at h
  split at h <;> simp at h <;> simp [← h.2, Cursor.skip_suffix]

theorem takeChomping_framed {c : Cursor} (h : Clear tail c.rest) :
    takeChomping (c.framed n tail) =
      (takeChomping c).map fun r => (r.1, r.2.framed n tail) := by
  obtain ⟨rest, p⟩ := c
  rcases h.cases with rfl | ⟨a, b, more, rfl⟩
  · simp only [takeChomping, Cursor.framed, List.append_nil]
    split <;> simp [Cursor.skip]
  · by_cases hplus : a = '+'
    · simp [takeChomping, Cursor.framed, Cursor.skip, hplus]
    · by_cases hminus : a = '-'
      · simp [takeChomping, Cursor.framed, Cursor.skip, hminus]
      · simp [takeChomping, Cursor.framed, hplus, hminus]

theorem takeIndentation_suffix {c d : Cursor} {indentation : Option Nat}
    (h : takeIndentation c = .ok (indentation, d)) : d.rest <:+ c.rest := by
  unfold takeIndentation at h
  split at h
  · split at h
    · split at h
      · cases h
      · cases h
        exact Cursor.skip_suffix 1
    · cases h
      exact List.suffix_rfl
  · cases h
    exact List.suffix_rfl

theorem takeIndentation_framed {c d : Cursor} {indentation : Option Nat}
    (h : takeIndentation c = .ok (indentation, d)) (hclear : Clear tail d.rest) :
    takeIndentation (c.framed n tail) = .ok (indentation, d.framed n tail) := by
  obtain ⟨rest, p⟩ := c
  cases rest with
  | nil =>
    cases h
    rcases hclear with rfl | hlen
    · rfl
    · simp at hlen
  | cons a rest =>
    simp only [takeIndentation] at h
    simp only [takeIndentation, Cursor.framed, List.cons_append]
    split at h
    · next hdigit =>
      rw [if_pos hdigit]
      split at h
      · cases h
      · next hzero =>
        rw [if_neg hzero]
        cases h
        simp [Cursor.skip]
    · next hdigit =>
      rw [if_neg hdigit]
      cases h
      rfl

theorem takeIndicators_suffix {c d : Cursor} {chomping : Chomping} {indentation : Option Nat}
    (h : takeIndicators c = .ok (chomping, indentation, d)) : d.rest <:+ c.rest := by
  unfold takeIndicators at h
  split at h
  · next hchomping =>
    obtain ⟨⟨i, e⟩, hindentation, he⟩ := map_eq_ok.mp h
    cases he
    exact List.IsSuffix.trans (takeIndentation_suffix hindentation) (takeChomping_suffix hchomping)
  · obtain ⟨⟨i, e⟩, hindentation, he⟩ := map_eq_ok.mp h
    have hle := takeIndentation_suffix hindentation
    simp only at he
    split at he
    · next hchomping =>
      cases he
      exact List.IsSuffix.trans (takeChomping_suffix hchomping) hle
    · cases he
      exact hle

theorem takeIndicators_framed {c d : Cursor} {chomping : Chomping} {indentation : Option Nat}
    (h : takeIndicators c = .ok (chomping, indentation, d)) (hclear : Clear tail d.rest) :
    takeIndicators (c.framed n tail) = .ok (chomping, indentation, d.framed n tail) := by
  have hchomping := takeChomping_framed (n := n) (hclear.mono (takeIndicators_suffix h))
  unfold takeIndicators at h ⊢
  rw [hchomping]
  cases hc : takeChomping c with
  | some r =>
    rw [hc] at h
    obtain ⟨⟨i, e⟩, hindentation, he⟩ := map_eq_ok.mp h
    cases he
    exact map_eq_ok.mpr ⟨_, takeIndentation_framed hindentation hclear, rfl⟩
  | none =>
    rw [hc] at h
    obtain ⟨⟨i, e⟩, hindentation, he⟩ := map_eq_ok.mp h
    have hle : d.rest <:+ e.rest := by
      simp only at he
      split at he
      · next hchomping =>
        cases he
        exact takeChomping_suffix hchomping
      · cases he
        exact List.suffix_rfl
    refine map_eq_ok.mpr ⟨_, takeIndentation_framed hindentation (hclear.mono hle), ?_⟩
    simp only [takeChomping_framed (hclear.mono hle)] at he ⊢
    cases i <;> cases hs : takeChomping e <;> rw [hs] at he <;> cases he <;> rfl

theorem blockHeader_suffix {c d : Cursor} {chomping : Chomping} {indentation : Option Nat}
    (h : blockHeader c = .ok (chomping, indentation, d)) : d.rest <:+ c.rest := by
  obtain ⟨⟨_, _, e⟩, hindicators, h⟩ := bind_eq_ok.mp h
  obtain ⟨f, hend, h⟩ := bind_eq_ok.mp h
  cases h
  exact List.IsSuffix.trans (headerEnd_suffix hend) (takeIndicators_suffix hindicators)

theorem blockHeader_framed {c d : Cursor} {chomping : Chomping} {indentation : Option Nat}
    (h : blockHeader c = .ok (chomping, indentation, d)) (hclear : Clear tail d.rest) :
    blockHeader (c.framed n tail) = .ok (chomping, indentation, d.framed n tail) := by
  obtain ⟨⟨_, _, e⟩, hindicators, h⟩ := bind_eq_ok.mp h
  obtain ⟨f, hend, h⟩ := bind_eq_ok.mp h
  cases h
  have hindicators' := takeIndicators_framed (n := n) hindicators
    (hclear.mono (headerEnd_suffix hend))
  exact bind_eq_ok.mpr ⟨_, hindicators', bind_eq_ok.mpr ⟨_, headerEnd_framed hend hclear, rfl⟩⟩

theorem blockScalar_suffix {parent : Int} {c : Cursor} {scalar : QuotedScalar}
    (h : blockScalar folded parent c = .ok scalar) :
    scalar.cursor.rest <:+ c.rest := by
  obtain ⟨⟨chomping, indentation, d⟩, hheader, h⟩ := bind_eq_ok.mp h
  obtain ⟨gap, hgap, h⟩ := bind_eq_ok.mp h
  obtain ⟨lines, hlines, h⟩ := bind_eq_ok.mp h
  cases h
  exact List.IsSuffix.trans (blockLines_suffix hlines)
    (List.IsSuffix.trans (blockGap_suffix hgap) (blockHeader_suffix hheader))

theorem blockScalar_framed {parent : Int} {c : Cursor} {scalar : QuotedScalar}
    (h : blockScalar folded parent c = .ok scalar) (hclear : Clear tail scalar.cursor.rest) :
    blockScalar folded parent (c.framed n tail) =
      .ok { scalar with cursor := scalar.cursor.framed n tail } := by
  obtain ⟨⟨chomping, indentation, d⟩, hheader, h⟩ := bind_eq_ok.mp h
  obtain ⟨gap, hgap, h⟩ := bind_eq_ok.mp h
  obtain ⟨lines, hlines, h⟩ := bind_eq_ok.mp h
  cases h
  have hgapclear := hclear.mono (blockLines_suffix hlines)
  have hheaderclear := hgapclear.mono (blockGap_suffix hgap)
  refine bind_eq_ok.mpr ⟨_, blockHeader_framed hheader hheaderclear, ?_⟩
  refine bind_eq_ok.mpr ⟨_, blockGap_framed hgap hgapclear, ?_⟩
  refine bind_eq_ok.mpr ⟨_, blockLines_framed hlines hclear ?_, rfl⟩
  simp only [Cursor.framed, List.length_append]
  omega

end BlockScalar

end OverlayConfig.Yaml
