import OverlayConfig.Proofs.Yaml.Frame
set_option autoImplicit false

namespace OverlayConfig.Yaml

/-- What surrounds a piece of a text: the number of bytes before it, the tokens before it, the last
one first, and the text after it. -/
structure Frame where
  bytes : Nat
  base : List Token
  tail : List Char

def KeyCandidate.framed (F : Frame) (key : KeyCandidate) : KeyCandidate :=
  { key with number := key.number + F.base.length, position := key.position.shift F.bytes }

namespace TokenState

def framed (F : Frame) (s : TokenState) : TokenState :=
  { s with
    cursor := s.cursor.framed F.bytes F.tail
    reversed := s.reversed ++ F.base
    count := s.count + F.base.length
    key := s.key.map (·.framed F)
    outerKeys := s.outerKeys.map (Option.map (·.framed F)) }

def Counted (s : TokenState) : Prop := s.count = s.reversed.length

variable {F : Frame} {s t : TokenState}

theorem insertAt_counted (h : s.Counted) (number : Nat) (token : Token) :
    (s.insertAt number token).Counted := by
  simp only [Counted, insertAt, List.length_append, List.length_take, List.length_cons,
    List.length_drop]
  have hcount : s.count = s.reversed.length := h
  omega

theorem emit_counted (h : s.Counted) (token : Token) : (s.emit token).Counted :=
  congrArg (· + 1) h

theorem roll_counted (h : s.Counted) (column number : Nat) (token : Token) :
    (s.roll column number token).Counted := by
  unfold roll
  split
  · exact insertAt_counted h number token
  · exact h

theorem unroll_counted (h : s.Counted) (column : Int) : (s.unroll column).Counted := by
  unfold unroll
  split
  · exact h
  · have hcount : s.count = s.reversed.length := h
    simp only [Counted, List.length_append, List.length_replicate]
    omega

@[simp] theorem framed_inFlow : (s.framed F).inFlow = s.inFlow := by
  simp [inFlow, framed]

@[simp] theorem framed_column : (s.framed F).cursor.column = s.cursor.column := rfl

@[simp] theorem framed_indent : (s.framed F).indent = s.indent := rfl

@[simp] theorem framed_keyAllowed : (s.framed F).keyAllowed = s.keyAllowed := rfl

@[simp] theorem framed_rest : (s.framed F).cursor.rest = s.cursor.rest ++ F.tail := rfl

theorem emit_framed (token : Token) : (s.framed F).emit token = (s.emit token).framed F := by
  simp [emit, framed, Nat.add_right_comm]

theorem insertAt_framed (hcount : s.Counted) (number : Nat) (token : Token) :
    (s.framed F).insertAt (number + F.base.length) token =
      (s.insertAt number token).framed F := by
  have hle : s.count - number ≤ s.reversed.length := hcount ▸ Nat.sub_le _ _
  simp [insertAt, framed, Nat.add_sub_add_right, List.take_append_of_le_length hle,
    List.drop_append_of_le_length hle, Nat.add_right_comm]

theorem roll_framed (hcount : s.Counted) (column number : Nat) (token : Token) :
    (s.framed F).roll column (number + F.base.length) token =
      (s.roll column number token).framed F := by
  unfold roll
  rw [framed_inFlow, framed_indent, insertAt_framed hcount]
  split <;> rfl

@[simp] theorem insertAt_cursor (number : Nat) (token : Token) :
    (s.insertAt number token).cursor = s.cursor := rfl

@[simp] theorem roll_cursor (column number : Nat) (token : Token) :
    (s.roll column number token).cursor = s.cursor := by
  unfold roll
  split <;> rfl

@[simp] theorem unroll_cursor (column : Int) : (s.unroll column).cursor = s.cursor := by
  unfold unroll
  split <;> rfl

theorem unroll_framed (column : Int) : (s.framed F).unroll column = (s.unroll column).framed F := by
  unfold unroll
  rw [framed_inFlow]
  split
  · rfl
  · simp [framed, Nat.add_right_comm]

theorem removeKey_framed : (s.framed F).removeKey = s.removeKey.map (framed F) := by
  unfold removeKey
  cases hkey : s.key with
  | none => simp [framed, hkey, Except.map]
  | some key =>
    simp only [framed, hkey, Option.map_some, KeyCandidate.framed]
    split <;> rfl

theorem saveKey_framed : (s.framed F).saveKey = s.saveKey.map (framed F) := by
  unfold saveKey
  rw [framed_keyAllowed, removeKey_framed]
  split
  · cases s.removeKey with
    | error e => rfl
    | ok t =>
      simp only [Except.map, bind, Except.bind, framed_inFlow]
      rfl
  · rfl

theorem emitNext_framed {k : Nat} (h : k ≤ s.cursor.rest.length) (token : Token) :
    (s.framed F).emitNext k token = (s.emitNext k token).framed F := by
  have hskip : (s.framed F).cursor.skip k = (s.cursor.skip k).framed F.bytes F.tail :=
    Cursor.skip_framed h
  rw [emitNext, emit_framed, hskip]
  rfl

theorem emitOne_framed (h : s.cursor.rest ≠ []) (token : Token) :
    (s.framed F).emitNext 1 token = (s.emitNext 1 token).framed F :=
  emitNext_framed (List.length_pos_iff.mpr h) token

theorem removeKey_eq_ok (h : s.removeKey = .ok t) : t = { s with key := none } := by
  unfold removeKey at h
  split at h
  · next hkey =>
    cases h
    rw [← hkey]
  · split at h
    · cases h
    · cases h
      rfl

theorem saveKey_eq_ok (h : s.saveKey = .ok t) : ∃ key, t = { s with key := key } := by
  unfold saveKey at h
  split at h
  · obtain ⟨u, hu, h⟩ := bind_eq_ok.mp h
    cases h
    rw [removeKey_eq_ok hu]
    exact ⟨_, rfl⟩
  · cases h
    exact ⟨_, rfl⟩

theorem openFlow_framed (h : s.cursor.rest ≠ []) (token : Token) :
    (s.framed F).openFlow token = (s.openFlow token).map (framed F) := by
  unfold openFlow
  rw [saveKey_framed]
  cases hs : s.saveKey with
  | error e => rfl
  | ok u =>
    obtain ⟨key, hu⟩ := saveKey_eq_ok hs
    have hrest : u.cursor.rest ≠ [] := by rwa [hu]
    simp only [Except.map, bind, Except.bind, emitOne_framed hrest]
    rfl

/-- What goes on after the candidate is dropped need only agree on states with text left. -/
theorem removeKey_bind_framed {f g : TokenState → Except SyntaxError TokenState}
    (h : s.cursor.rest ≠ [])
    (hfg : ∀ u, u.cursor.rest ≠ [] → g (u.framed F) = (f u).map (framed F)) :
    ((s.framed F).removeKey >>= g) = (s.removeKey >>= f).map (framed F) := by
  rw [removeKey_framed]
  cases hs : s.removeKey with
  | error e => rfl
  | ok u =>
    have hrest : u.cursor.rest ≠ [] := by rwa [removeKey_eq_ok hs]
    exact hfg u hrest

theorem closeFlow_framed (h : s.cursor.rest ≠ []) (token : Token) :
    (s.framed F).closeFlow token = (s.closeFlow token).map (framed F) := by
  refine removeKey_bind_framed h fun u hrest => ?_
  rw [emitOne_framed hrest]
  obtain ⟨cursor, reversed, count, indent, outer, allowed, key, keys⟩ := u
  cases keys <;> rfl

theorem flowEntry_framed (h : s.cursor.rest ≠ []) :
    (s.framed F).flowEntry = s.flowEntry.map (framed F) := by
  refine removeKey_bind_framed h fun u hrest => ?_
  rw [emitOne_framed hrest]
  rfl

theorem blockEntry_framed (h : s.cursor.rest ≠ []) (hcount : s.Counted) :
    (s.framed F).blockEntry = s.blockEntry.map (framed F) := by
  unfold blockEntry
  rw [framed_inFlow, framed_keyAllowed]
  split
  · rfl
  · have hroll : (s.framed F).roll (s.framed F).cursor.column (s.framed F).count .blockSequence =
        (s.roll s.cursor.column s.count .blockSequence).framed F := roll_framed hcount _ _ _
    rw [hroll]
    refine removeKey_bind_framed (by simpa using h) fun u hrest => ?_
    rw [emitOne_framed hrest]
    rfl

theorem explicitKey_framed (h : s.cursor.rest ≠ []) (hcount : s.Counted) :
    (s.framed F).explicitKey = s.explicitKey.map (framed F) := by
  unfold explicitKey
  rw [framed_inFlow, framed_keyAllowed]
  split
  · rfl
  · have hroll : (s.framed F).roll (s.framed F).cursor.column (s.framed F).count .blockMapping =
        (s.roll s.cursor.column s.count .blockMapping).framed F := roll_framed hcount _ _ _
    rw [hroll]
    refine removeKey_bind_framed (by simpa using h) fun u hrest => ?_
    rw [emitOne_framed hrest, framed_inFlow]
    rfl

theorem value_framed (h : s.cursor.rest ≠ []) (hcount : s.Counted) :
    (s.framed F).value = s.value.map (framed F) := by
  unfold value
  cases hkey : s.key with
  | some key =>
    have hframed : (s.framed F).key = some (key.framed F) := by simp [framed, hkey]
    have hroll : ((s.framed F).insertAt (key.framed F).number .key).roll
          (key.framed F).position.column (key.framed F).number .blockMapping =
        ((s.insertAt key.number .key).roll key.position.column key.number
          .blockMapping).framed F := by
      rw [show (key.framed F).number = key.number + F.base.length from rfl,
        insertAt_framed hcount, roll_framed (insertAt_counted hcount _ _)]
      rfl
    rw [hframed]
    simp only [hroll]
    rw [emitOne_framed (by simpa using h)]
    rfl
  | none =>
    have hframed : (s.framed F).key = none := by simp [framed, hkey]
    have hroll : (s.framed F).roll (s.framed F).cursor.column (s.framed F).count .blockMapping =
        (s.roll s.cursor.column s.count .blockMapping).framed F := roll_framed hcount _ _ _
    rw [hframed]
    simp only [hroll, framed_inFlow, framed_keyAllowed]
    rw [emitOne_framed (by simpa using h)]
    split <;> rfl

/-- A step keeps the count right and leaves a suffix of the text. -/
def StepsTo (s t : TokenState) : Prop := t.Counted ∧ t.cursor.rest <:+ s.cursor.rest

theorem openFlow_stepsTo {token : Token} (hcount : s.Counted) (h : s.openFlow token = .ok t) :
    s.StepsTo t := by
  obtain ⟨u, hu, h⟩ := bind_eq_ok.mp h
  cases h
  obtain ⟨key, rfl⟩ := saveKey_eq_ok hu
  exact ⟨emit_counted hcount token, List.drop_suffix _ _⟩

theorem closeFlow_stepsTo {token : Token} (hcount : s.Counted) (h : s.closeFlow token = .ok t) :
    s.StepsTo t := by
  obtain ⟨u, hu, h⟩ := bind_eq_ok.mp h
  obtain rfl := removeKey_eq_ok hu
  have hstep := emit_counted hcount token
  simp only at h
  split at h <;> cases h <;> exact ⟨hstep, List.drop_suffix _ _⟩

theorem flowEntry_stepsTo (hcount : s.Counted) (h : s.flowEntry = .ok t) : s.StepsTo t := by
  obtain ⟨u, hu, h⟩ := bind_eq_ok.mp h
  cases h
  obtain rfl := removeKey_eq_ok hu
  exact ⟨emit_counted hcount .flowEntry, List.drop_suffix _ _⟩

theorem emitRolled_stepsTo {u : TokenState} {start token : Token} (hcount : s.Counted)
    (hu : (s.roll s.cursor.column s.count start).removeKey = .ok u) :
    s.StepsTo (u.emitNext 1 token) := by
  have hroll := roll_counted hcount s.cursor.column s.count start
  have hcursor : u.cursor = s.cursor := by simp [removeKey_eq_ok hu]
  refine ⟨emit_counted ?_ token, ?_⟩
  · rw [removeKey_eq_ok hu]
    exact hroll
  · rw [← hcursor]
    exact List.drop_suffix _ _

theorem blockEntry_stepsTo (hcount : s.Counted) (h : s.blockEntry = .ok t) : s.StepsTo t := by
  unfold blockEntry at h
  split at h
  · cases h
  · obtain ⟨u, hu, h⟩ := bind_eq_ok.mp h
    cases h
    exact emitRolled_stepsTo hcount hu

theorem explicitKey_stepsTo (hcount : s.Counted) (h : s.explicitKey = .ok t) : s.StepsTo t := by
  unfold explicitKey at h
  split at h
  · cases h
  · obtain ⟨u, hu, h⟩ := bind_eq_ok.mp h
    cases h
    exact emitRolled_stepsTo hcount hu

theorem value_stepsTo (hcount : s.Counted) (h : s.value = .ok t) : s.StepsTo t := by
  unfold value at h
  split at h
  · next key hkey =>
    cases h
    have hroll := roll_counted (insertAt_counted hcount key.number .key) key.position.column
      key.number .blockMapping
    refine ⟨emit_counted hroll .value, ?_⟩
    simpa [emitNext, Cursor.skip] using List.drop_suffix 1 s.cursor.rest
  · split at h
    · cases h
    · cases h
      have hroll := roll_counted hcount s.cursor.column s.count .blockMapping
      refine ⟨emit_counted hroll .value, ?_⟩
      simpa [emitNext, Cursor.skip] using List.drop_suffix 1 s.cursor.rest

theorem leaveBlocks_framed : (s.framed F).leaveBlocks = s.leaveBlocks.map (framed F) := by
  unfold leaveBlocks
  rw [unroll_framed, removeKey_framed]
  cases (s.unroll (-1)).removeKey <;> rfl

theorem leaveBlocks_counted (hcount : s.Counted) (h : s.leaveBlocks = .ok t) : t.Counted := by
  obtain ⟨u, hu, h⟩ := bind_eq_ok.mp h
  cases h
  rw [removeKey_eq_ok hu]
  exact unroll_counted hcount (-1)

theorem leaveBlocks_cursor (h : s.leaveBlocks = .ok t) : t.cursor = s.cursor := by
  obtain ⟨u, hu, h⟩ := bind_eq_ok.mp h
  cases h
  rw [removeKey_eq_ok hu]
  exact unroll_cursor (-1)

theorem doubleQuotedText_framed {n : Nat} {tail : List Char} {c d : Cursor} {token : Token}
    (hrest : c.rest ≠ []) (hplain : '\\' ∉ c.rest) (h : doubleQuotedText c = .ok (token, d)) :
    d.rest <:+ c.rest ∧
      (Clear tail d.rest → doubleQuotedText (c.framed n tail) = .ok (token, d.framed n tail)) := by
  obtain ⟨scalar, hscalar, h⟩ := bind_eq_ok.mp h
  cases h
  have hsuffix : (c.skip 1).rest <:+ c.rest := List.drop_suffix _ _
  refine ⟨(doubleQuoted_suffix hscalar).trans hsuffix, fun hclear => ?_⟩
  have hframed := doubleQuoted_framed (n := n) (fun h => hplain (hsuffix.subset h)) hscalar hclear
  rw [doubleQuotedText, Cursor.skip_framed (List.length_pos_iff.mpr hrest)]
  exact bind_eq_ok.mpr ⟨_, hframed, rfl⟩

theorem content_framed {read read' : Cursor → Except SyntaxError (Token × Cursor)}
    (hcount : s.Counted)
    (hread : ∀ token d, read s.cursor = .ok (token, d) → d.rest <:+ s.cursor.rest ∧
      (Clear F.tail d.rest → read' (s.cursor.framed F.bytes F.tail) =
        .ok (token, d.framed F.bytes F.tail)))
    (h : s.content read = .ok t) :
    s.StepsTo t ∧ (Clear F.tail t.cursor.rest → (s.framed F).content read' = .ok (t.framed F)) := by
  obtain ⟨u, hu, h⟩ := bind_eq_ok.mp h
  obtain ⟨⟨token, d⟩, hd, h⟩ := bind_eq_ok.mp h
  cases h
  obtain ⟨key, hkey⟩ := saveKey_eq_ok hu
  have hcursor : u.cursor = s.cursor := by rw [hkey]
  rw [hcursor] at hd
  obtain ⟨hsuffix, hread⟩ := hread token d hd
  refine ⟨⟨emit_counted (by rw [hkey]; exact hcount) token, hsuffix⟩, fun hclear => ?_⟩
  refine bind_eq_ok.mpr ⟨u.framed F, by rw [saveKey_framed, hu]; rfl, ?_⟩
  have hframed : (u.framed F).cursor = s.cursor.framed F.bytes F.tail := by simp [framed, hcursor]
  rw [hframed]
  refine bind_eq_ok.mpr ⟨_, hread hclear, ?_⟩
  simp only [emit_framed]
  rfl

theorem blockText_framed {folded : Bool} (hrest : s.cursor.rest ≠ []) (hcount : s.Counted)
    (h : s.blockText folded = .ok t) :
    s.StepsTo t ∧
      (Clear F.tail t.cursor.rest → (s.framed F).blockText folded = .ok (t.framed F)) := by
  obtain ⟨u, hu, h⟩ := bind_eq_ok.mp h
  obtain ⟨scalar, hscalar, h⟩ := bind_eq_ok.mp h
  cases h
  have hkey := removeKey_eq_ok hu
  have hcursor : u.cursor = s.cursor := by rw [hkey]
  rw [hcursor] at hscalar
  refine ⟨⟨emit_counted (by rw [hkey]; exact hcount) _, ?_⟩, fun hclear => ?_⟩
  · exact (blockScalar_suffix hscalar).trans (List.drop_suffix _ _)
  · refine bind_eq_ok.mpr ⟨u.framed F, by rw [removeKey_framed, hu]; rfl, ?_⟩
    have hframed : (u.framed F).cursor.skip 1 = (s.cursor.skip 1).framed F.bytes F.tail := by
      simp only [framed, hcursor]
      exact Cursor.skip_framed (List.length_pos_iff.mpr hrest)
    rw [hframed]
    refine bind_eq_ok.mpr ⟨_, blockScalar_framed hscalar hclear, ?_⟩
    simp only [emit_framed]
    rfl

theorem plainText_framed (hcount : s.Counted) (h : s.plainText = .ok t) :
    s.StepsTo t ∧ (Clear F.tail t.cursor.rest → (s.framed F).plainText = .ok (t.framed F)) := by
  obtain ⟨u, hu, h⟩ := bind_eq_ok.mp h
  obtain ⟨scalar, hscalar, h⟩ := bind_eq_ok.mp h
  cases h
  obtain ⟨key, hkey⟩ := saveKey_eq_ok hu
  have hcursor : u.cursor = s.cursor := by rw [hkey]
  refine ⟨⟨emit_counted (by rw [hkey]; exact hcount) _, ?_⟩, fun hclear => ?_⟩
  · rw [← hcursor]
    exact plainScalar_suffix hscalar
  · refine bind_eq_ok.mpr ⟨u.framed F, by rw [saveKey_framed, hu]; rfl, ?_⟩
    rw [framed_inFlow, framed_indent]
    refine bind_eq_ok.mpr ⟨_, plainScalar_framed hscalar hclear, ?_⟩
    simp only [emit_framed]
    rfl

theorem length_of_atMarker {cs : List Char} (h : atMarker cs = true) : 3 ≤ cs.length := by
  unfold atMarker at h
  split at h <;> simp_all

theorem marker_framed (hlen : 3 ≤ s.cursor.rest.length) (token : Token) :
    ((s.framed F).leaveBlocks >>= fun u => .ok (u.emitNext 3 token)) =
      (s.leaveBlocks >>= fun u => .ok (u.emitNext 3 token)).map (framed F) := by
  rw [leaveBlocks_framed]
  cases hs : s.leaveBlocks with
  | error e => rfl
  | ok u =>
    have hu : 3 ≤ u.cursor.rest.length := by rwa [leaveBlocks_cursor hs]
    simp only [Except.map, bind, Except.bind, emitNext_framed hu]

theorem marker_stepsTo {token : Token} (hcount : s.Counted)
    (h : (s.leaveBlocks >>= fun u => .ok (u.emitNext 3 token)) = .ok t) : s.StepsTo t := by
  obtain ⟨u, hu, h⟩ := bind_eq_ok.mp h
  cases h
  exact ⟨emit_counted (leaveBlocks_counted hcount hu) token,
    by rw [← leaveBlocks_cursor hu]; exact List.drop_suffix _ _⟩

def isTame (c : Char) : Bool := !"%*&!\x27\\".toList.contains c

/-- What a step makes of a state, the framed step makes of the framed state. -/
def Fits (F : Frame) (s : TokenState) (step framedStep : Except SyntaxError TokenState) : Prop :=
  ∀ t, step = .ok t → s.StepsTo t ∧ (Clear F.tail t.cursor.rest → framedStep = .ok (t.framed F))

theorem Fits.ite {c : Char} {rest : List Char} (hrest : s.cursor.rest = c :: rest)
    {p q : Prop} [Decidable p] [Decidable q] (hpq : Near F.tail rest → (q ↔ p))
    {x x' y y' : Except SyntaxError TokenState} (hthen : p → Fits F s x y)
    (helse : Fits F s x' y') :
    Fits F s (if p then x else x') (if q then y else y') := by
  have hnear {t : TokenState} (ht : s.StepsTo t) (hclear : Clear F.tail t.cursor.rest) :
      Near F.tail rest := hclear.near (hrest ▸ ht.2)
  intro t h
  by_cases hp : p
  · rw [if_pos hp] at h
    obtain ⟨ht, hframed⟩ := hthen hp t h
    exact ⟨ht, fun hclear => (if_pos ((hpq (hnear ht hclear)).mpr hp)).trans (hframed hclear)⟩
  · rw [if_neg hp] at h
    obtain ⟨ht, hframed⟩ := helse t h
    exact ⟨ht, fun hclear =>
      (if_neg (mt (hpq (hnear ht hclear)).mp hp)).trans (hframed hclear)⟩

theorem Fits.of_map {step framedStep : Except SyntaxError TokenState}
    (hmap : framedStep = step.map (framed F)) (hstep : ∀ t, step = .ok t → s.StepsTo t) :
    Fits F s step framedStep := by
  intro t h
  exact ⟨hstep t h, fun _ => by rw [hmap, h]; rfl⟩

theorem atPlain_near {c : Char} {rest : List Char} (h : Near F.tail rest) (inFlow : Bool) :
    atPlain inFlow c (rest ++ F.tail) = atPlain inFlow c rest := by
  simp [TokenState.atPlain, h.atSpacing]

theorem token_framed (hcount : s.Counted) (htame : ∀ c ∈ s.cursor.rest, isTame c) :
    Fits F s s.token (s.framed F).token := by
  cases hrest : s.cursor.rest with
  | nil =>
    intro t h
    simp only [token, hrest] at h
    obtain ⟨u, hu, h⟩ := bind_eq_ok.mp h
    cases h
    have hcursor := leaveBlocks_cursor hu
    have hsuffix : u.cursor.rest <:+ s.cursor.rest := hcursor ▸ List.suffix_rfl
    refine ⟨⟨emit_counted (leaveBlocks_counted hcount hu) .streamEnd, hsuffix⟩, ?_⟩
    rintro (htail | hlen)
    · simp only [token, framed_rest, hrest, htail, List.append_nil]
      refine bind_eq_ok.mpr ⟨u.framed F, by rw [leaveBlocks_framed, hu]; rfl, ?_⟩
      rw [emit_framed]
    · simp [emit, hcursor, hrest] at hlen
  | cons c rest =>
    have hne : s.cursor.rest ≠ [] := by simp [hrest]
    have hc : isTame c := htame c (by simp [hrest])
    have hplain : '\\' ∉ s.cursor.rest := fun hmem => absurd (htame _ hmem) (by decide)
    simp only [token, framed_rest, hrest, List.cons_append, framed_column, framed_inFlow]
    refine .ite hrest (fun _ => Iff.rfl) (fun h => absurd (h.2 ▸ hc) (by decide)) ?_
    refine .ite hrest (fun h => by rw [h.atMarker])
      (fun hmarker => .of_map (marker_framed (hrest ▸ length_of_atMarker hmarker.2) _)
        fun _ => marker_stepsTo hcount) ?_
    refine .ite hrest (fun _ => Iff.rfl)
      (fun _ => .of_map (openFlow_framed hne _) fun _ => openFlow_stepsTo hcount) ?_
    refine .ite hrest (fun _ => Iff.rfl)
      (fun _ => .of_map (openFlow_framed hne _) fun _ => openFlow_stepsTo hcount) ?_
    refine .ite hrest (fun _ => Iff.rfl)
      (fun _ => .of_map (closeFlow_framed hne _) fun _ => closeFlow_stepsTo hcount) ?_
    refine .ite hrest (fun _ => Iff.rfl)
      (fun _ => .of_map (closeFlow_framed hne _) fun _ => closeFlow_stepsTo hcount) ?_
    refine .ite hrest (fun _ => Iff.rfl)
      (fun _ => .of_map (flowEntry_framed hne) fun _ => flowEntry_stepsTo hcount) ?_
    refine .ite hrest (fun h => by rw [h.atSpacing])
      (fun _ => .of_map (blockEntry_framed hne hcount) fun _ => blockEntry_stepsTo hcount) ?_
    refine .ite hrest (fun h => by rw [h.atSpacing])
      (fun _ => .of_map (explicitKey_framed hne hcount) fun _ => explicitKey_stepsTo hcount) ?_
    refine .ite hrest (fun h => by rw [h.atSpacing])
      (fun _ => .of_map (value_framed hne hcount) fun _ => value_stepsTo hcount) ?_
    refine .ite hrest (fun _ => Iff.rfl) (fun h => absurd (h ▸ hc) (by decide)) ?_
    refine .ite hrest (fun _ => Iff.rfl) (fun h => absurd (h ▸ hc) (by decide)) ?_
    refine .ite hrest (fun _ => Iff.rfl) (fun h => absurd (h ▸ hc) (by decide)) ?_
    refine .ite hrest (fun _ => Iff.rfl) (fun _ t => blockText_framed hne hcount) ?_
    refine .ite hrest (fun _ => Iff.rfl) (fun _ t => blockText_framed hne hcount) ?_
    refine .ite hrest (fun _ => Iff.rfl) (fun h => absurd (h ▸ hc) (by decide)) ?_
    refine .ite hrest (fun _ => Iff.rfl)
      (fun _ t => content_framed hcount fun _ _ => doubleQuotedText_framed hne hplain) ?_
    refine .ite hrest (fun h => by rw [atPlain_near h]) (fun _ t => plainText_framed hcount) ?_
    exact fun t h => by cases h

end TokenState

theorem freshKey_framed {F : Frame} (p : Position) (key : Option KeyCandidate) :
    freshKey (p.shift F.bytes) (key.map (·.framed F)) =
      (freshKey p key).map (Option.map (·.framed F)) := by
  cases key with
  | none => rfl
  | some key =>
    have hstale : (key.framed F).isStale (p.shift F.bytes) = key.isStale p := by
      simp [KeyCandidate.isStale, KeyCandidate.framed, Position.shift]
      grind
    simp only [freshKey, Option.map_some, hstale]
    rw [show (key.framed F).required = key.required from rfl]
    split
    · split <;> rfl
    · rfl

theorem freshKeys_framed {F : Frame} (p : Position) (keys : List (Option KeyCandidate)) :
    freshKeys (p.shift F.bytes) (keys.map (Option.map (·.framed F))) =
      (freshKeys p keys).map (List.map (Option.map (·.framed F))) := by
  induction keys with
  | nil => rfl
  | cons key keys ih =>
    simp only [freshKeys, List.map_cons, freshKey_framed, ih]
    cases freshKey p key with
    | error e => rfl
    | ok key => cases freshKeys p keys <;> rfl

namespace TokenState

variable {F : Frame} {s t : TokenState}

/-- The spacing before the next token: whether a key may stand after it, and the place there. -/
def spacing (s : TokenState) : Bool × Cursor :=
  skipSpacing s.inFlow s.keyAllowed false s.cursor.rest s.cursor.position

def arrive (spacing : Bool × Cursor) (key : Option KeyCandidate)
    (keys : List (Option KeyCandidate)) (s : TokenState) : TokenState :=
  { s with cursor := spacing.2, keyAllowed := spacing.1, key := key, outerKeys := keys }.unroll
    spacing.2.column

theorem next_eq_ok : s.next = .ok t ↔
    ∃ key keys, freshKey s.spacing.2.position s.key = .ok key ∧
      freshKeys s.spacing.2.position s.outerKeys = .ok keys ∧
        (s.arrive s.spacing key keys).token = .ok t := by
  constructor
  · intro h
    obtain ⟨key, hkey, h⟩ := bind_eq_ok.mp h
    obtain ⟨keys, hkeys, h⟩ := bind_eq_ok.mp h
    exact ⟨key, keys, hkey, hkeys, h⟩
  · rintro ⟨key, keys, hkey, hkeys, h⟩
    exact bind_eq_ok.mpr ⟨key, hkey, bind_eq_ok.mpr ⟨keys, hkeys, h⟩⟩

theorem spacing_suffix : s.spacing.2.rest <:+ s.cursor.rest := skipSpacing_suffix _ _ _ _ _

theorem spacing_framed (hclear : Clear F.tail s.spacing.2.rest) :
    (s.framed F).spacing = (s.spacing.1, s.spacing.2.framed F.bytes F.tail) := by
  rw [spacing, framed_inFlow, framed_keyAllowed]
  exact skipSpacing_framed hclear

@[simp] theorem arrive_cursor (spacing : Bool × Cursor) (key : Option KeyCandidate)
    (keys : List (Option KeyCandidate)) : (s.arrive spacing key keys).cursor = spacing.2 := by
  simp [arrive]

theorem next_framed (hcount : s.Counted) (htame : ∀ c ∈ s.cursor.rest, isTame c) :
    Fits F s s.next (s.framed F).next := by
  intro t h
  obtain ⟨key, keys, hkey, hkeys, h⟩ := next_eq_ok.mp h
  have hcounted : (s.arrive s.spacing key keys).Counted := unroll_counted (by exact hcount) _
  have hrest : (s.arrive s.spacing key keys).cursor.rest <:+ s.cursor.rest := by
    simpa using spacing_suffix
  obtain ⟨ht, hframed⟩ :=
    token_framed (F := F) hcounted (fun c hc => htame c (hrest.subset hc)) t h
  refine ⟨⟨ht.1, ht.2.trans hrest⟩, fun hclear => next_eq_ok.mpr ?_⟩
  have hspacing := spacing_framed (F := F) (hclear.mono (by simpa using ht.2))
  refine ⟨key.map (·.framed F), keys.map (Option.map (·.framed F)), ?_, ?_, ?_⟩
  · rw [hspacing]
    exact (freshKey_framed _ _).trans (congrArg _ hkey)
  · rw [hspacing]
    exact (freshKeys_framed _ _).trans (congrArg _ hkeys)
  · rw [hspacing, ← hframed hclear]
    exact congrArg token (unroll_framed (s := { s with
      cursor := s.spacing.2, keyAllowed := s.spacing.1, key := key, outerKeys := keys }) _)

/-- The state after a number of tokens, none of which is the last. -/
def advance : Nat → TokenState → Option TokenState
  | 0, s => some s
  | k + 1, s =>
    match s.next with
    | .ok t => if t.reversed.head? = some .streamEnd then none else advance k t
    | .error _ => none

theorem run_of_advance {k : Nat} (fuel : Nat) (h : s.advance k = some t) :
    s.run (k + fuel) = t.run fuel := by
  induction k generalizing s with
  | zero =>
    cases h
    rw [Nat.zero_add]
  | succ k ih =>
    rw [Nat.succ_add, run]
    unfold advance at h
    split at h
    · next u hu =>
      split at h
      · cases h
      · next hend =>
        rw [hu]
        exact (if_neg hend).trans (ih h)
    · cases h

theorem head?_framed (hbase : F.base.head? ≠ some .streamEnd) :
    (s.framed F).reversed.head? = some .streamEnd ↔ s.reversed.head? = some .streamEnd := by
  cases hs : s.reversed with
  | nil => simp [framed, hs, hbase]
  | cons token rest => simp [framed, hs]

theorem advance_framed {k : Nat} (hcount : s.Counted) (htame : ∀ c ∈ s.cursor.rest, isTame c)
    (hbase : F.base.head? ≠ some .streamEnd) (h : s.advance k = some t) :
    s.StepsTo t ∧ (Clear F.tail t.cursor.rest → (s.framed F).advance k = some (t.framed F)) := by
  -- every step leaves a suffix, so what is clear in the end was clear before every step
  induction k generalizing s with
  | zero =>
    cases h
    exact ⟨⟨hcount, List.suffix_rfl⟩, fun _ => rfl⟩
  | succ k ih =>
    unfold advance at h
    split at h
    · next u hu =>
      split at h
      · cases h
      · next hend =>
        obtain ⟨hstep, hframed⟩ := next_framed (F := F) hcount htame u hu
        obtain ⟨ht, hrest⟩ := ih hstep.1 (fun c hc => htame c (hstep.2.subset hc)) h
        refine ⟨⟨ht.1, ht.2.trans hstep.2⟩, fun hclear => ?_⟩
        rw [advance, hframed (hclear.mono ht.2)]
        exact (if_neg (mt (head?_framed hbase).mp hend)).trans (hrest hclear)
    · cases h

/-- A run over the last piece of a text finds the tokens of that piece after those before it. -/
theorem run_framed {k : Nat} (fuel : Nat) {ts : List Token} (hcount : s.Counted)
    (htame : ∀ c ∈ s.cursor.rest, isTame c) (hbase : F.base.head? ≠ some .streamEnd)
    (htail : F.tail = []) (h : s.run k = (ts, none)) :
    (s.framed F).run (k + fuel) = (F.base.reverse ++ ts, none) := by
  induction k generalizing s with
  | zero => cases h
  | succ k ih =>
    rw [run] at h
    split at h
    · cases h
    · next u hu =>
      obtain ⟨hstep, hframed⟩ := next_framed (F := F) hcount htame u hu
      rw [Nat.succ_add, run, hframed (.inl htail)]
      simp only
      split at h
      · next hend =>
        cases h
        rw [if_pos ((head?_framed hbase).mpr hend)]
        simp [framed]
      · next hend =>
        rw [if_neg (mt (head?_framed hbase).mp hend)]
        exact ih hstep.1 (fun c hc => htame c (hstep.2.subset hc)) h

end TokenState

end OverlayConfig.Yaml
