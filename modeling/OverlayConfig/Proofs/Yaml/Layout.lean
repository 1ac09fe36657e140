import OverlayConfig.Proofs.Yaml.Opaque
import OverlayConfig.Proofs.Yaml.Slots
/-!
Texts with slots. Whether the slots of a text hold what is put into them is checked piece by piece,
with the names of the slots in their place: then for every text that keeps to its slot the values of
the filled text are those of the text with the names, with the texts in the place of the names.
-/
set_option autoImplicit false

namespace OverlayConfig.Yaml

/-- A text with slots: lines of literal block scalars, of which the last may end the text, and
values of the key `image` in double quotes. -/
inductive Layout where
  | text (cs : List Char)
  | line (before name : List Char) (after : Layout)
  | lastLine (before name : List Char)
  | image (before name : List Char) (after : Layout)

def imageOpening : List Char := imageKey ++ [':', ' ', '\x22']

/-- The token is no scalar with a name as its text, unless it is plain. -/
def Token.avoids (names : List (List Char)) : Token → Bool
  | .scalar text kind => kind = .plain || !names.contains text
  | _ => true

def TokenState.reach (stop : List Char) : Nat → TokenState → Option TokenState
  | 0, s => if s.cursor.rest = stop then some s else none
  | fuel + 1, s =>
    if s.cursor.rest = stop then some s
    else
      match s.next with
      | .ok t => if t.reversed.head? = some .streamEnd then none else reach stop fuel t
      | .error _ => none

namespace Layout

def render (fill : List Char → List Char) : Layout → List Char
  | .text cs => cs
  | .line before name after => before ++ lineOpening ++ (fill name ++ '\n' :: after.render fill)
  | .lastLine before name => before ++ lineOpening ++ fill name
  | .image before name after =>
    before ++ imageOpening ++ (fill name ++ '\x22' :: '\n' :: after.render fill)

def Fits (fill : List Char → List Char) : Layout → Prop
  | .text _ => True
  | .line _ name after => (IsLine (fill name) ∧ ∀ c ∈ fill name, isAllowed c) ∧ after.Fits fill
  | .lastLine _ name => IsLine (fill name) ∧ ∀ c ∈ fill name, isAllowed c
  | .image _ name after => (∀ c ∈ fill name, isHeld c ∧ isAllowed c) ∧ after.Fits fill

def opening : Layout → List Char
  | .text cs => cs
  | .line before .. | .lastLine before _ | .image before .. => before

/-- A piece of the text that the scanner reads the same way wherever it stands. -/
def isSteady (cs : List Char) : Bool := cs.all fun c => TokenState.isTame c && isAllowed c

/-- Outside of flow collections, with no key to come and no name among the tokens. -/
def isOpen (names : List (List Char)) (s : TokenState) : Bool :=
  s.key.isNone && s.outerKeys.isEmpty && s.reversed.all (Token.avoids names)

/-- The state in front of a slot, if the piece before it leads there. -/
def before? (names : List (List Char)) (indent : Int) (outer : List Int) (line : Nat)
    (before stop : List Char) : Option TokenState :=
  if isSteady before then
    ((TokenState.lineStart indent outer line (before ++ stop)).reach stop before.length).filter
      (isOpen names)
  else none

/-- The tokens of the text with the names in its slots, if every slot is one. -/
def scan (names : List (List Char)) (indent : Int) (outer : List Int) (line : Nat) :
    Layout → Option (List Token)
  | .text cs =>
    match (TokenState.lineStart indent outer line cs).run (cs.length + 2) with
    | (ts, none) => if isSteady cs && ts.all (Token.avoids names) then some ts else none
    | _ => none
  | .line before name after => do
    let s ← before? names indent outer line before lineOpening
    if s.indent ≤ 3 && s.indent ≤ s.cursor.column && !atSpacing after.opening then
      let ts ← after.scan names s.indent s.outerIndents (s.cursor.position.line + 2)
      some (s.reversed.reverse ++ .scalar name .literal :: ts)
    else none
  | .lastLine before name => do
    let s ← before? names indent outer line before lineOpening
    if s.indent ≤ 3 && s.indent ≤ s.cursor.column then
      some (s.reversed.reverse ++ .scalar name .literal ::
        TokenState.endTokens s.indent s.outerIndents)
    else none
  | .image before name after => do
    let s ← before? names indent outer line before imageOpening
    if s.keyAllowed && s.indent = s.cursor.column then
      let ts ← after.scan names s.indent s.outerIndents (s.cursor.position.line + 1)
      some (s.reversed.reverse ++ .key :: .scalar imageKey .plain :: .value ::
        .scalar name .quoted :: ts)
    else none

end Layout

namespace TokenState

variable {s t : TokenState}

theorem reach_eq_some {stop : List Char} {fuel : Nat} (h : s.reach stop fuel = some t) :
    t.cursor.rest = stop ∧ ∃ k ≤ fuel, s.advance k = some t := by
  induction fuel generalizing s with
  | zero =>
    rw [reach] at h
    split at h
    · next hstop =>
      cases h
      exact ⟨hstop, 0, Nat.le_refl 0, rfl⟩
    · cases h
  | succ fuel ih =>
    rw [reach] at h
    split at h
    · next hstop =>
      cases h
      exact ⟨hstop, 0, Nat.zero_le _, rfl⟩
    · split at h
      · next u hu =>
        split at h
        · cases h
        · next hend =>
          obtain ⟨hstop, k, hk, hadvance⟩ := ih h
          refine ⟨hstop, k + 1, Nat.succ_le_succ hk, ?_⟩
          rw [advance, hu]
          exact (if_neg hend).trans hadvance
      · cases h

theorem lineStart_counted {indent : Int} {outer : List Int} {line : Nat} {cs : List Char} :
    (lineStart indent outer line cs).Counted := rfl

theorem framed_counted {F : Frame} (h : s.Counted) : (s.framed F).Counted := by
  have hcount : s.count = s.reversed.length := h
  simp [Counted, framed, hcount]

theorem lineStart_framed_tail (indent : Int) (outer : List Int) (line : Nat) (cs tail : List Char)
    (bytes : Nat) (base : List Token) :
    (lineStart indent outer line cs).framed ⟨bytes, base, tail⟩ =
      (lineStart indent outer line (cs ++ tail)).framed ⟨bytes, base, []⟩ := by
  simp [framed, Cursor.framed, lineStart]

/-- A state at the start of a line is the one with nothing before the line, framed by what is. -/
theorem eq_lineStart_framed {next : List Char} {q : Position} (hcursor : s.cursor = ⟨next, q⟩)
    (hcount : s.Counted) (hallowed : s.keyAllowed = true) (hkey : s.key = none)
    (hkeys : s.outerKeys = []) (hcolumn : q.column = 0) :
    s = (lineStart s.indent s.outerIndents q.line next).framed ⟨q.index, s.reversed, []⟩ := by
  obtain ⟨cursor, reversed, count, indent, outer, allowed, key, keys⟩ := s
  obtain rfl : cursor = _ := hcursor
  obtain rfl : count = reversed.length := hcount
  obtain rfl : allowed = true := hallowed
  obtain rfl : key = none := hkey
  obtain rfl : keys = [] := hkeys
  obtain ⟨index, qline, column⟩ := q
  obtain rfl : column = 0 := hcolumn
  simp [framed, Cursor.framed, lineStart, Position.shift]

end TokenState

namespace Layout

variable {names : List (List Char)} {indent : Int} {outer : List Int} {row : Nat}

theorem before?_eq_some {before stop : List Char} {s : TokenState}
    (h : before? names indent outer row before stop = some s) :
    isSteady before ∧ isOpen names s ∧
      (TokenState.lineStart indent outer row (before ++ stop)).reach stop before.length =
        some s := by
  rw [before?] at h
  split at h
  · next hsteady =>
    obtain ⟨hreach, hopen⟩ := Option.filter_eq_some_iff.mp h
    exact ⟨hsteady, hopen, hreach⟩
  · cases h

theorem tame_of_isSteady {cs : List Char} (h : isSteady cs) : ∀ c ∈ cs, TokenState.isTame c := by
  simp only [isSteady, List.all_eq_true, Bool.and_eq_true] at h
  exact fun c hc => (h c hc).1

section Scan

variable {ts : List Token} {before name : List Char} {after : Layout}

theorem scan_text_eq_some {cs : List Char} (h : (text cs).scan names indent outer row = some ts) :
    isSteady cs ∧ ts.all (Token.avoids names) ∧
      (TokenState.lineStart indent outer row cs).run (cs.length + 2) = (ts, none) := by
  rw [scan] at h
  split at h
  · next ts' hrun =>
    split at h
    · next hsteady =>
      cases h
      obtain ⟨hsteady, havoids⟩ := Bool.and_eq_true_iff.mp hsteady
      exact ⟨hsteady, havoids, hrun⟩
    · cases h
  · cases h

theorem scan_line_eq_some (h : (line before name after).scan names indent outer row = some ts) :
    ∃ s ts', before? names indent outer row before lineOpening = some s ∧
      (s.indent ≤ 3 ∧ s.indent ≤ s.cursor.column ∧ atSpacing after.opening = false) ∧
      after.scan names s.indent s.outerIndents (s.cursor.position.line + 2) = some ts' ∧
      ts = s.reversed.reverse ++ .scalar name .literal :: ts' := by
  obtain ⟨s, hs, h⟩ := Option.bind_eq_some_iff.mp h
  split at h
  · next hplace =>
    obtain ⟨ts', hts, h⟩ := Option.bind_eq_some_iff.mp h
    cases h
    simp only [Bool.and_eq_true, decide_eq_true_eq, Bool.not_eq_true', and_assoc] at hplace
    exact ⟨s, ts', hs, hplace, hts, rfl⟩
  · cases h

theorem scan_lastLine_eq_some (h : (lastLine before name).scan names indent outer row = some ts) :
    ∃ s, before? names indent outer row before lineOpening = some s ∧
      (s.indent ≤ 3 ∧ s.indent ≤ s.cursor.column) ∧
      ts = s.reversed.reverse ++ .scalar name .literal ::
        TokenState.endTokens s.indent s.outerIndents := by
  obtain ⟨s, hs, h⟩ := Option.bind_eq_some_iff.mp h
  split at h
  · next hplace =>
    cases h
    simp only [Bool.and_eq_true, decide_eq_true_eq] at hplace
    exact ⟨s, hs, hplace, rfl⟩
  · cases h

theorem scan_image_eq_some (h : (image before name after).scan names indent outer row = some ts) :
    ∃ s ts', before? names indent outer row before imageOpening = some s ∧
      (s.keyAllowed = true ∧ s.indent = s.cursor.column) ∧
      after.scan names s.indent s.outerIndents (s.cursor.position.line + 1) = some ts' ∧
      ts = s.reversed.reverse ++ .key :: .scalar imageKey .plain :: .value ::
        .scalar name .quoted :: ts' := by
  obtain ⟨s, hs, h⟩ := Option.bind_eq_some_iff.mp h
  split at h
  · next hplace =>
    obtain ⟨ts', hts, h⟩ := Option.bind_eq_some_iff.mp h
    cases h
    simp only [Bool.and_eq_true, decide_eq_true_eq] at hplace
    exact ⟨s, ts', hs, hplace, hts, rfl⟩
  · cases h

end Scan

/-- What the check of a piece tells about the state in front of its slot. -/
structure Leads (names : List (List Char)) (indent : Int) (outer : List Int) (row : Nat)
    (before stop : List Char) (s : TokenState) : Prop where
  key : s.key = none
  outerKeys : s.outerKeys = []
  rest : s.cursor.rest = stop
  avoids : s.reversed.all (Token.avoids names)
  counted : s.Counted
  advance (F : Frame) (h : F.base.head? ≠ some .streamEnd) : ∃ k ≤ before.length,
    ((TokenState.lineStart indent outer row (before ++ stop)).framed F).advance k =
      some (s.framed F)

theorem leads_of_before? {before stop : List Char} {s : TokenState}
    (h : before? names indent outer row before stop = some s)
    (hstop : ∀ c ∈ stop, TokenState.isTame c) (hlength : 4 ≤ stop.length) :
    Leads names indent outer row before stop s := by
  obtain ⟨hsteady, hopen, hreach⟩ := before?_eq_some h
  simp only [isOpen, Bool.and_eq_true, Option.isNone_iff_eq_none, List.isEmpty_iff] at hopen
  obtain ⟨⟨hkey, hkeys⟩, havoids⟩ := hopen
  obtain ⟨hrest, k, hk, hadvance⟩ := TokenState.reach_eq_some hreach
  have htame : ∀ c ∈ (TokenState.lineStart indent outer row (before ++ stop)).cursor.rest,
      TokenState.isTame c :=
    fun c hc => (List.mem_append.mp hc).elim (tame_of_isSteady hsteady c) (hstop c)
  have hframed (F : Frame) (hbase : F.base.head? ≠ some .streamEnd) :=
    TokenState.advance_framed (F := F) TokenState.lineStart_counted htame hbase hadvance
  exact ⟨hkey, hkeys, hrest, havoids, (hframed ⟨0, [], []⟩ nofun).1.1,
    fun F hbase => ⟨k, hk, (hframed F hbase).2 (.inr (hrest ▸ hlength))⟩⟩

/-- From the start of a line the scanner finds these tokens, whatever stands before the line. -/
def Finds (indent : Int) (outer : List Int) (row : Nat) (cs : List Char) (ts : List Token) : Prop :=
  ∀ (bytes : Nat) (base : List Token) (extra : Nat), base.head? ≠ some .streamEnd →
    ((TokenState.lineStart indent outer row cs).framed ⟨bytes, base, []⟩).run
      (cs.length + 2 + extra) = (base.reverse ++ ts, none)

theorem Finds.text {cs : List Char} {ts : List Token} (hsteady : isSteady cs)
    (hrun : (TokenState.lineStart indent outer row cs).run (cs.length + 2) = (ts, none)) :
    Finds indent outer row cs ts := fun _ _ extra hbase =>
  TokenState.run_framed extra TokenState.lineStart_counted (tame_of_isSteady hsteady) hbase rfl hrun

theorem Finds.run {s : TokenState} {cs : List Char} {ts : List Token}
    (h : Finds s.indent s.outerIndents s.cursor.position.line cs ts) (hrest : s.cursor.rest = cs)
    (hcolumn : s.cursor.position.column = 0) (hcounted : s.Counted) (hallowed : s.keyAllowed = true)
    (hkey : s.key = none) (hkeys : s.outerKeys = [])
    (hlast : s.reversed.head? ≠ some .streamEnd) (extra : Nat) :
    s.run (cs.length + 2 + extra) = (s.reversed.reverse ++ ts, none) := by
  have hcursor : s.cursor = ⟨cs, s.cursor.position⟩ := by rw [← hrest]
  have hframed := TokenState.eq_lineStart_framed hcursor hcounted hallowed hkey hkeys hcolumn
  exact (congrArg (TokenState.run _) hframed).trans (h _ _ extra hlast)

section Slot

variable {before : List Char} {s : TokenState} {v next : List Char} {ts : List Token}

theorem Leads.framed {stop : List Char} (h : Leads names indent outer row before stop s)
    (F : Frame) :
    (s.framed F).key = none ∧ (s.framed F).outerKeys = [] ∧ (s.framed F).Counted ∧
      (s.framed F).cursor.rest = stop ++ F.tail :=
  ⟨by simp [TokenState.framed, h.key], by simp [TokenState.framed, h.outerKeys],
    TokenState.framed_counted h.counted, by rw [TokenState.framed_rest, h.rest]⟩

theorem Finds.line (hleads : Leads names indent outer row before lineOpening s)
    (hindent : s.indent ≤ 3) (hcolumn : s.indent ≤ s.cursor.column) (hv : IsLine v)
    (hflush : StartsFlush next)
    (hnext : Finds s.indent s.outerIndents (s.cursor.position.line + 2) next ts) :
    Finds indent outer row (before ++ lineOpening ++ (v ++ '\n' :: next))
      (s.reversed.reverse ++ .scalar v .literal :: ts) := by
  intro bytes base extra hbase
  let F : Frame := ⟨bytes, base, v ++ '\n' :: next⟩
  obtain ⟨k, hk, hadvance⟩ := hleads.advance F hbase
  obtain ⟨hkey, hkeys, hcounted, hrest⟩ := hleads.framed F
  obtain ⟨q, hstep, hq⟩ :=
    TokenState.next_literal hkey hkeys hindent hcolumn hrest hv (.broken next hflush)
  obtain ⟨hline, hzero⟩ := hq (by simp)
  let u : TokenState := { (s.framed F).emit (.scalar v .literal) with
    cursor := ⟨next, q⟩, keyAllowed := true }
  have hlast : (s.framed F).advance 1 = some u := by
    rw [TokenState.advance, hstep]
    rfl
  obtain ⟨fuel, hfuel⟩ : ∃ fuel, (before ++ lineOpening ++ (v ++ '\n' :: next)).length + 2 + extra =
      k + (1 + (next.length + 2 + fuel)) := by
    refine ⟨before.length - k + 8 + v.length + extra, ?_⟩
    simp only [List.length_append, List.length_cons, lineOpening, List.length_nil]
    omega
  have hfound : Finds u.indent u.outerIndents u.cursor.position.line next ts := hline ▸ hnext
  have hopen : u.reversed.head? ≠ some .streamEnd := by simp [u, TokenState.emit]
  have hrun := hfound.run rfl hzero (TokenState.emit_counted hcounted _) rfl hkey hkeys hopen fuel
  rw [← TokenState.lineStart_framed_tail, hfuel, TokenState.run_of_advance _ hadvance,
    TokenState.run_of_advance _ hlast, hrun]
  simp [u, TokenState.framed, TokenState.emit, F]

theorem Finds.lastLine (hleads : Leads names indent outer row before lineOpening s)
    (hindent : s.indent ≤ 3) (hcolumn : s.indent ≤ s.cursor.column) (hv : IsLine v) :
    Finds indent outer row (before ++ lineOpening ++ v)
      (s.reversed.reverse ++ .scalar v .literal ::
        TokenState.endTokens s.indent s.outerIndents) := by
  intro bytes base extra hbase
  let F : Frame := ⟨bytes, base, v⟩
  obtain ⟨k, hk, hadvance⟩ := hleads.advance F hbase
  obtain ⟨hkey, hkeys, -, hrest⟩ := hleads.framed F
  have hrest' : (s.framed F).cursor.rest = lineOpening ++ (v ++ []) := by
    rw [hrest, List.append_nil]
  obtain ⟨q, hstep, -⟩ := TokenState.next_literal hkey hkeys hindent hcolumn hrest' hv .ended
  let u : TokenState := { (s.framed F).emit (.scalar v .literal) with
    cursor := ⟨[], q⟩, keyAllowed := true }
  have hlast : (s.framed F).advance 1 = some u := by
    rw [TokenState.advance, hstep]
    rfl
  obtain ⟨fuel, hfuel⟩ : ∃ fuel, (before ++ lineOpening ++ v).length + 2 + extra =
      k + (1 + (fuel + 1)) := by
    refine ⟨before.length - k + 8 + v.length + extra, ?_⟩
    simp only [List.length_append, List.length_cons, lineOpening, List.length_nil]
    omega
  have hrun := TokenState.run_end (s := u) hkey hkeys rfl fuel
  rw [← TokenState.lineStart_framed_tail, hfuel, TokenState.run_of_advance _ hadvance,
    TokenState.run_of_advance _ hlast, hrun]
  simp [u, TokenState.framed, TokenState.emit, F]

theorem Finds.image (hleads : Leads names indent outer row before imageOpening s)
    (hallowed : s.keyAllowed = true) (hindent : s.indent = s.cursor.column)
    (hv : ∀ c ∈ v, isHeld c = true)
    (hnext : Finds s.indent s.outerIndents (s.cursor.position.line + 1) next ts) :
    Finds indent outer row (before ++ imageOpening ++ (v ++ '\x22' :: '\n' :: next))
      (s.reversed.reverse ++ .key :: .scalar imageKey .plain :: .value ::
        .scalar v .quoted :: ts) := by
  intro bytes base extra hbase
  let F : Frame := ⟨bytes, base, v ++ '\x22' :: '\n' :: next⟩
  obtain ⟨k, hk, hadvance⟩ := hleads.advance F hbase
  obtain ⟨hkey, hkeys, hcounted, hrest⟩ := hleads.framed F
  obtain ⟨q, hlast, hline⟩ :=
    TokenState.advance_image hv hkey hkeys hallowed hindent (hrest.trans (List.append_assoc ..))
  let t : TokenState := { s.framed F with
    cursor := ⟨'\n' :: next, q⟩
    reversed := .scalar v .quoted :: .value :: .scalar imageKey .plain :: .key ::
      (s.framed F).reversed
    count := (s.framed F).count + 4
    keyAllowed := false }
  let u : TokenState := { t with cursor := ⟨next, q.nextLine '\n'⟩, keyAllowed := true }
  have hfeed : t.next = u.next := TokenState.next_feed hkey hkeys rfl
  obtain ⟨fuel, hfuel⟩ : ∃ fuel,
      (before ++ imageOpening ++ (v ++ '\x22' :: '\n' :: next)).length + 2 + extra =
        k + (3 + (next.length + 2 + fuel)) := by
    refine ⟨before.length - k + 8 + v.length + extra - 1, ?_⟩
    simp only [List.length_append, List.length_cons, imageOpening, imageKey, List.length_nil]
    omega
  have hrow : u.cursor.position.line = s.cursor.position.line + 1 := congrArg (· + 1) hline
  have hfound : Finds u.indent u.outerIndents u.cursor.position.line next ts := by
    rw [hrow]
    exact hnext
  have hopen : u.reversed.head? ≠ some .streamEnd := by simp [u, t]
  have hrun := hfound.run rfl rfl (congrArg (· + 4) hcounted) rfl hkey hkeys hopen fuel
  have hfed : t.run (next.length + 2 + fuel) = (u.reversed.reverse ++ ts, none) := by
    rw [show next.length + 2 + fuel = next.length + 1 + fuel + 1 by omega] at hrun ⊢
    exact TokenState.run_of_next hfeed hrun
  rw [← TokenState.lineStart_framed_tail, hfuel, TokenState.run_of_advance _ hadvance,
    TokenState.run_of_advance _ hlast, hfed]
  simp [u, t, TokenState.framed, F]

end Slot

section Filled

variable {fill : List Char → List Char}

theorem retext_of_avoids (hfill : ∀ text, text ∉ names → fill text = text) {t : Token}
    (h : t.avoids names) : t.retext fill = t := by
  cases t
  case scalar text kind =>
    simp only [Token.avoids, Bool.or_eq_true, decide_eq_true_eq, Bool.not_eq_true',
      List.contains_iff_mem, ← Bool.not_eq_true] at h
    simp only [Token.retext, ScalarKind.retext]
    rcases h with rfl | h
    · rfl
    · rw [hfill text h, ite_self]
  all_goals rfl

theorem map_retext_of_avoids (hfill : ∀ text, text ∉ names → fill text = text) {ts : List Token}
    (h : ts.all (Token.avoids names)) : ts.map (Token.retext fill) = ts := by
  rw [List.all_eq_true] at h
  exact (List.map_congr_left fun t ht => retext_of_avoids hfill (h t ht)).trans (List.map_id' ts)

theorem startsFlush_render {l : Layout} (h : atSpacing l.opening = false) :
    StartsFlush (l.render fill) := by
  have hopening {cs : List Char} (h : atSpacing cs = false) (more : List Char) :
      StartsFlush (cs ++ more) := by
    cases cs with
    | nil => cases h
    | cons c cs =>
      intro d hd
      cases hd
      exact h
  cases l with
  | text cs => simpa [render, opening] using hopening h []
  | line before name after => simpa [render, opening] using hopening h _
  | lastLine before name => simpa [render, opening] using hopening h _
  | image before name after => simpa [render, opening] using hopening h _

/-- The tokens before a slot have no name among them, so they are the same in the filled text. -/
theorem Leads.map_retext {before stop : List Char} {s : TokenState}
    (h : Leads names indent outer row before stop s)
    (hfill : ∀ text, text ∉ names → fill text = text) (ts : List Token) :
    (s.reversed.reverse ++ ts).map (Token.retext fill) =
      s.reversed.reverse ++ ts.map (Token.retext fill) := by
  rw [List.map_append, List.map_reverse, map_retext_of_avoids hfill h.avoids]

/-- The filled text has the tokens of the text with the names, with the texts in their place. -/
theorem finds_render (hfill : ∀ text, text ∉ names → fill text = text) (l : Layout)
    (hfits : l.Fits fill) {indent : Int} {outer : List Int} {row : Nat} {ts : List Token}
    (h : l.scan names indent outer row = some ts) :
    Finds indent outer row (l.render fill) (ts.map (Token.retext fill)) := by
  -- the scan follows the text with the names; what comes before a slot leads to the same state
  -- whatever fills the slot, and after it both go on at the start of a line
  induction l generalizing indent outer row ts with
  | text cs =>
    obtain ⟨hsteady, havoids, hrun⟩ := scan_text_eq_some h
    rw [map_retext_of_avoids hfill havoids]
    exact .text hsteady hrun
  | line before name after ih =>
    obtain ⟨s, ts', hs, ⟨hindent, hcolumn, hflush⟩, hts, rfl⟩ := scan_line_eq_some h
    have hleads := leads_of_before? hs (List.all_eq_true.mp (by decide)) (by decide)
    have hfound := Finds.line hleads hindent hcolumn hfits.1.1 (startsFlush_render hflush)
      (ih hfits.2 hts)
    simpa [render, hleads.map_retext hfill, Token.retext, ScalarKind.retext] using hfound
  | lastLine before name =>
    obtain ⟨s, hs, ⟨hindent, hcolumn⟩, rfl⟩ := scan_lastLine_eq_some h
    have hleads := leads_of_before? hs (List.all_eq_true.mp (by decide)) (by decide)
    have hfound := Finds.lastLine hleads hindent hcolumn hfits.1
    simpa [render, hleads.map_retext hfill, Token.retext, ScalarKind.retext,
      TokenState.endTokens] using hfound
  | image before name after ih =>
    obtain ⟨s, ts', hs, ⟨hallowed, hindent⟩, hts, rfl⟩ := scan_image_eq_some h
    have hleads := leads_of_before? hs (List.all_eq_true.mp (by decide)) (by decide)
    have hfound := Finds.image hleads hallowed hindent (fun c hc => (hfits.1 c hc).1)
      (ih hfits.2 hts)
    simpa [render, hleads.map_retext hfill, Token.retext, ScalarKind.retext] using hfound

theorem allowed_of_isSteady {cs : List Char} (h : isSteady cs) : ∀ c ∈ cs, isAllowed c := by
  simp only [isSteady, List.all_eq_true, Bool.and_eq_true] at h
  exact fun c hc => (h c hc).2

theorem allowed_slot {before opening more : List Char} (hbefore : isSteady before)
    (hopening : ∀ c ∈ opening, isAllowed c) (hmore : ∀ c ∈ more, isAllowed c) :
    ∀ c ∈ before ++ opening ++ more, isAllowed c := by
  intro c hc
  rcases List.mem_append.mp hc with hc | hc
  · exact (List.mem_append.mp hc).elim (allowed_of_isSteady hbefore c) (hopening c)
  · exact hmore c hc

theorem allowed_render (l : Layout) (hfits : l.Fits fill) {indent : Int} {outer : List Int}
    {row : Nat} {ts : List Token} (h : l.scan names indent outer row = some ts) :
    ∀ c ∈ l.render fill, isAllowed c := by
  induction l generalizing indent outer row ts with
  | text cs => exact allowed_of_isSteady (scan_text_eq_some h).1
  | line before name after ih =>
    obtain ⟨s, ts', hs, -, hts, -⟩ := scan_line_eq_some h
    refine allowed_slot (before?_eq_some hs).1 (List.all_eq_true.mp (by decide)) fun c hc => ?_
    simp only [List.mem_append, List.mem_cons] at hc
    rcases hc with hc | rfl | hc
    · exact hfits.1.2 c hc
    · decide
    · exact ih hfits.2 hts c hc
  | lastLine before name =>
    obtain ⟨s, hs, -⟩ := scan_lastLine_eq_some h
    exact allowed_slot (before?_eq_some hs).1 (List.all_eq_true.mp (by decide)) hfits.2
  | image before name after ih =>
    obtain ⟨s, ts', hs, -, hts, -⟩ := scan_image_eq_some h
    refine allowed_slot (before?_eq_some hs).1 (List.all_eq_true.mp (by decide)) fun c hc => ?_
    simp only [List.mem_append, List.mem_cons] at hc
    rcases hc with hc | rfl | rfl | hc
    · exact (hfits.1 c hc).2
    · decide
    · decide
    · exact ih hfits.2 hts c hc

theorem tokens_render (hfill : ∀ text, text ∉ names → fill text = text) {l : Layout}
    (hfits : l.Fits fill) {ts : List Token} (h : l.scan names (-1) [] 0 = some ts) :
    tokens (l.render fill) = (ts.map (Token.retext fill), none) := by
  have hallowed : (l.render fill).all isAllowed :=
    List.all_eq_true.mpr (allowed_render l hfits h)
  have hstart : (TokenState.lineStart (-1) [] 0 (l.render fill)).framed ⟨0, [], []⟩ =
      TokenState.start (l.render fill) := by
    rw [TokenState.lineStart_framed_tail]
    simp [TokenState.framed, Cursor.framed, TokenState.lineStart, TokenState.start,
      Position.shift, Position.start]
  have hrun := finds_render hfill l hfits h 0 [] 0 (by simp)
  rw [tokens, if_pos hallowed, ← hstart]
  exact hrun

/-- The values of the text with the names in its slots, if every slot is one. -/
def values? (names : List (List Char)) (l : Layout) : Option (List Json) := do
  let ts ← l.scan names (-1) [] 0
  match documentsOf ts with
  | (ds, none) =>
    match readValues ds with
    | (vs, false) => if ds.all fun d => d.root.avoids names then some vs else none
    | _ => none
  | _ => none

/-- A text with the tokens of the text with the names has its values, with other texts for the
names. -/
theorem values_of_tokens (hfill : ∀ text, text ∉ names → fill text = text) {l : Layout}
    {vs : List Json} (h : l.values? names = some vs) {cs : List Char}
    (htokens : ∀ ts, l.scan names (-1) [] 0 = some ts →
      tokens cs = (ts.map (Token.retext fill), none)) :
    values cs = (vs.map (Json.retext fill), false) := by
  obtain ⟨ts, hts, h⟩ := Option.bind_eq_some_iff.mp h
  split at h
  · next ds hds =>
    split at h
    · next vs' hvs =>
      split at h
      · next havoids =>
        cases h
        exact values_retext hfill (htokens ts hts) hds havoids hvs
      · cases h
    · cases h
  · cases h

theorem values_render (hfill : ∀ text, text ∉ names → fill text = text) {l : Layout}
    (hfits : l.Fits fill) {vs : List Json} (h : l.values? names = some vs) :
    values (l.render fill) = (vs.map (Json.retext fill), false) :=
  values_of_tokens hfill h fun _ hts => tokens_render hfill hfits hts

end Filled

end Layout

end OverlayConfig.Yaml
