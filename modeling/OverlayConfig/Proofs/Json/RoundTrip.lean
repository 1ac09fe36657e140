import OverlayConfig.Json.Reader
import OverlayConfig.Proofs.Fields
/-!
Reading back what was written. The reader takes the text of a value apart again, and what it builds
is the value with its mappings in order, as long as the numbers of the value are integers that the
reader keeps exact.
-/
set_option autoImplicit false

namespace OverlayConfig.Json

section Strings

theorem hexValue?_hexDigit {n : Nat} (h : n < 16) : hexValue? (hexDigit n) = some n := by
  have hall : ∀ n < 16, hexValue? (hexDigit n) = some n := by decide
  exact hall n h

theorem readString_plain {c : Char} (hquote : c ≠ '\x22') (hslash : c ≠ '\\')
    (hcode : 32 ≤ c.toNat) (tail : List Char) :
    readString (c :: tail) = (readString tail).map fun p => (c :: p.1, p.2) := by
  rw [readString.eq_def]
  split
  · next h => cases h
  · next h => exact absurd (List.cons.inj h).1 hquote
  · next h => exact absurd (List.cons.inj h).1 hslash
  · next h => exact absurd (List.cons.inj h).1 hslash
  · next h =>
    cases h
    rw [if_neg (Nat.not_lt.mpr hcode)]
    cases readString tail <;> rfl

theorem readString_control {c : Char} (hcode : c.toNat < 32) (tail : List Char) :
    readString ('\\' :: 'u' :: '0' :: '0' :: hexDigit (c.toNat / 16) :: hexDigit (c.toNat % 16) ::
      tail) = (readString tail).map fun p => (c :: p.1, p.2) := by
  have hzero : hexValue? '0' = some 0 := rfl
  have hhigh := hexValue?_hexDigit (n := c.toNat / 16) (by omega)
  have hlow := hexValue?_hexDigit (n := c.toNat % 16) (by omega)
  have hfour : hexFour? '0' '0' (hexDigit (c.toNat / 16)) (hexDigit (c.toNat % 16)) =
      some c.toNat := by
    simp only [hexFour?, hzero, hhigh, hlow, bind, Option.bind, Option.some.injEq]
    omega
  have hplain : ¬ (0xDC00 ≤ c.toNat ∧ c.toNat < 0xE000) := by omega
  have hpair : ¬ (0xD800 ≤ c.toNat ∧ c.toNat < 0xDC00) := by omega
  rw [readString.eq_def]
  simp only [hfour, bind, Option.bind, hplain, hpair, if_false, Char.ofNat_toNat]
  cases readString tail <;> rfl

theorem readString_escape (c : Char) (tail : List Char) :
    readString (escape c ++ tail) = (readString tail).map fun p => (c :: p.1, p.2) := by
  unfold escape
  split
  · next hquote =>
    subst hquote
    cases h : readString tail <;> simp [readString, h]
  next hquote =>
  split
  · next hslash =>
    subst hslash
    cases h : readString tail <;> simp [readString, h]
  next hslash =>
  split
  · next hcode => exact readString_plain hquote hslash hcode tail
  next hcode =>
  iterate 5
    split
    · next hletter =>
      subst hletter
      cases h : readString tail <;> simp [readString, h]
  · exact readString_control (Nat.not_le.mp hcode) tail

theorem readString_flatMap_escape (cs tail : List Char) :
    readString (cs.flatMap escape ++ '\x22' :: tail) = some (cs, tail) := by
  induction cs with
  | nil => rfl
  | cons c cs ih =>
    rw [List.flatMap_cons, List.append_assoc, readString_escape, ih, Option.map_some]

end Strings

inductive Stops : List Char → Prop where
  | nil : Stops []
  | comma (rest : List Char) : Stops (',' :: rest)
  | bracket (rest : List Char) : Stops (']' :: rest)
  | brace (rest : List Char) : Stops ('}' :: rest)

section Numbers

variable {n : Nat} {rest : List Char}

theorem digitsValue_toDigits (n : Nat) : digitsValue (Nat.toDigits 10 n) = n := by
  have hvalue : Nat.ofDigitChars 10 (Nat.toDigits 10 n) 0 = n :=
    Nat.ofDigitChars_toDigits (by decide) (by decide)
  have hstep : (fun (n : Nat) (c : Char) => n * 10 + (c.toNat - 48)) =
      fun n c => 10 * n + (c.toNat - '0'.toNat) := by
    funext n c
    rw [Nat.mul_comm]
    rfl
  rw [digitsValue, hstep]
  exact hvalue

theorem head?_toDigits (h : 0 < n) : (Nat.toDigits 10 n).head? ≠ some '0' := by
  induction n using Nat.strongRecOn with
  | ind n ih =>
    rw [Nat.toDigits_eq_if (by decide)]
    split
    · next hsmall =>
      have hall : ∀ n < 10, 0 < n → ([n.digitChar] : List Char).head? ≠ some '0' := by decide
      exact hall n hsmall h
    · next hlarge =>
      have hpos : 0 < n / 10 := by omega
      have hhead := ih (n / 10) (by omega) hpos
      rwa [List.head?_append, Option.or_of_isSome (by simp [Nat.toDigits_ne_nil])]

theorem isWhole_toDigits (n : Nat) :
    ((Nat.toDigits 10 n).isEmpty || (decide ((Nat.toDigits 10 n).length > 1) &&
      (Nat.toDigits 10 n).head? == some '0')) = false := by
  cases n with
  | zero => rfl
  | succ n =>
    have hhead : (Nat.toDigits 10 (n + 1)).head? ≠ some '0' := head?_toDigits (Nat.succ_pos n)
    simp [Nat.toDigits_ne_nil, hhead]

theorem takeWhile_toDigits (h : Stops rest) :
    (Nat.toDigits 10 n ++ rest).takeWhile Char.isDigit = Nat.toDigits 10 n := by
  have hdigits : ∀ c ∈ Nat.toDigits 10 n, c.isDigit = true :=
    fun c hc => Nat.isDigit_of_mem_toDigits (by decide) (by decide) hc
  have hrest : rest.takeWhile Char.isDigit = [] := by cases h <;> rfl
  rw [List.takeWhile_append_of_pos hdigits, hrest, List.append_nil]

theorem dropWhile_toDigits (h : Stops rest) :
    (Nat.toDigits 10 n ++ rest).dropWhile Char.isDigit = rest := by
  have hdigits : ∀ c ∈ Nat.toDigits 10 n, c.isDigit = true :=
    fun c hc => Nat.isDigit_of_mem_toDigits (by decide) (by decide) hc
  have hrest : rest.dropWhile Char.isDigit = rest := by cases h <;> rfl
  rw [List.dropWhile_append_of_pos hdigits, hrest]

theorem toDigits_eq_cons (n : Nat) :
    ∃ c cs, Nat.toDigits 10 n = c :: cs ∧ c.isDigit = true := by
  cases hdigits : Nat.toDigits 10 n with
  | nil => exact absurd hdigits Nat.toDigits_ne_nil
  | cons c cs =>
    have hmem : c ∈ Nat.toDigits 10 n := hdigits ▸ List.mem_cons_self
    exact ⟨c, cs, rfl, Nat.isDigit_of_mem_toDigits (by decide) (by decide) hmem⟩

theorem readNumber_toDigits (hn : n < Nat.pow 2 64) (h : Stops rest) :
    readNumber (Nat.toDigits 10 n ++ rest) = some (.int n, rest) := by
  have hsign : ∀ more, Nat.toDigits 10 n ++ rest = '-' :: more → False := by
    intro more heq
    obtain ⟨c, cs, hdigits, hdigit⟩ := toDigits_eq_cons n
    rw [hdigits] at heq
    rw [(List.cons.inj heq).1] at hdigit
    cases hdigit
  rw [readNumber]
  · simp only [takeWhile_toDigits h, dropWhile_toDigits h, isWhole_toDigits, digitsValue_toDigits]
    cases h <;> simp [hn]
  · exact hsign

theorem readNumber_neg (hpos : 0 < n) (hn : n ≤ Nat.pow 2 63) (h : Stops rest) :
    readNumber ('-' :: (Nat.toDigits 10 n ++ rest)) = some (.int (-n), rest) := by
  have hne : n ≠ 0 := Nat.pos_iff_ne_zero.mp hpos
  simp only [readNumber, takeWhile_toDigits h, dropWhile_toDigits h, isWhole_toDigits,
    digitsValue_toDigits]
  cases h <;> simp [hne, hn]

def isExactInt (n : Int) : Bool := -9223372036854775808 ≤ n && n < 18446744073709551616

theorem readNumber_intText {n : Int} (hn : isExactInt n = true) (h : Stops rest) :
    readNumber (intText n ++ rest) = some (.int n, rest) := by
  simp only [isExactInt, Bool.and_eq_true, decide_eq_true_eq] at hn
  rw [intText]
  split
  · next hneg =>
    have hread : readNumber ('-' :: (Nat.toDigits 10 n.natAbs ++ rest)) =
        some (.int (-n.natAbs), rest) := by
      refine readNumber_neg (by omega) ?_ h
      have hbound : n.natAbs ≤ 9223372036854775808 := by omega
      exact hbound
    have habs : -(n.natAbs : Int) = n := by omega
    rw [List.cons_append, hread, habs]
  · next hpos =>
    have hread : readNumber (Nat.toDigits 10 n.natAbs ++ rest) =
        some (.int n.natAbs, rest) := by
      refine readNumber_toDigits ?_ h
      have hbound : n.natAbs < 18446744073709551616 := by omega
      exact hbound
    have habs : (n.natAbs : Int) = n := by omega
    rw [hread, habs]

theorem intText_eq_cons (n : Int) :
    ∃ c cs, intText n = c :: cs ∧ (c = '-' ∨ c.isDigit = true) := by
  rw [intText]
  split
  · exact ⟨'-', _, rfl, .inl rfl⟩
  · obtain ⟨c, cs, hdigits, hdigit⟩ := toDigits_eq_cons n.natAbs
    exact ⟨c, cs, hdigits, .inr hdigit⟩

end Numbers

section Values

mutual
/-- All numbers of the value are integers that the reader keeps exact. -/
def isExact : Json → Bool
  | .number (.int n) => isExactInt n
  | .number (.double _) => false
  | .array items => areExact items
  | .object fields => haveExact fields
  | _ => true

def areExact : List Json → Bool
  | [] => true
  | v :: rest => v.isExact && areExact rest

def haveExact : List (String × Json) → Bool
  | [] => true
  | (_, v) :: rest => v.isExact && haveExact rest
end

mutual
def ordered : Json → Json
  | .array items => .array (orderedItems items)
  | .object fields => .object (Fields.ofList (orderedFields fields))
  | v => v

def orderedItems : List Json → List Json
  | [] => []
  | v :: rest => v.ordered :: orderedItems rest

def orderedFields : List (String × Json) → List (String × Json)
  | [] => []
  | (k, v) :: rest => (k, v.ordered) :: orderedFields rest
end

/-- A value begins with a character that no bracket and no blank is. -/
def isOpening (c : Char) : Bool := !isBlank c && c ≠ ']' && c ≠ '\x7d'

theorem isOpening_of_number {c : Char} (h : c = '-' ∨ c.isDigit = true) : isOpening c = true := by
  rcases h with rfl | hdigit
  · decide
  · have hne {d : Char} (hd : d.isDigit = false) : c ≠ d := by
      rintro rfl
      rw [hdigit] at hd
      cases hd
    have hblank : isBlank c = false := by
      simp [isBlank, hne (d := ' ') rfl, hne (d := '\t') rfl, hne (d := '\n') rfl,
        hne (d := '\r') rfl]
    simp [isOpening, hblank, hne (d := ']') rfl, hne (d := '\x7d') rfl]

theorem text_eq_cons {v : Json} (h : v.isExact = true) :
    ∃ c cs, v.text = c :: cs ∧ isOpening c = true := by
  cases v with
  | null => exact ⟨_, _, rfl, by decide⟩
  | bool b => cases b <;> exact ⟨_, _, rfl, by decide⟩
  | number n =>
    cases n with
    | int n =>
      obtain ⟨c, cs, htext, hc⟩ := intText_eq_cons n
      exact ⟨c, cs, htext, isOpening_of_number hc⟩
    | double d => cases h
  | string s => exact ⟨_, _, rfl, by decide⟩
  | array items => exact ⟨_, _, rfl, by decide⟩
  | object fields => exact ⟨_, _, rfl, by decide⟩

theorem skipBlanks_opening {c : Char} (h : isOpening c = true) (cs : List Char) :
    skipBlanks (c :: cs) = c :: cs := by
  simp only [isOpening, Bool.and_eq_true, Bool.not_eq_true'] at h
  rw [skipBlanks, List.dropWhile_cons, h.1.1]
  rfl

theorem readValue_number {fuel : Nat} {c : Char} {cs : List Char}
    (h : c = '-' ∨ c.isDigit = true) :
    readValue (fuel + 1) (c :: cs) = (readNumber (c :: cs)).map fun p => (.number p.1, p.2) := by
  have hne {d : Char} (hd : d ≠ '-' ∧ d.isDigit = false) : c ≠ d := by
    rintro rfl
    rcases h with h | h
    · exact hd.1 h
    · rw [hd.2] at h
      cases h
  rw [readValue, skipBlanks_opening (isOpening_of_number h)]
  split
  · next heq => exact absurd (List.cons.inj heq).1 (hne (by decide))
  · next heq => exact absurd (List.cons.inj heq).1 (hne (by decide))
  · next heq => exact absurd (List.cons.inj heq).1 (hne (by decide))
  · next heq => exact absurd (List.cons.inj heq).1 (hne (by decide))
  · next heq => exact absurd (List.cons.inj heq).1 (hne (by decide))
  · next heq => exact absurd (List.cons.inj heq).1 (hne (by decide))
  · rfl

theorem readValue_intText {n : Int} (hn : isExactInt n = true) {fuel : Nat} {rest : List Char}
    (hrest : Stops rest) :
    readValue (fuel + 1) (intText n ++ rest) = some (.number (.int n), rest) := by
  obtain ⟨c, cs, htext, hc⟩ := intText_eq_cons n
  have hnumber := readNumber_intText hn hrest
  rw [htext, List.cons_append] at hnumber ⊢
  rw [readValue_number hc, hnumber]
  rfl

theorem quoted_append (cs rest : List Char) :
    quoted cs ++ rest = '\x22' :: (cs.flatMap escape ++ '\x22' :: rest) := by
  simp [quoted]

theorem readValue_quoted (s : String) (fuel : Nat) (rest : List Char) :
    readValue (fuel + 1) (quoted s.toList ++ rest) = some (.string s, rest) := by
  rw [quoted_append]
  change (readString (s.toList.flatMap escape ++ '\x22' :: rest)).map _ = _
  simp [readString_flatMap_escape]

theorem readValue_array {fuel : Nat} {c : Char} {cs rest : List Char} {items : List Json}
    (hc : isOpening c = true) (h : readItems fuel (c :: cs) [] = some (items, rest)) :
    readValue (fuel + 1) ('[' :: c :: cs) = some (.array items, rest) := by
  rw [readValue, skipBlanks_opening (by decide)]
  simp only [skipBlanks_opening hc]
  split
  · next heq =>
    rw [(List.cons.inj heq).1] at hc
    cases hc
  · rw [h]
    rfl

theorem readValue_object {fuel : Nat} {cs rest : List Char} {fields : Fields Json}
    (h : readFields fuel ('\x22' :: cs) [] = some (fields, rest)) :
    readValue (fuel + 1) ('\x7b' :: '\x22' :: cs) = some (.object fields, rest) := by
  change (readFields fuel ('\x22' :: cs) []).map _ = _
  rw [h]
  rfl

theorem readFields_comma (k : String) {v : Json} {fuel : Nat} {cs rest : List Char}
    (h : readValue fuel cs = some (v, ',' :: rest)) (done : Fields Json) :
    readFields (fuel + 1) (quoted k.toList ++ ':' :: cs) done =
      readFields fuel rest (Fields.insert k v done) := by
  rw [quoted_append, readFields, skipBlanks_opening (by decide)]
  simp [readString_flatMap_escape, skipBlanks_opening (by decide : isOpening ':' = true), h,
    skipBlanks_opening (by decide : isOpening ',' = true)]

theorem readFields_brace (k : String) {v : Json} {fuel : Nat} {cs rest : List Char}
    (h : readValue fuel cs = some (v, '\x7d' :: rest)) (done : Fields Json) :
    readFields (fuel + 1) (quoted k.toList ++ ':' :: cs) done =
      some (Fields.insert k v done, rest) := by
  rw [quoted_append, readFields, skipBlanks_opening (by decide)]
  simp [readString_flatMap_escape, skipBlanks, isBlank, h]

theorem textItems_eq_cons {v : Json} {items : List Json} (h : areExact (v :: items) = true) :
    ∃ c cs, textItems (v :: items) = c :: cs ∧ isOpening c = true := by
  have hv : v.isExact = true := (Bool.and_eq_true_iff.mp h).1
  obtain ⟨c, cs, htext, hc⟩ := text_eq_cons hv
  cases items with
  | nil => exact ⟨c, cs, htext, hc⟩
  | cons w rest => exact ⟨c, cs ++ ',' :: textItems (w :: rest), by simp [textItems, htext], hc⟩

theorem textFields_eq_cons (k : String) (v : Json) (fields : List (String × Json)) :
    ∃ cs, textFields ((k, v) :: fields) = '\x22' :: cs := by
  cases fields with
  | nil => exact ⟨_, rfl⟩
  | cons p rest => exact ⟨_, rfl⟩

mutual
theorem readValue_text (v : Json) (hexact : v.isExact = true) {fuel : Nat} {rest : List Char}
    (hfuel : v.text.length < fuel) (hrest : Stops rest) :
    readValue fuel (v.text ++ rest) = some (v.ordered, rest) := by
  -- fuel beyond the length of a text is enough, since every text inside of it is shorter
  obtain ⟨fuel, rfl⟩ : ∃ k, fuel = k + 1 := ⟨fuel - 1, by omega⟩
  match v with
  | .null => rfl
  | .bool true => rfl
  | .bool false => rfl
  | .number (.int n) => exact readValue_intText hexact hrest
  | .number (.double d) => cases hexact
  | .string s => exact readValue_quoted s fuel rest
  | .array [] => rfl
  | .array (v :: items) =>
    obtain ⟨c, cs, hitems, hc⟩ := textItems_eq_cons hexact
    have hlength : (textItems (v :: items)).length + 1 < fuel := by
      simp [text] at hfuel
      omega
    have hread : readItems fuel (textItems (v :: items) ++ ']' :: rest) [] =
        some (orderedItems (v :: items), rest) :=
      readItems_text (v :: items) (List.cons_ne_nil _ _) hexact hlength []
    have htext : (array (v :: items)).text ++ rest =
        '[' :: (textItems (v :: items) ++ ']' :: rest) := by
      simp [text]
    rw [hitems, List.cons_append] at hread htext
    rw [htext]
    exact readValue_array hc hread
  | .object [] => rfl
  | .object ((k, v) :: fields) =>
    obtain ⟨cs, hfields⟩ := textFields_eq_cons k v fields
    have hlength : (textFields ((k, v) :: fields)).length + 1 < fuel := by
      simp [text] at hfuel
      omega
    have hread : readFields fuel (textFields ((k, v) :: fields) ++ '\x7d' :: rest) [] =
        some (Fields.ofList (orderedFields ((k, v) :: fields)), rest) :=
      readFields_text ((k, v) :: fields) (List.cons_ne_nil _ _) hexact hlength []
    have htext : (object ((k, v) :: fields)).text ++ rest =
        '\x7b' :: (textFields ((k, v) :: fields) ++ '\x7d' :: rest) := by
      simp [text]
    rw [hfields, List.cons_append] at hread htext
    rw [htext]
    exact readValue_object hread

theorem readItems_text (items : List Json) (hne : items ≠ []) (hexact : areExact items = true)
    {fuel : Nat} {rest : List Char} (hfuel : (textItems items).length + 1 < fuel)
    (done : List Json) :
    readItems fuel (textItems items ++ ']' :: rest) done =
      some (done.reverse ++ orderedItems items, rest) := by
  obtain ⟨fuel, rfl⟩ : ∃ k, fuel = k + 1 := ⟨fuel - 1, by omega⟩
  match items with
  | [v] =>
    have hv : v.isExact = true := (Bool.and_eq_true_iff.mp hexact).1
    have hlength : v.text.length < fuel := by
      simp [textItems] at hfuel
      omega
    have hread : readValue fuel (v.text ++ ']' :: rest) = some (v.ordered, ']' :: rest) :=
      readValue_text v hv hlength (.bracket rest)
    simp [readItems, textItems, hread, skipBlanks, isBlank, orderedItems]
  | v :: w :: items =>
    obtain ⟨hv, hitems⟩ := Bool.and_eq_true_iff.mp hexact
    have hlength : (textItems (v :: w :: items)).length =
        v.text.length + (textItems (w :: items)).length + 1 := by
      simp [textItems]
      omega
    have hread (more : List Char) :
        readValue fuel (v.text ++ ',' :: more) = some (v.ordered, ',' :: more) :=
      readValue_text v hv (by omega) (.comma more)
    have hmore : readItems fuel (textItems (w :: items) ++ ']' :: rest) (v.ordered :: done) =
        some ((v.ordered :: done).reverse ++ orderedItems (w :: items), rest) :=
      readItems_text (w :: items) (List.cons_ne_nil _ _) hitems (by omega) (v.ordered :: done)
    have htext : textItems (v :: w :: items) ++ ']' :: rest =
        v.text ++ ',' :: (textItems (w :: items) ++ ']' :: rest) := by
      simp [textItems]
    rw [htext, readItems, hread]
    simp [skipBlanks_opening (by decide : isOpening ',' = true), hmore, orderedItems]

theorem readFields_text (fields : List (String × Json)) (hne : fields ≠ [])
    (hexact : haveExact fields = true) {fuel : Nat} {rest : List Char}
    (hfuel : (textFields fields).length + 1 < fuel) (done : Fields Json) :
    readFields fuel (textFields fields ++ '\x7d' :: rest) done =
      some ((orderedFields fields).foldl (fun m p => Fields.insert p.1 p.2 m) done, rest) := by
  obtain ⟨fuel, rfl⟩ : ∃ k, fuel = k + 1 := ⟨fuel - 1, by omega⟩
  match fields with
  | [(k, v)] =>
    have hv : v.isExact = true := (Bool.and_eq_true_iff.mp hexact).1
    have hlength : (textFields [(k, v)]).length = (quoted k.toList).length + v.text.length + 1 := by
      simp [textFields]
      omega
    have hread : readValue fuel (v.text ++ '\x7d' :: rest) = some (v.ordered, '\x7d' :: rest) :=
      readValue_text v hv (by omega) (.brace rest)
    have htext : textFields [(k, v)] ++ '\x7d' :: rest =
        quoted k.toList ++ ':' :: (v.text ++ '\x7d' :: rest) := by
      simp [textFields]
    rw [htext]
    exact readFields_brace k hread done
  | (k, v) :: p :: fields =>
    obtain ⟨hv, hfields⟩ := Bool.and_eq_true_iff.mp hexact
    have hlength : (textFields ((k, v) :: p :: fields)).length =
        (quoted k.toList).length + v.text.length + (textFields (p :: fields)).length + 2 := by
      simp [textFields]
      omega
    have hread (more : List Char) :
        readValue fuel (v.text ++ ',' :: more) = some (v.ordered, ',' :: more) :=
      readValue_text v hv (by omega) (.comma more)
    have hmore : readFields fuel (textFields (p :: fields) ++ '\x7d' :: rest)
        (Fields.insert k v.ordered done) = some ((orderedFields (p :: fields)).foldl
          (fun m p => Fields.insert p.1 p.2 m) (Fields.insert k v.ordered done), rest) :=
      readFields_text (p :: fields) (List.cons_ne_nil _ _) hfields (by omega) _
    have htext : textFields ((k, v) :: p :: fields) ++ '\x7d' :: rest =
        quoted k.toList ++ ':' :: (v.text ++
          ',' :: (textFields (p :: fields) ++ '\x7d' :: rest)) := by
      simp [textFields]
    rw [htext, readFields_comma k (hread _) done]
    exact hmore
end

theorem read?_text {v : Json} (h : v.isExact = true) : read? v.text = some v.ordered := by
  have hread : readValue (2 * v.text.length + 2) (v.text ++ []) = some (v.ordered, []) :=
    readValue_text v h (by omega) .nil
  rw [List.append_nil] at hread
  rw [read?, hread]
  rfl

theorem areExact_iff {items : List Json} :
    areExact items = true ↔ ∀ v ∈ items, v.isExact = true := by
  induction items with
  | nil => simp [areExact]
  | cons v rest ih => simp [areExact, ih]

theorem haveExact_iff {fields : List (String × Json)} :
    haveExact fields = true ↔ ∀ p ∈ fields, p.2.isExact = true := by
  induction fields with
  | nil => simp [haveExact]
  | cons p rest ih => simp [haveExact, ih]

theorem haveExact_append (front back : List (String × Json)) :
    haveExact (front ++ back) = (haveExact front && haveExact back) := by
  induction front with
  | nil => rfl
  | cons p rest ih => rw [List.cons_append, haveExact, haveExact, ih, Bool.and_assoc]

theorem orderedItems_eq_map (items : List Json) : orderedItems items = items.map ordered := by
  induction items with
  | nil => rfl
  | cons v rest ih => rw [orderedItems, ih, List.map_cons]

theorem orderedFields_eq_map (fields : List (String × Json)) :
    orderedFields fields = fields.map fun p => (p.1, p.2.ordered) := by
  induction fields with
  | nil => rfl
  | cons p rest ih => rw [orderedFields, ih, List.map_cons]

theorem get?_ofList_orderedFields {fields : Fields Json} (hkeys : (fields.map Prod.fst).Nodup)
    (k : String) :
    Fields.get? k (Fields.ofList (orderedFields fields)) = (fields.get? k).map ordered := by
  have hsame : ((orderedFields fields).map Prod.fst).Nodup := by
    rw [orderedFields_eq_map, List.map_map]
    exact hkeys
  rw [Fields.get?_ofList hsame, orderedFields_eq_map, Fields.get?_map]

theorem get?_ordered_object {fields : List (String × Json)} {k : String} {path : List String}
    {v w : Json} (hkeys : (fields.map Prod.fst).Nodup) (hmem : (k, v) ∈ fields)
    (hv : v.ordered.get? path = some w) : (object fields).ordered.get? (k :: path) = some w := by
  have hget : Fields.get? k (Fields.ofList (orderedFields fields)) = some v.ordered := by
    rw [get?_ofList_orderedFields hkeys, Fields.get?_of_mem hkeys hmem]
    rfl
  simp only [ordered, get?, fields?, Option.bind_eq_bind, Option.bind_some, hget, hv]

theorem ordered_array_eq_self {items : List Json} :
    (array items).ordered = array items ↔ ∀ v ∈ items, v.ordered = v := by
  have hmap := List.map_inj_left (l := items) (f := ordered) (g := id)
  rw [ordered, orderedItems_eq_map, array.injEq]
  simpa using hmap

theorem ordered_object_eq_self {fields : Fields Json} :
    (object fields).ordered = object fields ↔
      fields.Sorted ∧ ∀ p ∈ fields, p.2.ordered = p.2 := by
  have hkeys : (orderedFields fields).map Prod.fst = fields.map Prod.fst := by
    rw [orderedFields_eq_map, List.map_map]
    rfl
  have hsame (h : fields.Sorted) : Fields.ofList (orderedFields fields) = orderedFields fields := by
    refine Fields.ofList_of_sorted ?_
    rwa [Fields.sorted_iff, hkeys, ← Fields.sorted_iff]
  have hvalues : orderedFields fields = fields ↔ ∀ p ∈ fields, p.2.ordered = p.2 := by
    have hmap := List.map_inj_left (l := fields) (f := fun p => (p.1, p.2.ordered)) (g := id)
    rw [orderedFields_eq_map]
    simpa [Prod.ext_iff] using hmap
  rw [ordered, object.injEq, ← hvalues]
  constructor
  · intro h
    have hsorted : fields.Sorted := h ▸ Fields.sorted_ofList (orderedFields fields)
    exact ⟨hsorted, (hsame hsorted).symm.trans h⟩
  · exact fun h => (hsame h.1).trans h.2

end Values

end OverlayConfig.Json
