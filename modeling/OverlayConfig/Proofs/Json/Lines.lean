import OverlayConfig.Json.Value
import OverlayConfig.Yaml.Cursor
set_option autoImplicit false

namespace OverlayConfig

def Yaml.isInLine (c : Char) : Bool := isAllowed c && !isBreak c

theorem Yaml.isInLine_of_toNat {c : Char} (hlow : 32 ≤ c.toNat) (hhigh : c.toNat ≤ 126) :
    isInLine c = true := by
  have hall : ∀ n < 127, 32 ≤ n → isInLine (Char.ofNat n) = true := by decide
  rw [← Char.ofNat_toNat c]
  exact hall c.toNat (Nat.lt_succ_of_le hhigh) hlow

theorem Yaml.isInLine_of_isAlphanum {c : Char} (h : c.isAlphanum = true) : isInLine c = true := by
  have hcode : 48 ≤ c.toNat ∧ c.toNat ≤ 122 := by
    change (decide (65 ≤ c.val ∧ c.val ≤ 90) || (decide (97 ≤ c.val) && decide (c.val ≤ 122))
      || (decide (48 ≤ c.val) && decide (c.val ≤ 57))) = true at h
    simp only [Bool.or_eq_true, Bool.and_eq_true, decide_eq_true_eq, UInt32.le_iff_toNat_le] at h
    change ((65 ≤ c.toNat ∧ c.toNat ≤ 90) ∨ (97 ≤ c.toNat ∧ c.toNat ≤ 122)) ∨
      (48 ≤ c.toNat ∧ c.toNat ≤ 57) at h
    omega
  exact isInLine_of_toNat (Nat.le_trans (by decide) hcode.1) (Nat.le_trans hcode.2 (by decide))

namespace Json

/-- A character whose JSON form may stand inside of a line of YAML. -/
def isEmbeddable (c : Char) : Bool := c.toNat < 32 || Yaml.isInLine c

theorem isInLine_escape {c : Char} (h : isEmbeddable c = true) :
    ∀ d ∈ escape c, Yaml.isInLine d = true := by
  by_cases hlow : c.toNat < 32
  · have hall : ∀ n < 32, (escape (Char.ofNat n)).all Yaml.isInLine = true := by decide
    rw [← Char.ofNat_toNat c]
    exact List.all_eq_true.mp (hall c.toNat hlow)
  · have hline : Yaml.isInLine c = true := by simpa [isEmbeddable, hlow] using h
    rw [escape, if_pos (Nat.not_lt.mp hlow)]
    split
    · exact List.all_eq_true.mp (by decide)
    · split
      · exact List.all_eq_true.mp (by decide)
      · exact fun d hd => List.mem_singleton.mp hd ▸ hline

/-- A character above the escaped ones stands for itself, beside a backslash if it needs one. -/
theorem mem_escape {c : Char} (h : 32 ≤ c.toNat) : c ∈ escape c := by
  rw [escape]
  split
  · next hquote => simp [hquote]
  · split
    · next hslash => simp [hslash]
    · simp

def FitsLine (v : Json) : Prop := ∀ c ∈ v.text, Yaml.isInLine c = true

theorem isInLine_quoted {cs : List Char} (h : ∀ c ∈ cs, isEmbeddable c = true) :
    ∀ d ∈ quoted cs, Yaml.isInLine d = true := by
  intro d hd
  simp only [quoted, List.mem_append, List.mem_cons, List.mem_flatMap, List.not_mem_nil,
    or_false] at hd
  rcases hd with (rfl | ⟨c, hc, hd⟩) | rfl
  · decide
  · exact isInLine_escape (h c hc) d hd
  · decide

theorem fitsLine_string {s : String} (h : ∀ c ∈ s.toList, isEmbeddable c = true) :
    (string s).FitsLine := isInLine_quoted h

theorem fitsLine_bool (b : Bool) : (bool b).FitsLine := by
  have hall : ∀ b, (text (bool b)).all Yaml.isInLine = true := by decide
  exact List.all_eq_true.mp (hall b)

theorem fitsLine_nat (n : Nat) : (nat n).FitsLine := by
  intro c hc
  have hdigit : c.isDigit = true := Nat.isDigit_of_mem_toDigits (by decide) (by decide) hc
  exact Yaml.isInLine_of_isAlphanum (by rw [Char.isAlphanum, hdigit, Bool.or_true])

theorem mem_textItems_cons {c : Char} {v : Json} {rest : List Json} :
    c ∈ textItems (v :: rest) ↔
      c ∈ v.text ∨ rest ≠ [] ∧ (c = ',' ∨ c ∈ textItems rest) := by
  cases rest with
  | nil => simp [textItems]
  | cons w rest => simp [textItems]

theorem mem_textFields_cons {c : Char} {k : String} {v : Json} {rest : List (String × Json)} :
    c ∈ textFields ((k, v) :: rest) ↔ (c ∈ quoted k.toList ∨ c = ':' ∨ c ∈ v.text) ∨
      rest ≠ [] ∧ (c = ',' ∨ c ∈ textFields rest) := by
  cases rest with
  | nil => simp [textFields]
  | cons p rest => simp [textFields, or_assoc]

theorem fitsLine_array {items : List Json} (h : ∀ v ∈ items, v.FitsLine) :
    (array items).FitsLine := by
  have hitems : ∀ c ∈ textItems items, Yaml.isInLine c = true := by
    induction items with
    | nil => simp [textItems]
    | cons v rest ih =>
      obtain ⟨hv, hrest⟩ := List.forall_mem_cons.mp h
      intro c hc
      rcases mem_textItems_cons.mp hc with hc | ⟨-, rfl | hc⟩
      · exact hv c hc
      · decide
      · exact ih hrest c hc
  intro c hc
  simp only [text, List.cons_append, List.mem_cons, List.mem_append, List.not_mem_nil,
    or_false] at hc
  rcases hc with rfl | hc | rfl
  · decide
  · exact hitems c hc
  · decide

theorem fitsLine_object {fields : List (String × Json)}
    (h : ∀ p ∈ fields, (∀ c ∈ p.1.toList, isEmbeddable c = true) ∧ p.2.FitsLine) :
    (object fields).FitsLine := by
  have hfields : ∀ c ∈ textFields fields, Yaml.isInLine c = true := by
    induction fields with
    | nil => simp [textFields]
    | cons p rest ih =>
      obtain ⟨⟨hk, hv⟩, hrest⟩ := List.forall_mem_cons.mp h
      intro c hc
      rcases mem_textFields_cons.mp hc with (hc | rfl | hc) | ⟨-, rfl | hc⟩
      · exact isInLine_quoted hk c hc
      · decide
      · exact hv c hc
      · decide
      · exact ih hrest c hc
  intro c hc
  simp only [text, List.cons_append, List.mem_cons, List.mem_append, List.not_mem_nil,
    or_false] at hc
  rcases hc with rfl | hc | rfl
  · decide
  · exact hfields c hc
  · decide

section Shown

variable {c : Char}

theorem mem_quoted {cs : List Char} (h : c ∈ cs) (hc : 32 ≤ c.toNat) : c ∈ quoted cs := by
  simp only [quoted, List.mem_append, List.mem_cons, List.mem_flatMap]
  exact .inl (.inr ⟨c, h, mem_escape hc⟩)

theorem mem_text_array {items : List Json} {v : Json} (hv : v ∈ items) (hc : c ∈ v.text) :
    c ∈ (array items).text := by
  have hitems : c ∈ textItems items := by
    induction items with
    | nil => cases hv
    | cons w rest ih =>
      refine mem_textItems_cons.mpr ?_
      rcases List.mem_cons.mp hv with rfl | hv
      · exact .inl hc
      · exact .inr ⟨List.ne_nil_of_mem hv, .inr (ih hv)⟩
  simp [text, hitems]

theorem mem_text_object {fields : List (String × Json)} {p : String × Json} (hp : p ∈ fields)
    (hc : c ∈ quoted p.1.toList ∨ c ∈ p.2.text) : c ∈ (object fields).text := by
  have hfields : c ∈ textFields fields := by
    induction fields with
    | nil => cases hp
    | cons q rest ih =>
      refine mem_textFields_cons.mpr ?_
      rcases List.mem_cons.mp hp with rfl | hp
      · exact .inl (hc.imp_right .inr)
      · exact .inr ⟨List.ne_nil_of_mem hp, .inr (ih hp)⟩
  simp [text, hfields]

end Shown

end Json

end OverlayConfig
