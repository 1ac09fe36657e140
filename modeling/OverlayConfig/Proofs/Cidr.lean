import OverlayConfig.Cidr
set_option autoImplicit false

namespace OverlayConfig.Cidr

def isAddressChar (c : Char) : Bool := c.isAlphanum || c = '.' || c = ':' || c = '/'

def Consumes (cs rest : List Char) : Prop :=
  ∃ read : List Char, cs = read ++ rest ∧ ∀ c ∈ read, isAddressChar c = true

variable {cs mid rest : List Char}

theorem Consumes.refl (cs : List Char) : Consumes cs cs := ⟨[], rfl, nofun⟩

theorem Consumes.trans (h : Consumes cs mid) (h' : Consumes mid rest) : Consumes cs rest := by
  obtain ⟨first, rfl, hfirst⟩ := h
  obtain ⟨second, rfl, hsecond⟩ := h'
  refine ⟨first ++ second, (List.append_assoc ..).symm, fun c hc => ?_⟩
  exact (List.mem_append.mp hc).elim (hfirst c) (hsecond c)

theorem isAddressChar_of_digit? {base : Nat} {c : Char} (h : (digit? base c).isSome = true) :
    isAddressChar c = true := by
  have haddress (hc : ((c.isUpper || c.isLower) || c.isDigit) = true) : isAddressChar c = true := by
    have halphanum : c.isAlphanum = true := hc
    simp [isAddressChar, halphanum]
  by_cases hdigit : '0' ≤ c ∧ c ≤ '9'
  · have hc : c.isDigit = true :=
      Bool.and_eq_true_iff.mpr ⟨decide_eq_true hdigit.1, decide_eq_true hdigit.2⟩
    exact haddress (by rw [hc, Bool.or_true])
  · by_cases hlower : 'a' ≤ c ∧ c ≤ 'f'
    · have hz : c ≤ 'z' := Char.le_trans hlower.2 (by decide : 'f' ≤ 'z')
      have hc : c.isLower = true :=
        Bool.and_eq_true_iff.mpr ⟨decide_eq_true hlower.1, decide_eq_true hz⟩
      exact haddress (by rw [hc, Bool.or_true, Bool.true_or])
    · by_cases hupper : 'A' ≤ c ∧ c ≤ 'F'
      · have hz : c ≤ 'Z' := Char.le_trans hupper.2 (by decide : 'F' ≤ 'Z')
        have hc : c.isUpper = true := decide_eq_true ⟨hupper.1, hz⟩
        exact haddress (by rw [hc, Bool.true_or, Bool.true_or])
      · simp [digit?, hdigit, hlower, hupper] at h

theorem consumes_number {base maxDigits bound n : Nat}
    (h : number? base maxDigits bound cs = some (n, rest)) : Consumes cs rest := by
  simp only [number?] at h
  split at h
  · cases h
  · cases h
    have hsplit := List.takeWhile_append_dropWhile (p := fun c => (digit? base c).isSome) (l := cs)
    have hdrop : cs.drop (cs.takeWhile fun c => (digit? base c).isSome).length =
        cs.dropWhile fun c => (digit? base c).isSome :=
      (congrArg _ hsplit.symm).trans List.drop_left
    have hdigits : ∀ c ∈ cs.takeWhile fun c => (digit? base c).isSome, (digit? base c).isSome :=
      List.all_eq_true.mp List.all_takeWhile
    exact ⟨_, (hdrop ▸ hsplit).symm, fun c hc => isAddressChar_of_digit? (hdigits c hc)⟩

theorem consumes_char {c : Char} (hc : isAddressChar c = true) (h : char? c cs = some rest) :
    Consumes cs rest := by
  cases cs with
  | nil => cases h
  | cons d more =>
    simp only [char?] at h
    split at h
    · next heq =>
      cases h
      exact ⟨[d], rfl, by simpa [heq] using hc⟩
    · cases h

theorem consumes_octets {os : List Nat} (h : octets? cs = some (os, rest)) : Consumes cs rest := by
  simp only [octets?, Option.bind_eq_bind, Option.bind_eq_some_iff, Prod.exists] at h
  obtain ⟨a, cs₁, ha, cs₂, hdot, b, cs₃, hb, cs₄, hdot', c, cs₅, hc, cs₆, hdot'', d, cs₇, hd, h⟩ :=
    h
  cases h
  have hpoint : isAddressChar '.' = true := by decide
  exact (consumes_number ha).trans ((consumes_char hpoint hdot).trans
    ((consumes_number hb).trans ((consumes_char hpoint hdot').trans
      ((consumes_number hc).trans ((consumes_char hpoint hdot'').trans (consumes_number hd))))))

theorem consumes_groupRun (limit : Nat) (first : Bool) (cs : List Char) :
    Consumes cs (groupRun limit first cs).rest := by
  induction limit generalizing first cs with
  | zero => exact .refl cs
  | succ limit ih =>
    have hstart (start : List Char) (h : (if first then some cs else char? ':' cs) = some start) :
        Consumes cs start := by
      cases first with
      | true =>
        cases h
        exact .refl cs
      | false => exact consumes_char (by decide) h
    simp only [groupRun]
    split
    · next os rest hoctets =>
      have hbind : (if first then some cs else char? ':' cs).bind octets? = some (os, rest) := by
        by_cases hlimit : limit = 0
        · simp [hlimit] at hoctets
        · simpa [hlimit] using hoctets
      obtain ⟨cs', hcs', hread⟩ := Option.bind_eq_some_iff.mp hbind
      exact (hstart cs' hcs').trans (consumes_octets hread)
    · split
      · exact .refl cs
      · next g rest hgroup =>
        obtain ⟨cs', hcs', hread⟩ := Option.bind_eq_some_iff.mp hgroup
        exact (hstart cs' hcs').trans ((consumes_number hread).trans (ih false rest))

theorem consumes_groups {gs : List Nat} (h : groups? cs = some (gs, rest)) : Consumes cs rest := by
  have hhead := consumes_groupRun 8 true cs
  simp only [groups?] at h
  split at h
  · cases h
    exact hhead
  · split at h
    · cases h
    · simp only [Option.bind_eq_bind, Option.bind_eq_some_iff] at h
      obtain ⟨cs₁, hfirst, cs₂, hsecond, h⟩ := h
      cases h
      have hcolon : isAddressChar ':' = true := by decide
      exact hhead.trans ((consumes_char hcolon hfirst).trans
        ((consumes_char hcolon hsecond).trans (consumes_groupRun _ _ _)))

theorem consumes_length {maxDigits bound : Nat} {make : Nat → Cidr} {network : Cidr}
    (h : (do
      let (bits, cs) ← number? 10 maxDigits bound (← char? '/' cs)
      if cs.isEmpty then some (make bits) else none) = some network) : Consumes cs [] := by
  simp only [Option.bind_eq_bind, Option.bind_eq_some_iff, Prod.exists] at h
  obtain ⟨cs₁, hslash, bits, cs₂, hbits, h⟩ := h
  split at h
  · next hempty =>
    rw [List.isEmpty_iff.mp hempty] at hbits
    exact (consumes_char (by decide) hslash).trans (consumes_number hbits)
  · cases h

theorem isAddressChar_of_isValid {s : String} (h : isValid s = true) :
    ∀ c ∈ s.toList, isAddressChar c = true := by
  obtain ⟨network, hparse⟩ := Option.isSome_iff_exists.mp h
  have hall : Consumes s.toList [] := by
    rcases Option.or_eq_some_iff.mp hparse with hv4 | ⟨-, hv6⟩
    · obtain ⟨⟨os, rest⟩, hread, h⟩ := Option.bind_eq_some_iff.mp hv4
      exact (consumes_octets hread).trans (consumes_length h)
    · obtain ⟨⟨gs, rest⟩, hread, h⟩ := Option.bind_eq_some_iff.mp hv6
      exact (consumes_groups hread).trans (consumes_length h)
  obtain ⟨read, hread, hchars⟩ := hall
  rw [List.append_nil] at hread
  exact hread ▸ hchars

end OverlayConfig.Cidr
