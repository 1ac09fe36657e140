set_option autoImplicit false

namespace OverlayConfig

inductive Address where
  | v4 (octets : List Nat)
  | v6 (groups : List Nat)
  deriving DecidableEq, Repr

structure Cidr where
  address : Address
  networkBits : Nat
  deriving DecidableEq, Repr

namespace Cidr

def digit? (base : Nat) (c : Char) : Option Nat :=
  let n :=
    if '0' ≤ c ∧ c ≤ '9' then c.toNat - 48
    else if 'a' ≤ c ∧ c ≤ 'f' then c.toNat - 87
    else if 'A' ≤ c ∧ c ≤ 'F' then c.toNat - 55
    else base
  if n < base then some n else none

/-- Reads a number of one to `maxDigits` digits below `bound`. All leading digits belong to it, so a
longer or a greater number is refused. -/
def number? (base maxDigits bound : Nat) (cs : List Char) : Option (Nat × List Char) :=
  let digits := cs.takeWhile (fun c => (digit? base c).isSome)
  let value := digits.foldl (fun n c => n * base + (digit? base c).getD 0) 0
  if digits.isEmpty ∨ maxDigits < digits.length ∨ bound ≤ value then none
  else some (value, cs.drop digits.length)

def char? (c : Char) : List Char → Option (List Char)
  | [] => none
  | d :: rest => if d = c then some rest else none

def octets? (cs : List Char) : Option (List Nat × List Char) := do
  let (a, cs) ← number? 10 3 256 cs
  let (b, cs) ← number? 10 3 256 (← char? '.' cs)
  let (c, cs) ← number? 10 3 256 (← char? '.' cs)
  let (d, cs) ← number? 10 3 256 (← char? '.' cs)
  some ([a, b, c, d], cs)

def groupsOfOctets : List Nat → List Nat
  | [a, b, c, d] => [a * 256 + b, c * 256 + d]
  | _ => []

/-- Groups of an IPv6 address as far as they go: the groups, whether they end in an IPv4 address,
and the rest. -/
structure GroupRun where
  groups : List Nat
  endsInOctets : Bool
  rest : List Char

/-- Reads at most `limit` groups with colons between them; `first` says that no group precedes. An
IPv4 address counts as two groups, and none follows it. -/
def groupRun : (limit : Nat) → (first : Bool) → List Char → GroupRun
  | 0, _, cs => ⟨[], false, cs⟩
  | limit + 1, first, cs =>
    let start := if first then some cs else char? ':' cs
    let octets := if limit = 0 then none else start.bind octets?
    match octets with
    | some (os, rest) => ⟨groupsOfOctets os, true, rest⟩
    | none =>
      match start.bind (number? 16 4 65536) with
      | none => ⟨[], false, cs⟩
      | some (g, rest) =>
        let run := groupRun limit false rest
        ⟨g :: run.groups, run.endsInOctets, run.rest⟩

def groups? (cs : List Char) : Option (List Nat × List Char) :=
  let head := groupRun 8 true cs
  if head.groups.length = 8 then some (head.groups, head.rest)
  else if head.endsInOctets then none
  else do
    let cs ← char? ':' head.rest
    let cs ← char? ':' cs
    let tail := groupRun (8 - head.groups.length) true cs
    let zeros := List.replicate (8 - head.groups.length - tail.groups.length) 0
    some (head.groups ++ zeros ++ tail.groups, tail.rest)

def v4? (cs : List Char) : Option Cidr := do
  let (os, cs) ← octets? cs
  let (bits, cs) ← number? 10 2 33 (← char? '/' cs)
  if cs.isEmpty then some ⟨.v4 os, bits⟩ else none

def v6? (cs : List Char) : Option Cidr := do
  let (gs, cs) ← groups? cs
  let (bits, cs) ← number? 10 3 129 (← char? '/' cs)
  if cs.isEmpty then some ⟨.v6 gs, bits⟩ else none

def parse? (s : String) : Option Cidr := (v4? s.toList).or (v6? s.toList)

def isValid (s : String) : Bool := (parse? s).isSome

end Cidr

end OverlayConfig
