/-!
This module contains the writing of a label of a host name in ASCII.
-/

namespace FlowRunner.Url.Punycode

def digit (n : Nat) : Char :=
  if n < 26 then Char.ofNat ('a'.toNat + n) else Char.ofNat ('0'.toNat + n - 26)

def threshold (bias place : Nat) : Nat :=
  max 1 (min 26 (place - bias))

-- The lowest digit comes first; one below its threshold is the last.
def digits (bias place n : Nat) : List Char :=
  let t := threshold bias place
  if n < t then [digit n]
  else digit (t + (n - t) % (36 - t)) :: digits bias (place + 36) ((n - t) / (36 - t))
termination_by n
decreasing_by
  have : 1 ≤ threshold bias place := Nat.le_max_left _ _
  have := Nat.div_le_self (n - threshold bias place) (36 - threshold bias place)
  omega

def shrink (divisions n : Nat) : Nat × Nat :=
  if 455 < n then shrink (divisions + 1) (n / 35) else (divisions, n)
termination_by n

def nextBias (n characters : Nat) (isFirst : Bool) : Nat :=
  let damped := if isFirst then n / 700 else n / 2
  let (divisions, left) := shrink 0 (damped + damped / characters)
  36 * divisions + 36 * left / (left + 38)

structure Progress where
  written : List Char
  count : Nat
  steps : Nat := 0
  bias : Nat := 72

def pass (basics code : Nat) (p : Progress) (c : Char) : Progress :=
  if c.toNat < code then { p with steps := p.steps + 1 }
  else if c.toNat == code then
    { written := p.written ++ digits p.bias 36 p.steps
      count := p.count + 1
      steps := 0
      bias := nextBias p.steps (p.count + 1) (p.count == basics) }
  else p

-- Each number tells how far it is from the last insertion to the next one.
def insertAll (label : List Char) (basics : Nat) : (next : Nat) → List Nat → Progress → Progress
  | _, [], p => p
  | next, code :: rest, p =>
    let p := { p with steps := p.steps + (code - next) * (p.count + 1) }
    let p := label.foldl (pass basics code) p
    insertAll label basics (code + 1) rest { p with steps := p.steps + 1 }

def encode (label : List Char) : List Char :=
  let (basic, others) := label.partition fun c => c.toNat < 0x80
  let codes := (others.map Char.toNat).eraseDups.mergeSort
  let start := if basic.isEmpty then [] else basic ++ ['-']
  (insertAll label basic.length 0x80 codes ⟨start, basic.length, 0, 72⟩).written

end FlowRunner.Url.Punycode
