import Tenancy.Number.Power
import Tenancy.Sorting

/-!
# Punycode

Text as letters, digits and hyphens (RFC 3492). The ASCII characters come first. The others follow
in ascending order, each as the number of steps to it from the one before, where a step goes to
the next place in the text or, behind the last place, to the next code point. Numbers are written
with their least digit first; how many digits are likely is learned from the numbers before.
-/

namespace Tenancy.Hostname.Punycode

/-! ## Numbers -/

def digit (n : Nat) : Char := if n < 26 then Char.ofNat (97 + n) else Char.ofNat (22 + n)

def digitValue? (c : Char) : Option Nat :=
  let n := c.toNat
  if 97 ≤ n ∧ n ≤ 122 then some (n - 97)
  else if 65 ≤ n ∧ n ≤ 90 then some (n - 65)
  else if 48 ≤ n ∧ n ≤ 57 then some (n - 22)
  else none

/-- A digit below the threshold is the last one of its number. `place` grows by 36 from digit to
digit. -/
def threshold (bias place : Nat) : Nat := min 26 (max 1 (place - bias))

theorem threshold_pos (bias place : Nat) : 0 < threshold bias place := by
  unfold threshold
  omega

/-- Divides a number down to the range that one digit suits, and counts the digits. -/
def scale (place : Nat) (n : Nat) : Nat :=
  if 455 < n then scale (place + 36) (n / 35) else place + 36 * n / (n + 38)
termination_by n
decreasing_by omega

/-- The bias for the number after one of `steps`, in a text of so many characters. -/
def nextBias (steps length : Nat) (isFirst : Bool) : Nat :=
  let n := if isFirst then steps / 700 else steps / 2
  scale 0 (n + n / length)

/-- The digits of a number. -/
def writeNumber (bias place n : Nat) : List Char :=
  let t := threshold bias place
  if n < t then [digit n]
  else digit (t + (n - t) % (36 - t)) :: writeNumber bias (place + 36) ((n - t) / (36 - t))
termination_by n
decreasing_by
  have ht := threshold_pos bias place
  have hle := Nat.div_le_self (n - threshold bias place) (36 - threshold bias place)
  omega

/-! ## Encoding -/

/-- What has been written, the steps since the last number, and what is known for the next. -/
structure Encoder where
  output : List Char
  steps : Nat
  bias : Nat
  length : Nat

/-- Passes one place of the text on the way to the places of the code point `n`. -/
def Encoder.pass (basic n : Nat) (e : Encoder) (c : Char) : Encoder :=
  if c.toNat < n then { e with steps := e.steps + 1 }
  else if c.toNat = n then
    { output := e.output ++ writeNumber e.bias 36 e.steps
      steps := 0
      bias := nextBias e.steps (e.length + 1) (e.length == basic)
      length := e.length + 1 }
  else e

/-- Writes all places of the next code point; `start` is the first one that has not been passed. -/
def Encoder.write (text : List Char) (basic : Nat) : Nat × Encoder → Nat → Nat × Encoder
  | (start, e), n =>
    let steps := e.steps + (n - start) * (e.length + 1)
    let e := text.foldl (Encoder.pass basic n) { e with steps }
    (n + 1, { e with steps := e.steps + 1 })

/-- The code points of a text beyond ASCII, each once and in ascending order. -/
def codePoints (text : List Char) : List Nat :=
  (stableSort compare ((text.map Char.toNat).filter (128 ≤ ·))).eraseReps

/-- The text in letters, digits and hyphens. -/
def encode (text : List Char) : List Char :=
  let basic := text.filter (·.toNat < 128)
  let start : Encoder := ⟨[], 0, 72, basic.length⟩
  let e := (codePoints text).foldl (Encoder.write text basic.length) (128, start)
  basic ++ (if basic.isEmpty then [] else ['-']) ++ e.2.output

/-! ## Decoding -/

/-- What has been read: the text so far, its last code point and the place after it, and the
number that is being read, with the weight and the place of its next digit. -/
structure Decoder where
  output : List Char
  codePoint : Nat
  position : Nat
  bias : Nat
  steps : Nat
  weight : Nat
  place : Nat

namespace Decoder

/-- Nothing is read but the ASCII characters. -/
def start (basic : List Char) : Decoder := ⟨basic, 128, 0, 72, 0, 1, 36⟩

/-- Puts a character into the text after the number of steps to it has been read. -/
def insert? (d : Decoder) (steps : Nat) : Option Decoder :=
  let length := d.output.length + 1
  let codePoint := d.codePoint + (d.position + steps) / length
  let position := (d.position + steps) % length
  if codePoint.isValidChar then
    some ⟨d.output.insertIdx position (Char.ofNat codePoint), codePoint, position + 1,
      nextBias steps length (d.position == 0), 0, 1, 36⟩
  else none

/-- Reads one digit. The weights of digits have 32 bits. -/
def read? (d : Decoder) (c : Char) : Option Decoder := do
  let n ← digitValue? c
  let steps := d.steps + n * d.weight
  let t := threshold d.bias d.place
  let weight := d.weight * (36 - t)
  if n < t then d.insert? steps
  else if weight < 2 ^ 32 then some { d with steps, weight, place := d.place + 36 }
  else none

end Decoder

/-- The ASCII characters before the last hyphen, and what is behind it. A hyphen that nothing
stands before does not end them. -/
def splitBasic (cs : List Char) : List Char × List Char :=
  let (behind, basic) := (cs.reverse.takeWhile (· != '-'), cs.reverse.dropWhile (· != '-'))
  if basic.length ≤ 1 then ([], cs) else ((basic.drop 1).reverse, behind.reverse)

/-- The text that letters, digits and hyphens write; none if other characters do. -/
def decode? (cs : List Char) : Option (List Char) := do
  let (basic, digits) := splitBasic cs
  if basic.any (128 ≤ ·.toNat) then none
  let d ← digits.foldlM Decoder.read? (Decoder.start basic)
  if d.place = 36 then some d.output else none

end Tenancy.Hostname.Punycode
