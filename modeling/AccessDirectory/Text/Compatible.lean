import AccessDirectory.Text.Composition
import AccessDirectory.Text.Hex
import AccessDirectory.Text.Parts

/-! The compatible form of a text: characters that only look different are replaced by plain ones, marks
stand in the order of their classes, and each joins with the letter before it where a character for both
exists. -/

namespace AccessDirectory.Text.Compatible

/-- Code points from one to another and what the first stands for. If that is one code point, each of the
others stands for one as far from it. -/
structure Entry where
  first : Nat
  last : Nat
  image : List Nat
deriving Inhabited

def Entry.image? (e : Entry) (n : Nat) : Option (List Nat) :=
  if e.first ≤ n && n ≤ e.last then
    some (match e.image with
      | [m] => [m + (n - e.first)]
      | ms => ms)
  else none

def readNumber (cs : List Char) : Nat := cs.foldl (fun n c => 16 * n + (Hex.value? c).getD 0) 0

def readEntry (cs : List Char) : Entry :=
  let places := (parts '-' (cs.takeWhile (· ≠ ':'))).map readNumber
  { first := places.head?.getD 0
    last := places.getLast?.getD 0
    image := (parts '.' ((cs.dropWhile (· ≠ ':')).drop 1)).map readNumber }

def readEntries (lines : List String) : List Entry :=
  lines.flatMap fun line => (parts ' ' line.toList).map readEntry

def pairs : List Entry := readEntries Composition.pairLines

def images : List Entry := readEntries Composition.imageLines

/-! The syllables of one script are joined of two or three letters by their numbers. -/

def syllables : Nat := 0xac00
def leads : Nat := 0x1100
def vowels : Nat := 0x1161
def tails : Nat := 0x11a7
def leadCount : Nat := 19
def vowelCount : Nat := 21
def tailCount : Nat := 28
def syllableCount : Nat := leadCount * vowelCount * tailCount

def syllableLetters (n : Nat) : List Nat :=
  let i := n - syllables
  let tail := i % tailCount
  [leads + i / tailCount / vowelCount, vowels + i / tailCount % vowelCount] ++
    if tail = 0 then [] else [tails + tail]

def joinLetters? (a b : Nat) : Option Nat :=
  if leads ≤ a && a < leads + leadCount && vowels ≤ b && b < vowels + vowelCount then
    some (syllables + ((a - leads) * vowelCount + (b - vowels)) * tailCount)
  else if syllables ≤ a && a < syllables + syllableCount && (a - syllables) % tailCount = 0 &&
      tails < b && b < tails + tailCount then
    some (a + (b - tails))
  else none

def depth : Nat := 4

/-- What a code point stands for. The fuel bounds how often characters are taken apart. -/
def expand : (fuel : Nat) → Nat → List Nat
  | 0, n => [n]
  | fuel + 1, n =>
    if syllables ≤ n && n < syllables + syllableCount then syllableLetters n
    else match pairs.findSome? (·.image? n) with
      | some ms => ms.flatMap (expand fuel)
      | none => (images.findSome? (·.image? n)).getD [n]

def expandChar (c : Char) : List Char :=
  if c.toNat < 0x80 then [c] else (expand depth c.toNat).map Char.ofNat

def rank (c : Char) : Nat :=
  ((Composition.classRuns.find? fun (first, last, _) => first ≤ c.toNat && c.toNat ≤ last).map
    (·.2.2)).getD 0

def settle (c : Char) : List Char → List Char
  | [] => [c]
  | d :: rest => if rank c ≠ 0 && rank c < rank d then d :: settle c rest else c :: d :: rest

def arrange (cs : List Char) : List Char := (cs.foldl (fun before c => settle c before) []).reverse

def join? (a b : Char) : Option Char :=
  match joinLetters? a.toNat b.toNat with
  | some n => some (Char.ofNat n)
  | none => (pairs.find? (·.image = [a.toNat, b.toNat])).map fun e => Char.ofNat e.first

/-- A character joined with what follows it as far as possible, and the text that stays; `last` is the
class of the last mark that stayed. A mark of no higher class than one that stayed is not joined. -/
def absorb (c : Char) (last : Nat) : List Char → Char × List Char
  | [] => (c, [])
  | d :: rest =>
    let k := rank d
    let keep (k : Nat) : Char × List Char :=
      let ended := absorb c k rest
      (ended.1, d :: ended.2)
    if last ≠ 0 && k = 0 then (c, d :: rest)
    else if last ≠ 0 && k ≤ last then keep last
    else match join? c d with
      | some joined => absorb joined last rest
      | none => if k = 0 then (c, d :: rest) else keep k

theorem absorb_length_le (cs : List Char) :
    ∀ (c : Char) (last : Nat), (absorb c last cs).2.length ≤ cs.length := by
  induction cs with
  | nil => intro c last; simp [absorb]
  | cons d rest ih =>
    intro c last
    simp only [absorb]
    split
    · simp
    · split
      · simpa using ih c last
      · split
        · exact Nat.le_succ_of_le (ih _ last)
        · split
          · simp
          · simpa using ih c (rank d)

def joinAll : List Char → List Char
  | [] => []
  | c :: rest =>
    let joined := absorb c 0 rest
    joined.1 :: joinAll joined.2
termination_by cs => cs.length
decreasing_by exact Nat.lt_succ_of_le (absorb_length_le rest c 0)

def form (cs : List Char) : List Char := joinAll (arrange (cs.flatMap expandChar))

end AccessDirectory.Text.Compatible
