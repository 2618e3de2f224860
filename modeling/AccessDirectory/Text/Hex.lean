/-! Hexadecimal digits. Writing uses lower case; reading accepts both. -/

namespace AccessDirectory.Text.Hex

def digit (n : Nat) : Char :=
  Char.ofNat (if n < 10 then 0x30 + n else 0x57 + n)

def value? (c : Char) : Option Nat :=
  let n := c.toNat
  if 0x30 ≤ n && n ≤ 0x39 then some (n - 0x30)
  else if 0x61 ≤ n && n ≤ 0x66 then some (n - 0x57)
  else if 0x41 ≤ n && n ≤ 0x46 then some (n - 0x37)
  else none

theorem value?_digit : ∀ n < 16, value? (digit n) = some n := by decide

def fixed : (width : Nat) → (n : Nat) → List Char
  | 0, _ => []
  | width + 1, n => fixed width (n / 16) ++ [digit (n % 16)]

theorem exists_digit_of_mem_fixed {width n : Nat} {c : Char} (h : c ∈ fixed width n) :
    ∃ m < 16, c = digit m := by
  induction width generalizing n with
  | zero => cases h
  | succ width ih =>
    rcases List.mem_append.1 h with h | h
    · exact ih h
    · exact ⟨n % 16, Nat.mod_lt n (by decide), List.mem_singleton.1 h⟩

def ofBytes (bs : List UInt8) : String := String.ofList (bs.flatMap fun b => fixed 2 b.toNat)

def toBytes? : List Char → Option (List UInt8)
  | [] => some []
  | a :: b :: rest => do
    let high ← value? a
    let low ← value? b
    let more ← toBytes? rest
    return UInt8.ofNat (16 * high + low) :: more
  | [_] => none

def four? (a b c d : Char) : Option Nat := do
  return ((← value? a) * 16 + (← value? b)) * 256 + ((← value? c) * 16 + (← value? d))

end AccessDirectory.Text.Hex
