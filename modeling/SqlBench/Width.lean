set_option autoImplicit false

namespace SqlBench.Width

def size (bits : Nat) : Nat :=
  Nat.pow 2 bits

def least (bits : Nat) : Int :=
  -Int.ofNat (size (bits - 1))

def greatest (bits : Nat) : Int :=
  Int.ofNat (size (bits - 1)) - 1

def fitsSigned (bits : Nat) (n : Int) : Bool :=
  least bits ≤ n && n ≤ greatest bits

def fitsUnsigned (bits : Nat) (n : Int) : Bool :=
  0 ≤ n && n < Int.ofNat (size bits)

-- A number in a word, and whether anything above the word's width was cut off on the way to it.
structure Word where
  value : Nat
  isCut : Bool
  deriving DecidableEq, Repr, Inhabited

def Word.times (bits : Nat) (w : Word) (n : Nat) : Word :=
  ⟨w.value * n % size bits, w.isCut || size bits ≤ w.value * n⟩

def overflow : String := "attempt to multiply with overflow"

end SqlBench.Width
