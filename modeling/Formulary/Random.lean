/-!
# Formulary.Random

Random numbers. A world that can provide them is an instance of
`RandomSource`; `Generator` is one, a counter whose values are scrambled.
-/

namespace Formulary

/-- A world with random numbers from zero to below one. -/
class RandomSource (σ : Type) where
  next : σ → Float × σ

/-- The state of a random number generator. -/
structure Generator where
  counter : UInt64
deriving DecidableEq, Repr

namespace Generator

/-- Mix the bits of a number, so that each of them depends on all. -/
def scramble (n : UInt64) : UInt64 :=
  let n := (n ^^^ (n >>> 30)) * 0xBF58476D1CE4E5B9
  let n := (n ^^^ (n >>> 27)) * 0x94D049BB133111EB
  n ^^^ (n >>> 31)

/-- A number from zero to below one, a multiple of `2 ^ -53`. -/
def next (generator : Generator) : Float × Generator :=
  let counter := generator.counter + 0x9E3779B97F4A7C15
  ((scramble counter >>> 11).toFloat / 9007199254740992.0, ⟨counter⟩)

end Generator

instance : RandomSource Generator := ⟨Generator.next⟩

end Formulary
