import BootChain.Path

namespace BootChain

/-- The name of a test program. -/
structure FixtureId where
  text : String
  deriving DecidableEq, Repr

/-- Ids stand by their characters, which is also the order of their octets. -/
instance : Ord FixtureId := ⟨fun a b => compare a.text b.text⟩

instance : Std.TransOrd FixtureId where
  eq_swap := Std.OrientedOrd.eq_swap (α := String)
  isLE_trans := Std.TransOrd.isLE_trans (α := String)

instance : Std.LawfulEqOrd FixtureId where
  compare_self := Std.ReflOrd.compare_self (α := String)
  eq_of_compare {a b} h := by
    cases a; cases b
    exact congrArg FixtureId.mk (Std.LawfulEqOrd.eq_of_compare (α := String) h)

/-- A test program, and what it has to print, octet for octet. -/
structure Fixture where
  id : FixtureId
  source : Path
  expected : Bytes
  deriving DecidableEq, Repr

/-- True of exactly the expected output. -/
def Fixture.accepts (fixture : Fixture) (output : Bytes) : Bool :=
  fixture.expected = output

end BootChain
