/-!
# Totals

The sum of a list of numbers.
-/

set_option autoImplicit false

namespace PagePrep

/-- The sum of some numbers. The instances are named, so that it is the same sum wherever it is
written. -/
abbrev total (ns : List Nat) : Nat := @List.sum Nat instAddNat Zero.ofOfNat0 ns

end PagePrep
