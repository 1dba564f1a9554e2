/-!
# Numbers

Which zero sums begin with, and why the orders of the numbers are transitive.
Named here, they are the same whatever else is imported.
-/

namespace NamespaceScan

scoped instance zeroOfSums : Zero Nat := ⟨0⟩

scoped instance transLt : Trans (fun a b : Nat => a < b) (fun a b : Nat => a < b)
    (fun a b : Nat => a < b) := ⟨Nat.lt_trans⟩

scoped instance transFinLt {n : Nat} : Trans (fun a b : Fin n => a < b) (fun a b : Fin n => a < b)
    (fun a b : Fin n => a < b) := ⟨Fin.lt_trans⟩

end NamespaceScan
