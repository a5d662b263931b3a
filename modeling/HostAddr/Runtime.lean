import HostAddr.Host
import HostAddr.Regex.Parse

/-!
# Libraries of the executable

The executable matches patterns and sorts with the engine and the sort below. Everything else takes
them as parts of the host, so that nothing depends on how they work. The engine refuses patterns
with the classes `\p` and `\P` of Unicode properties, which other engines read.
-/

namespace HostAddr

def Regex.engine : PatternEngine where
  compile? pattern := (Regex.parse? pattern).map Regex.isMatch

/-- A sort that merges, whatever the comparison is. -/
def Sorter.merging : Sorter where
  sort? cmp rs := some (rs.mergeSort fun a b => (cmp a b).isLE)
  sort?_of_preorderOn _ := rfl
  perm_of_sort? h := Option.some.inj h ▸ List.mergeSort_perm _ _

/-- The host without interfaces. -/
def Host.empty : Host :=
  ⟨.ok [], .error noDefaultRoute, Regex.engine, .merging⟩

end HostAddr
