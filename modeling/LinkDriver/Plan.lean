import LinkDriver.Input

/-!
# The order of link inputs

Object files and namespecs are collected in two lists, but an archive only supplies the symbols
that are undefined when it is visited. `plan` merges the two lists back into the order of the
command line.

The merge compares the positions at the heads of both lists. Position 0 stands for an exhausted
list and is no position of an input. The merge stops where neither head precedes the other: at the
end of both lists, and at two heads with one position.
-/

namespace LinkDriver

/-- The position that stands for an exhausted list. -/
def exhausted : Int := 0

/-- Whether a head is taken before the head of the other list. A head at 0 never is. -/
def Precedes (head other : Int) : Prop :=
  head ≠ exhausted ∧ (other = exhausted ∨ head < other)

instance (head other : Int) : Decidable (Precedes head other) := by
  unfold Precedes
  infer_instance

/-- Merges object files and namespecs into the order in which they are linked. -/
def plan : List ObjectFile → List NameSpec → List Item
  | [], [] => []
  | object :: objects, [] =>
    if Precedes object.position exhausted then .object object :: plan objects [] else []
  | [], namespec :: namespecs =>
    if Precedes namespec.position exhausted then .namespec namespec :: plan [] namespecs else []
  | object :: objects, namespec :: namespecs =>
    if Precedes object.position namespec.position then
      .object object :: plan objects (namespec :: namespecs)
    else if Precedes namespec.position object.position then
      .namespec namespec :: plan (object :: objects) namespecs
    else []
termination_by objects namespecs => objects.length + namespecs.length

end LinkDriver
