import ReplicaSet.Member
import ReplicaSet.Text.Blank
import ReplicaSet.Text.Distinct

/-!
Addresses of a set, put together from what its members say. Blank addresses count as none.
-/
namespace ReplicaSet.Endpoints

/-- The addresses that some member can be reached at, each once, in increasing order. -/
def reachable (faces : List Face) : List String :=
  Text.distinct (faces.filterMap fun face => face.endpoint.bind Text.nonBlank?)

/-- The addresses that members report for the primary, in the order of the members. -/
def reports (faces : List Face) : List String :=
  faces.filterMap fun face => face.primaryEndpoint.bind Text.nonBlank?

/-- The address of the primary. While the set is changing over, members may disagree about it;
the first report is taken. -/
def primary? (faces : List Face) : Option String :=
  (reports faces).head?

/-- The distinct reports in increasing order, if there are several. -/
def disagreement? (faces : List Face) : Option (List String) :=
  let distinct := Text.distinct (reports faces)
  if 1 < distinct.length then some distinct else none

end ReplicaSet.Endpoints
