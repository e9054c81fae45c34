import CommentTags.Path

/-!
The order of paths. Components are ordered by what they are and then by their names, paths by their
components.
-/
namespace CommentTags

namespace Component

/-- The name of a component, if it is one. -/
def name : Component → Text
  | named s => s
  | _ => []

theorem compare_eq_compareLex :
    (compare : Component → Component → Ordering) =
      compareLex (compareOn rank) (compareOn name) := by
  funext a b
  cases a <;> cases b <;> rfl

instance : Std.TransOrd Component := by
  have hlex : Std.TransCmp (compareLex (compareOn rank) (compareOn name)) := inferInstance
  rwa [← compare_eq_compareLex] at hlex

end Component

namespace Path

theorem le_trans (p q r : Path) (h : p.le q = true) (h' : q.le r = true) : p.le r = true :=
  Std.TransCmp.isLE_trans h h'

theorem le_total (p q : Path) : (p.le q || q.le p) = true := by
  have hswap : compare q.components p.components =
      (compare p.components q.components).swap := Std.OrientedCmp.eq_swap
  rw [le, le, hswap]
  cases compare p.components q.components <;> rfl

end Path

end CommentTags
