import CallDesk.Web.Route

/-! # Where routes lie

A path has the route of a fixed address, or it is the address of a call in one of two places. What
a path starts with tells whether its route is private and whether it serves a part of a page.
-/

namespace CallDesk.Web.Route

/-- An id stands after its address and a slash. -/
theorem prefix_of_idAfter? {start path id : String} (found : idAfter? start path = some id) :
    start.toList ++ ['/'] <+: path.toList := by
  rw [idAfter?] at found
  split at found
  · rename_i under
    exact List.isPrefixOf_iff_prefix.mp under
  · contradiction

/-- Where a route comes from. -/
theorem of?_cases {path : String} {route : Route} (found : of? path = some route) :
    (path, route) ∈ fixed ∨ (∃ id, route = call id ∧ Site.calls.toList ++ ['/'] <+: path.toList) ∨
      ∃ id, route = callFragment id ∧ "/fragments/calls".toList ++ ['/'] <+: path.toList := by
  rw [of?] at found
  split at found
  · rename_i other listed
    obtain rfl := Option.some.inj found
    obtain ⟨before, after, split, -⟩ := List.lookup_eq_some_iff.mp listed
    left
    rw [split]
    exact List.mem_append_right _ List.mem_cons_self
  split at found
  · rename_i id after
    exact .inr (.inl ⟨id, (Option.some.inj found).symm, prefix_of_idAfter? after⟩)
  · obtain ⟨id, after, rfl⟩ := Option.map_eq_some_iff.mp found
    exact .inr (.inr ⟨id, rfl, prefix_of_idAfter? after⟩)

/-- Two starts of one path are starts of each other. -/
theorem comparable_starts {first second path : List Char} (h : first <+: path) (k : second <+: path) :
    (first.isPrefixOf second || second.isPrefixOf first) = true := by
  rw [Bool.or_eq_true, List.isPrefixOf_iff_prefix, List.isPrefixOf_iff_prefix]
  exact List.prefix_or_prefix_of_prefix h k

/-- Signing in has one path. -/
theorem path_of_session {path : String} (found : of? path = some session) : path = Site.session := by
  rcases of?_cases found with listed | ⟨id, other, -⟩ | ⟨id, other, -⟩
  · have only : ∀ p ∈ fixed, p.2 = session → p.1 = Site.session := by decide
    exact only _ listed rfl
  · contradiction
  · contradiction

/-- Signing in is a submission. -/
theorem method_of_session {method : String} {purpose : Purpose}
    (wanted : session.purpose? method = some purpose) : method = "POST" := by
  rw [purpose?] at wanted
  split at wanted
  · contradiction
  split at wanted
  · rename_i post
    exact eq_of_beq post
  · contradiction

/-- To see a route without its body is what one method asks for. -/
theorem isPeek_iff {route : Route} {method : String} {purpose : Purpose}
    (wanted : route.purpose? method = some purpose) : purpose = .peek ↔ method = "HEAD" := by
  unfold purpose? at wanted
  split at wanted
  · rename_i seen
    split at wanted
    · contradiction
    · obtain rfl := Option.some.inj wanted
      rcases Bool.or_eq_true_iff.mp seen with get | head
      · obtain rfl := eq_of_beq get
        decide
      · obtain rfl := eq_of_beq head
        decide
  · rename_i other
    have sent : purpose = .submit := by
      split at wanted
      · split at wanted
        · exact (Option.some.inj wanted).symm
        · exact (Option.some.inj wanted).symm
        · exact (Option.some.inj wanted).symm
        · contradiction
      · contradiction
    constructor
    · intro peek
      exact absurd (sent.symm.trans peek) (by decide)
    · rintro rfl
      exact absurd rfl other

/-- The pages of the dashboard are for users who are signed in. -/
theorem of?_dashboard {path : String} {route : Route} (found : of? path = some route)
    (under : Site.overview.toList <+: path.toList) : route.isPrivate = true ∧ route.isFragment = false := by
  rcases of?_cases found with listed | ⟨id, rfl, -⟩ | ⟨id, rfl, start⟩
  · have all : ∀ p ∈ fixed, Site.overview.toList <+: p.1.toList →
        p.2.isPrivate = true ∧ p.2.isFragment = false := by decide
    exact all _ listed under
  · exact ⟨rfl, rfl⟩
  · exact absurd (comparable_starts under start) (by decide)

/-- So are the parts of pages. -/
theorem of?_fragment {path : String} {route : Route} (found : of? path = some route)
    (under : "/fragments/".toList <+: path.toList) : route.isPrivate = true ∧ route.isFragment = true := by
  rcases of?_cases found with listed | ⟨id, rfl, start⟩ | ⟨id, rfl, -⟩
  · have all : ∀ p ∈ fixed, "/fragments/".toList <+: p.1.toList →
        p.2.isPrivate = true ∧ p.2.isFragment = true := by decide
    exact all _ listed under
  · exact absurd (comparable_starts under start) (by decide)
  · exact ⟨rfl, rfl⟩

end CallDesk.Web.Route
