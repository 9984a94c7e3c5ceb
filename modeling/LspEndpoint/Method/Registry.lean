import LspEndpoint.Method.Basic
import LspEndpoint.Text.Quoted

/-!
Tables of method names. A name may stand for a request or for a notification but not for both.
-/
namespace LspEndpoint

structure Registry where
  requests : List Text
  notifications : List Text
  disjoint : ∀ m ∈ requests, m ∉ notifications

namespace Registry

def sortedNames (names : List Text) : List Text := names.eraseDups.mergeSort Text.le

/-- The names that two tables share. -/
def overlap (requests notifications : List Text) : List Text :=
  requests.filter notifications.contains

/-- The tables, or the names that both hold. -/
def ofTables (requests notifications : List Text) : Except (List Text) Registry :=
  if h : overlap requests notifications = [] then
    .ok ⟨requests, notifications, by
      intro m hm hn
      have h' : m ∈ overlap requests notifications := by simp [overlap, hm, hn]
      simp [h] at h'⟩
  else .error (sortedNames (overlap requests notifications))

def overlapMessage (names : List Text) : Text :=
  "Methods registered as both request and notification: " ++ Text.quotedList names

def isRequest (r : Registry) (method : Text) : Bool := r.requests.contains method

def isNotification (r : Registry) (method : Text) : Bool := r.notifications.contains method

theorem isRequest_imp_not_isNotification (r : Registry) (method : Text) (h : r.isRequest method) :
    r.isNotification method = false := by
  simp only [isRequest, isNotification, List.contains_iff_mem] at *
  simpa using r.disjoint method h

/-- The methods that the server answers. -/
def served : Registry where
  requests := RequestMethod.all.map fun m => Text.ofString m.method
  notifications := NotificationMethod.all.map fun m => Text.ofString m.method
  disjoint := by
    simp only [List.mem_map, not_exists, not_and]
    rintro _ ⟨m, _, rfl⟩ n _ e
    have h := NotificationMethod.ofText?_request m
    rw [← Text.ofString_injective e, NotificationMethod.ofText?_method] at h
    cases h

end Registry

end LspEndpoint
