import Steward.Proofs.Address
import Steward.Proofs.Text.Number
import Steward.Proofs.Text.Percent
import Steward.Proofs.Tracker.Basic

/-! A change can be told from its request: from the number in the address, and from the names in the
body or at the end of the address. -/

namespace Steward

/-! ## Numbers in addresses -/

namespace Repository

/-- Addresses of two issues differ, whatever comes after the issues. -/
theorem issueAddress_injective {base firstTail secondTail : String} {repository : Repository}
    {first second : Nat} (firstStarts : firstTail.toList.head? = some '/')
    (secondStarts : secondTail.toList.head? = some '/')
    (equal : (Service.address base (repository.issuePath first ++ firstTail) : Wording) =
      Service.address base (repository.issuePath second ++ secondTail)) :
    first = second ∧ firstTail = secondTail := by
  have characters := congrArg (String.toList ·.text) equal
  rw [toList_issueAddress, toList_issueAddress, toList_issuePath, toList_issuePath] at characters
  have ends : (toString (first : Int)).toList ++ firstTail.toList =
      (toString (second : Int)).toList ++ secondTail.toList := by
    simpa using characters
  rcases List.head?_eq_some_iff.mp firstStarts with ⟨rest, firstIs⟩
  rcases List.head?_eq_some_iff.mp secondStarts with ⟨others, secondIs⟩
  have same : (first : Int) = second := by
    rw [firstIs, secondIs] at ends
    exact Text.eq_of_append_eq rfl (by decide) ends
  rw [same] at ends
  exact ⟨Int.ofNat.inj same, String.toList_inj.mp (List.append_cancel_left ends)⟩

end Repository

/-! ## Changes by their requests -/

namespace Change

variable {site : Site}

def topic : Change → Option String
  | .assign _ _ => some "assignees"
  | .addLabels _ _ => some "labels"
  | .removeLabel _ _ => none

theorem topic_request (change : Change) : (change.request site).topic = change.topic := by
  cases change <;> rfl

theorem request_not_idle (change : Change) : ¬(change.request site).Idle site.base := by
  intro idle
  have topics := idle.topic
  rw [topic_request] at topics
  cases change <;> simp [topic] at topics

theorem texts_injective {first second : List String}
    (equal : Json.list ((first.map fun name : String => (name : Wording)).map .text) =
      .list ((second.map fun name : String => (name : Wording)).map .text)) : first = second := by
  have texts : Function.Injective fun name : String => Json.text name :=
    fun _ _ same => Json.eq_of_text same
  rw [List.map_map, List.map_map] at equal
  exact texts.list_map (Json.list.inj equal)

theorem request_injective : Function.Injective (request site) := by
  intro first second equal
  have topics := congrArg Request.topic equal
  rw [topic_request, topic_request] at topics
  have addresses := congrArg Request.url equal
  have bodies := congrArg Request.body equal
  cases first with
  | assign number logins =>
      cases second with
      | assign other others =>
          simp only [request, Request.url_assignees] at addresses
          have numbers := (Repository.issueAddress_injective (by simp) (by simp) addresses).1
          have logins := texts_injective (Prod.mk.inj (List.cons.inj (Json.object.inj bodies)).1).2
          rw [numbers, logins]
      | addLabels => simp [topic] at topics
      | removeLabel => simp [topic] at topics
  | addLabels number names =>
      cases second with
      | assign => simp [topic] at topics
      | addLabels other others =>
          simp only [request, Request.url_labelAddition] at addresses
          have numbers := (Repository.issueAddress_injective (by simp) (by simp) addresses).1
          have names := texts_injective (Prod.mk.inj (List.cons.inj (Json.object.inj bodies)).1).2
          rw [numbers, names]
      | removeLabel => simp [topic] at topics
  | removeLabel number name =>
      cases second with
      | assign => simp [topic] at topics
      | addLabels => simp [topic] at topics
      | removeLabel other another =>
          simp only [request, Request.url_labelRemoval] at addresses
          rcases Repository.issueAddress_injective (by simp) (by simp) addresses with
            ⟨numbers, tails⟩
          rw [numbers, Text.Percent.encode_injective ((String.append_right_inj _).mp tails)]

end Change

end Steward
