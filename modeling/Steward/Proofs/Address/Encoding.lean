import Steward.Assignment.Comment
import Steward.Proofs.Address
import Steward.Proofs.Text.Percent.Alphabet

/-! Texts within addresses. A label in the address of a request and a query in a link stay at their
place, and can be read back from it. -/

namespace Steward

open Text.Percent

/-- An address ends with a text, encoded and without the characters that would end its place. -/
def EndsWith (extra barred : List Char) (address : Wording) (front : List Char) (text : String) :
    Prop :=
  ∃ ending, address = String.ofList (front ++ ending) ∧ IsEncoded extra ending ∧
    read ending = .ok text ∧ ∀ character ∈ barred, character ∉ ending

variable {extra barred front : List Char} {text other : String}

theorem EndsWith.of_encode {address : String} (plain : '%' ∉ extra)
    (reserved : ∀ character ∈ barred, isUnreserved character = false ∧ character ∉ extra ∧
      character ≠ '%')
    (whole : address.toList = front ++ (encode extra text).toList) :
    EndsWith extra barred address front text := by
  refine ⟨_, by rw [← whole, String.ofList_toList], encode_isEncoded extra text,
    read_encode plain text, ?_⟩
  intro character listed
  rcases reserved character listed with ⟨unkept, absent, unmarked⟩
  exact not_mem_encode unkept absent unmarked text

/-- One address ends with one text after the same front. -/
theorem EndsWith.unique {address : Wording} (ends : EndsWith extra barred address front text)
    (again : EndsWith extra barred address front other) : text = other := by
  rcases ends with ⟨ending, whole, -, reads, -⟩
  rcases again with ⟨otherEnding, otherWhole, -, otherReads, -⟩
  have same := List.append_cancel_left (String.ofList_injective
    (congrArg Wording.text (whole.symm.trans otherWhole)))
  subst same
  exact Except.ok.inj (reads.symm.trans otherReads)

/-! ## Labels -/

def Repository.labelFront (base : String) (repository : Repository) (number : Int) : List Char :=
  base.toList ++ '/' :: (repository.issuePath number).toList ++ "/labels/".toList

theorem Request.labelRemoval_endsWith (base : String) (repository : Repository) (number : Int)
    (label : String) :
    EndsWith [] ['/', '?', '#'] (labelRemoval base repository number label).url
      (repository.labelFront base number) label := by
  rw [url_labelRemoval]
  refine .of_encode List.not_mem_nil (by simp [isUnreserved]) ?_
  rw [repository.toList_issueAddress, String.toList_append, Repository.labelFront]
  simp only [List.append_assoc]

theorem Service.removeLabel_requests (repository : Repository) (number : Int) (label : String)
    (station : Station) (session : Session) :
    (removeLabel repository number label station session).2.requests =
      session.requests ++ [.labelRemoval station.service repository number label] := by
  rw [removeLabel, call_run]
  rfl

/-! ## Queries -/

def Repository.searchFront (repository : Repository) : List Char :=
  "https://github.com/".toList ++ repository.owner.toList ++ '/' :: repository.name.toList ++
    "/issues?q=".toList

theorem Assignment.Comment.searchLink_endsWith (repository : Repository) (query : String) :
    EndsWith plainMarks ['&', '#', '+', '"', ' '] (searchLink repository query)
      repository.searchFront query := by
  have whole : (searchLink repository query).toList =
      repository.searchFront ++ (encode plainMarks query).toList := by
    unfold searchLink Repository.searchFront
    generalize encode plainMarks query = encoded
    simp [toString]
  exact .of_encode (by decide) (by simp [isUnreserved, plainMarks]) whole

/-- A label is removed by one request, whose address ends with the label as one part of its path,
and a link to what a query finds ends with the query. Both are encoded and can be read back, so that
other labels and other queries have other addresses. -/
theorem Service.addresses_keep_texts :
    (∀ repository number label station session,
      (removeLabel repository number label station session).2.requests =
        session.requests ++ [.labelRemoval station.service repository number label]) ∧
    (∀ base repository number label,
      (Request.labelRemoval base repository number label).method = "DELETE" ∧
        EndsWith [] ['/', '?', '#'] (Request.labelRemoval base repository number label).url
          (repository.labelFront base number) label) ∧
    (∀ repository query,
      EndsWith ['!', '*', '\'', '(', ')'] ['&', '#', '+', '"', ' ']
        (Assignment.Comment.searchLink repository query) repository.searchFront query) ∧
    (∀ base repository number label other, label ≠ other →
      (Request.labelRemoval base repository number label).url ≠
        (Request.labelRemoval base repository number other).url) ∧
    ∀ repository query other, query ≠ other →
      Assignment.Comment.searchLink repository query ≠
        Assignment.Comment.searchLink repository other := by
  refine ⟨removeLabel_requests, ?_, Assignment.Comment.searchLink_endsWith, ?_, ?_⟩
  · intro base repository number label
    exact ⟨rfl, Request.labelRemoval_endsWith base repository number label⟩
  · intro base repository number label other different same
    have ends := Request.labelRemoval_endsWith base repository number label
    rw [same] at ends
    exact different (ends.unique (Request.labelRemoval_endsWith base repository number other))
  · intro repository query other different same
    have ends := Assignment.Comment.searchLink_endsWith repository query
    rw [same] at ends
    exact different (ends.unique (Assignment.Comment.searchLink_endsWith repository other))

end Steward
