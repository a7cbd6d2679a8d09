import Steward.Service

/-! The commits of a pull request, page by page. -/

namespace Steward.Commit

def standardPerPage : Int := 100

/-- Fetches pages from `page` on, until one has fewer than `perPage` commits; `before` holds the
commits of the pages before. -/
def pagesFrom (repository : Repository) (number perPage : Int) :
    (bound : Nat) → (page : Int) → (before : List Json) → Job (List Json)
  | 0, _, before => return before
  | bound + 1, page, before => do
      let batch ← Service.listCommits repository number perPage page
      let commits ← batch.elements
      if (commits.length : Int) < perPage then return before ++ commits
      else pagesFrom repository number perPage bound (page + 1) (before ++ commits)

/-- All commits of a pull request, in order. When no answer is prepared any more a page is empty, so
there is at most one page more than there are answers. -/
def fetchAll (repository : Repository) (number perPage : Int) : Job (List Json) := do
  let bound ← Job.answersLeft
  let commits ← pagesFrom repository number perPage (bound + 1) 1 []
  Job.info s!"Fetched {commits.length} commits for PR #{number}"
  return commits

end Steward.Commit
