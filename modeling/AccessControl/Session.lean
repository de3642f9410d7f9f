/-!
# Sessions

The circumstances in which a statement is issued: who issues it, and where the rows of its answer
go.  They are recorded in operations and never checked.
-/

namespace AccessControl

/-- A session, of a user when somebody is authenticated. -/
structure Session where
  user : Option String := none
deriving DecidableEq

/-- The circumstances of one statement. -/
structure Issue where
  session : Option Session := none
  resultFile : Option String := none
deriving DecidableEq

/-- The user who grants: nobody without a session. -/
def Issue.grantor (issue : Issue) : Option String :=
  issue.session.bind Session.user

end AccessControl
