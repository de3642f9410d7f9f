import AccessControl.Host
import AccessControl.Proofs.Catalog.Advice
import AccessControl.Proofs.Catalog.History
import AccessControl.Proofs.Catalog.Owners
import AccessControl.Proofs.Catalog.Questions
import AccessControl.Proofs.Catalog.Refinement
import AccessControl.Proofs.Grants.Columns
import AccessControl.Proofs.Grants.Counterparts
import AccessControl.Proofs.Grants.Grammar
import AccessControl.Proofs.Grants.Memberships
import AccessControl.Proofs.Policy.Canonical
import AccessControl.Proofs.Policy.Filtering
import AccessControl.Proofs.Policy.Permitted
import AccessControl.Proofs.Policy.Reserved
import AccessControl.Proofs.Reading.Journals
import AccessControl.Proofs.Reading.Lists
import AccessControl.Proofs.Reading.Parts
import AccessControl.Proofs.Reading.Paths
import AccessControl.Proofs.Reading.Remarks
import AccessControl.Proofs.Reading.Statements
import AccessControl.Proofs.Reading.Targets
import AccessControl.Proofs.Reading.Within
import AccessControl.Proofs.Targets.Objects
import AccessControl.Proofs.Targets.Partitions
import AccessControl.Proofs.Targets.TableNames
import AccessControl.Proofs.Text.Capitals
import AccessControl.Proofs.Text.Cutting
import AccessControl.Proofs.Verdicts.Aliases
import AccessControl.Proofs.Verdicts.Answers
import AccessControl.Proofs.Verdicts.Blame
import AccessControl.Proofs.Verdicts.Circumstances
import AccessControl.Proofs.Verdicts.Completeness
import AccessControl.Proofs.Verdicts.Kinds
import AccessControl.Proofs.Verdicts.Log
import AccessControl.Proofs.Verdicts.Quoting
