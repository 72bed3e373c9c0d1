import CxxTrees.Spelling.Qualifiers
import CxxTrees.Spelling.Arguments
import CxxTrees.Spelling.Bound
import CxxTrees.Tree.Equality
import CxxTrees.Tree.Raw
import CxxTrees.Tree.Document
import CxxTrees.Registry
import CxxTrees.Session
import CxxTrees.Build.Numbers
import CxxTrees.Proofs.Calls.Graph
import CxxTrees.Proofs.Frontend.SourceOrder
import CxxTrees.Proofs.Outcome
import CxxTrees.Proofs.Calls.Body
import CxxTrees.Proofs.Calls.Walk
import CxxTrees.Proofs.Build.ArgumentScope
import CxxTrees.Proofs.Build.Canonical
import CxxTrees.Proofs.Calls.Requests
import CxxTrees.Proofs.Token.Rendered
import CxxTrees.Proofs.Build.Recorded
import CxxTrees.Proofs.Calls.FirstWalk
import CxxTrees.Proofs.Calls.Endings
import CxxTrees.Proofs.Frontend.Links
import CxxTrees.Proofs.Stops
import CxxTrees.Proofs.Frontend.Descents
import CxxTrees.Proofs.Build.Stops
import CxxTrees.Proofs.Calls.Stops
import CxxTrees.Proofs.Snapshot.Links
import CxxTrees.Proofs.Session.Termination
import CxxTrees.Proofs.Session.Inside
import CxxTrees.Proofs.Session.Independence
import CxxTrees.Proofs.Spelling.Separators
import CxxTrees.Proofs.Spelling.QualifierTokens
import CxxTrees.Proofs.Snapshot.Complete
import CxxTrees.Proofs.Session.Canonical
import CxxTrees.Proofs.Snapshot.Document
import CxxTrees.Proofs.Snapshot.Building
import CxxTrees.Proofs.Calls.Conservation
import CxxTrees.Proofs.Token.Grammar
import CxxTrees.Proofs.Token.Spaced
import CxxTrees.Proofs.Spelling.Joined
import CxxTrees.Proofs.Spelling.Dimensions
import CxxTrees.Proofs.Build.MemberTemplates
import CxxTrees.Proofs.Build.TemplateParameters
import CxxTrees.Proofs.Build.Declarators
import CxxTrees.Proofs.Build.TypeParameters
import CxxTrees.Proofs.Spelling.Qualified
import CxxTrees.Proofs.Build.LocalTypedefs
import CxxTrees.Proofs.Build.Pointers
import CxxTrees.Proofs.Build.MemberPointers
import CxxTrees.Proofs.Build.AliasTemplates
import CxxTrees.Proofs.Registry.Contents
import CxxTrees.Proofs.Registry.Declarations
import CxxTrees.Proofs.Calls.Changes
import CxxTrees.Proofs.Build.AbsentText
import CxxTrees.Proofs.Build.Wrappers
import CxxTrees.Proofs.Build.Attempts
import CxxTrees.Proofs.Build.FirstReading
import CxxTrees.Proofs.Calls.Templates
