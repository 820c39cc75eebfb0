import QueryDraft.Json.Writer
import QueryDraft.Main
import QueryDraft.Proofs.Names
import QueryDraft.Proofs.Assembly
import QueryDraft.Proofs.Recovery
import QueryDraft.Proofs.Truncation
import QueryDraft.Proofs.Lexing
import QueryDraft.Proofs.Rendering
import QueryDraft.Proofs.Reading
import QueryDraft.Proofs.RoundTrip
import QueryDraft.Proofs.Outline
import QueryDraft.Proofs.Limit
import QueryDraft.Proofs.Cycles
import QueryDraft.Proofs.Formatting
import QueryDraft.Proofs.Loading
import QueryDraft.Proofs.OperationNames
import QueryDraft.Proofs.Retry
import QueryDraft.Proofs.Charge
import QueryDraft.Proofs.Completion
import QueryDraft.Proofs.Deprecation
import QueryDraft.Proofs.Reachability
import QueryDraft.Proofs.Budget
import QueryDraft.Proofs.Members
import QueryDraft.Proofs.Ranking
import QueryDraft.Proofs.Lines
import QueryDraft.Proofs.Paragraphs
import QueryDraft.Proofs.Sessions
import QueryDraft.Proofs.Headers
