import JsonPath.BoundQuery
import JsonPath.Json.Reader
import JsonPath.Pattern.Cache
import JsonPath.Query.Edit
import JsonPath.Proofs.Canonical.RoundTrip
import JsonPath.Proofs.Typing.Soundness
import JsonPath.Proofs.Reordering.Evaluation
import JsonPath.Proofs.Reordering.Reading
import JsonPath.Proofs.Tagged.Bijection
import JsonPath.Proofs.Parser.Accepted
import JsonPath.Proofs.Rereading.Reparsing
import JsonPath.Proofs.Canonical.AsRead
import JsonPath.Proofs.Scoping.Concatenation
import JsonPath.Proofs.Scoping.Registries
import JsonPath.Proofs.Spacing.Gaps
import JsonPath.Proofs.Spacing.Adjacency
import JsonPath.Proofs.Spacing.Readers
import JsonPath.Proofs.Spacing.Insertion
import JsonPath.Proofs.Typing.Compared
import JsonPath.Proofs.Depth.Readers
import JsonPath.Proofs.Failures.Places
import JsonPath.Proofs.Failures.Positions
import JsonPath.Proofs.Failures.ShownLines
import JsonPath.Proofs.Arrays.Slices
import JsonPath.Proofs.Patterns.Caching
import JsonPath.Proofs.Registering.Calls
import JsonPath.Proofs.Extending.Completions
import JsonPath.Proofs.Extending.Segments
import JsonPath.Proofs.Extending.Expressions
import JsonPath.Proofs.Extending.Texts
import JsonPath.Proofs.Extending.Tokens
import JsonPath.Proofs.Extending.Queries
import JsonPath.Proofs.Locations.Paths
import JsonPath.Proofs.Locations.Selection
import JsonPath.Proofs.Locations.Descendants
import JsonPath.Proofs.Equality.Numbers
import JsonPath.Proofs.Equality.Values
import JsonPath.Proofs.Equality.Ordering
import JsonPath.Proofs.Quoting.Strings
import JsonPath.Proofs.Tagged.Malformed
import JsonPath.Proofs.Filters.Sets
import JsonPath.Proofs.Arrays.Indexes
import JsonPath.Proofs.Failures.Clauses
import JsonPath.Proofs.Spacing.Tiling
import JsonPath.Proofs.Patterns.Anchored
