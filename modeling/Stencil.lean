import Stencil.Proofs.AcceptedCalls
import Stencil.Proofs.ArgumentLengths
import Stencil.Proofs.ArgumentScan
import Stencil.Proofs.CallListings
import Stencil.Proofs.CallOrder
import Stencil.Proofs.CallShape
import Stencil.Proofs.ConstantExpressions
import Stencil.Proofs.DateFields
import Stencil.Proofs.DateFormats
import Stencil.Proofs.DayNumbers
import Stencil.Proofs.DecimalTexts
import Stencil.Proofs.EscapedMarkup
import Stencil.Proofs.EscapedTexts
import Stencil.Proofs.FailureOrigins
import Stencil.Proofs.FirstFailure
import Stencil.Proofs.FunctionNames
import Stencil.Proofs.GroupedNumbers
import Stencil.Proofs.JoinedArguments
import Stencil.Proofs.JoinedChains
import Stencil.Proofs.JoinedTexts
import Stencil.Proofs.LenientRenders
import Stencil.Proofs.LexemeSpans
import Stencil.Proofs.LiteralCalls
import Stencil.Proofs.NearestDoubles
import Stencil.Proofs.NestedExpressions
import Stencil.Proofs.NestedValues
import Stencil.Proofs.NestingDepth
import Stencil.Proofs.OutermostTags
import Stencil.Proofs.PaddedChains
import Stencil.Proofs.PaddedTexts
import Stencil.Proofs.QuotedValues
import Stencil.Proofs.RegistrationHistory
import Stencil.Proofs.ReplacedTags
import Stencil.Proofs.RoundedDecimals
import Stencil.Proofs.SettledTexts
import Stencil.Proofs.SingleTags
import Stencil.Proofs.Slugs
import Stencil.Proofs.SplitTexts
import Stencil.Proofs.TagLevels
import Stencil.Proofs.TokenGrammar
import Stencil.Proofs.UnboundVariables
import Stencil.Proofs.UnixTimes
import Stencil.Proofs.VariableReads
import Stencil.Proofs.Verdicts
import Stencil.Proofs.WholeSeconds
import Stencil.Session
import Stencil.Validity
