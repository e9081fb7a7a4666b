import PageCheck.Main
import PageCheck.Proofs.CompleteOutline
import PageCheck.Proofs.InvisibleComments
import PageCheck.Proofs.LeafContent
import PageCheck.Proofs.LiveTags
import PageCheck.Proofs.SkeletonOrder
import PageCheck.Proofs.WellFormedPages
import PageCheck.Proofs.LetterCase
import PageCheck.Proofs.AttributeMaps
import PageCheck.Proofs.CaseInsensitivity
import PageCheck.Proofs.ChainFindings
import PageCheck.Proofs.LeafOrigins
import PageCheck.Proofs.Partners
import PageCheck.Proofs.HeadingLanguage
import PageCheck.Proofs.Alternation
import PageCheck.Proofs.ParagraphLanguage
import PageCheck.Proofs.AnchorLanguage
import PageCheck.Proofs.LeafOrder
import PageCheck.Proofs.Defects
import PageCheck.Proofs.DoctypeLanguage
import PageCheck.Proofs.AttributeViews
import PageCheck.Proofs.Quoting
import PageCheck.Proofs.HiddenText
import PageCheck.Proofs.Overrides
import PageCheck.Proofs.TagExpression
import PageCheck.Proofs.RelativeLinks
