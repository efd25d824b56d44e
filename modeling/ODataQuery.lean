import ODataQuery.Main
import ODataQuery.Proofs.Literal.Canonical
import ODataQuery.Proofs.Filter.Defects
import ODataQuery.Proofs.Filter.Injective
import ODataQuery.Proofs.Filter.LooseShapes
import ODataQuery.Proofs.Filter.Qualifiers
import ODataQuery.Proofs.Filter.Reading
import ODataQuery.Proofs.Command.Service
import ODataQuery.Proofs.Command.Sessions
import ODataQuery.Proofs.Request.Pages
import ODataQuery.Proofs.Request.Parts
import ODataQuery.Proofs.Store.Frames
import ODataQuery.Proofs.Filter.Grouping
import ODataQuery.Proofs.Filter.Ignored
import ODataQuery.Proofs.Command.Failures
import ODataQuery.Proofs.Store.Fallback
import ODataQuery.Proofs.Filter.Choices
import ODataQuery.Proofs.Filter.LooseForm
import ODataQuery.Proofs.Filter.LooseText
import ODataQuery.Proofs.Filter.UnknownNames
import ODataQuery.Proofs.Filter.Warnings
import ODataQuery.Proofs.Filter.Spellings
import ODataQuery.Proofs.Request.PageParts
import ODataQuery.Proofs.Request.RecordUrls
import ODataQuery.Proofs.Json.Rearranged
import ODataQuery.Proofs.Store.Versions
