import ApiPage.Example.Basic
import ApiPage.Log.Record
import ApiPage.Log.Setup
import ApiPage.Page.Rendering
import ApiPage.Page.Session
import ApiPage.Proofs.Line
import ApiPage.Proofs.Annotated
import ApiPage.Proofs.Displayed
import ApiPage.Proofs.Grammar.Statements
import ApiPage.Proofs.Identified
import ApiPage.Proofs.Targets
import ApiPage.Proofs.Failures
import ApiPage.Proofs.AnchorNames
import ApiPage.Proofs.Outlines
import ApiPage.Proofs.Loading
import ApiPage.Proofs.Documents
import ApiPage.Proofs.Bindings
import ApiPage.Proofs.Destinations
import ApiPage.Proofs.InPage
import ApiPage.Proofs.Landings
import ApiPage.Proofs.Rendered
import ApiPage.Proofs.Unmarked
import ApiPage.Proofs.Sessions
import ApiPage.Proofs.OfferedNames
import ApiPage.Proofs.LinkedUrls
import ApiPage.Proofs.Indents
import ApiPage.Proofs.Matches
import ApiPage.Proofs.Blocks
import ApiPage.Proofs.FirstBlock
import ApiPage.Proofs.ValueGroups
import ApiPage.Proofs.ClassMembers
import ApiPage.Proofs.RepeatedElision
import ApiPage.Proofs.FunctionBodies
import ApiPage.Proofs.UnlinkedNames
import ApiPage.Proofs.ShownCode
import ApiPage.Proofs.LinkLists
import ApiPage.Proofs.Segments
import ApiPage.Proofs.Synopses
import ApiPage.Proofs.Configurations
import ApiPage.Proofs.LogSetup
import ApiPage.Proofs.Titles
import ApiPage.Proofs.TokenPlaces
import ApiPage.Proofs.Passes
import ApiPage.Proofs.ConvertedQuotes
