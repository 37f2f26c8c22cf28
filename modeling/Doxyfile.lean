import Doxyfile.Main
import Doxyfile.Proofs.Context.Failure
import Doxyfile.Proofs.Template.Writing
import Doxyfile.Proofs.Context.Dependence
import Doxyfile.Proofs.Settings.Layering
import Doxyfile.Proofs.Template.Joining
import Doxyfile.Proofs.Context.Joining
import Doxyfile.Proofs.Template.Renaming
import Doxyfile.Proofs.Text.Splicing
import Doxyfile.Proofs.Context.Repair
import Doxyfile.Proofs.Context.History
import Doxyfile.Proofs.CommandLine.Rendering
import Doxyfile.Proofs.CommandLine.Delivery
import Doxyfile.Proofs.CommandLine.Checking
import Doxyfile.Proofs.Text.InPlace
import Doxyfile.Proofs.Context.LineBreaks
import Doxyfile.Proofs.Template.LongestMatch
import Doxyfile.Proofs.Template.Trimming
import Doxyfile.Proofs.Template.WellFormed
import Doxyfile.Proofs.Settings.Writing
import Doxyfile.Proofs.Settings.Acceptance
import Doxyfile.Proofs.Context.PathLists
import Doxyfile.Proofs.Template.Delimiters
import Doxyfile.Proofs.Report.Lines
import Doxyfile.Proofs.Report.Location
import Doxyfile.Proofs.Template.Lookups
